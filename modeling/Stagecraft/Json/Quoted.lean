import Stagecraft.Json.Numeral

/-!
# Quoted texts

A JSON string as it stands between its quotes, and the text it spells.
-/

namespace Stagecraft

/-- The characters after an opening quote, escapes and all, and what went wrong
before the closing quote, if anything did. A body that breaks off inside an
escape ends with the backslash. -/
structure Quoted where
  body : List Char
  fault : Option Fault
deriving DecidableEq, Repr

namespace Quoted

/-! ## Finding the closing quote -/

def hexValue? (char : Char) : Option Nat :=
  if char.isDigit then
    some (char.toNat - '0'.toNat)
  else if 'a' ≤ char && char ≤ 'f' then
    some (char.toNat - 'a'.toNat + 10)
  else if 'A' ≤ char && char ≤ 'F' then
    some (char.toNat - 'A'.toNat + 10)
  else
    none

/-- The sixteen-bit unit that four hexadecimal digits spell. -/
def unit? (first second third fourth : Char) : Option Nat := do
  let a ← hexValue? first
  let b ← hexValue? second
  let c ← hexValue? third
  let d ← hexValue? fourth
  return ((a * 16 + b) * 16 + c) * 16 + d

def escaped? (letter : Char) : Option Char :=
  match letter with
  | '"' => some '"'
  | '\\' => some '\\'
  | '/' => some '/'
  | 'b' => some (Char.ofNat 8)
  | 'f' => some (Char.ofNat 12)
  | 'n' => some '\n'
  | 'r' => some '\r'
  | 't' => some '\t'
  | _ => none

def byteCount (chars : List Char) : Nat :=
  (String.ofList chars).utf8ByteSize

/-- What ails a hexadecimal escape whose four digits are not all there: fewer
than four bytes are left, or one of them is no digit. -/
def hexFault (chars : List Char) : Fault :=
  if byteCount chars < 4 then .truncated else .malformed

/-- Puts characters in front of a body. -/
def prepend (chars : List Char) (scanned : Quoted × List Char) :
    Quoted × List Char :=
  (⟨chars ++ scanned.1.body, scanned.1.fault⟩, scanned.2)

/-- Reads up to the closing quote. Escapes must be known ones and control
characters are refused; whether units pair up is left open. -/
def scan : List Char → Quoted × List Char
  | [] => (⟨[], some .truncated⟩, [])
  | '"' :: rest => (⟨[], none⟩, rest)
  | '\\' :: 'u' :: a :: b :: c :: d :: rest =>
      match unit? a b c d with
      | some _ => prepend ['\\', 'u', a, b, c, d] (scan rest)
      | none => (⟨['\\'], some .malformed⟩, rest)
  | '\\' :: 'u' :: rest => (⟨['\\'], some (hexFault rest)⟩, rest)
  | '\\' :: letter :: rest =>
      match escaped? letter with
      | some _ => prepend ['\\', letter] (scan rest)
      | none => (⟨['\\'], some .malformed⟩, rest)
  | ['\\'] => (⟨['\\'], some .truncated⟩, [])
  | char :: rest =>
      if char.toNat < 0x20 then
        (⟨[], some .malformed⟩, rest)
      else
        prepend [char] (scan rest)

/-! ## The spelled text -/

def isLeadUnit (unit : Nat) : Bool := 0xD800 ≤ unit && unit ≤ 0xDBFF

def isTrailUnit (unit : Nat) : Bool := 0xDC00 ≤ unit && unit ≤ 0xDFFF

def pairedChar (lead trail : Nat) : Char :=
  Char.ofNat (0x10000 + (lead - 0xD800) * 0x400 + (trail - 0xDC00))

/-- The text that a body spells. An unpaired surrogate is malformed, unless the
text ends where its partner could still follow. -/
def decode (ending : Option Fault) : List Char → Except Fault (List Char)
  | [] =>
      match ending with
      | none => .ok []
      | some fault => .error fault
  | '\\' :: 'u' :: a :: b :: c :: d :: rest =>
      match unit? a b c d with
      | none => .error .malformed
      | some unit =>
          if isTrailUnit unit then
            .error .malformed
          else if isLeadUnit unit then
            match rest with
            | '\\' :: 'u' :: e :: f :: g :: h :: after =>
                match unit? e f g h with
                | none => .error .malformed
                | some partner =>
                    if isTrailUnit partner then
                      (decode ending after).map (pairedChar unit partner :: ·)
                    else
                      .error .malformed
            | [] => .error (ending.getD .malformed)
            | ['\\'] => .error (ending.getD .malformed)
            | _ => .error .malformed
          else
            (decode ending rest).map (Char.ofNat unit :: ·)
  | '\\' :: letter :: rest =>
      match escaped? letter with
      | none => .error .malformed
      | some char => (decode ending rest).map (char :: ·)
  | char :: rest => (decode ending rest).map (char :: ·)

/-- The text between the quotes, or why it cannot be read. -/
def text (quoted : Quoted) : Except Fault String :=
  (decode quoted.fault quoted.body).map String.ofList

/-! ## Spelling a text -/

def hexDigits (unit : Nat) : List Char :=
  let digits := Nat.toDigits 16 unit
  List.replicate (4 - digits.length) '0' ++ digits

/-- One character as it stands between quotes: the quote, the backslash and
control characters are escaped. -/
def escapeChar (char : Char) : List Char :=
  match char with
  | '"' => ['\\', '"']
  | '\\' => ['\\', '\\']
  | '\n' => ['\\', 'n']
  | '\r' => ['\\', 'r']
  | '\t' => ['\\', 't']
  | other =>
      if other.toNat == 8 then
        ['\\', 'b']
      else if other.toNat == 12 then
        ['\\', 'f']
      else if other.toNat < 0x20 then
        '\\' :: 'u' :: hexDigits other.toNat
      else
        [other]

def spell (text : String) : List Char :=
  '"' :: (text.toList.flatMap escapeChar ++ ['"'])

end Quoted

end Stagecraft
