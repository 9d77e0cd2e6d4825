import Stagecraft.Json.Quoted

/-!
# Fragments

What a JSON text yields as far as it is well formed. A fragment is a value whose
reading may have broken off: the fault then stands where it arose. Readers of
content walk a fragment in text order, so the first fault or misfit wins.
-/

namespace Stagecraft

/-- A value as far as its text could be read. Containers end with a fault when
what follows an item is neither a separator nor the closing bracket. -/
inductive Fragment where
  | null
  | bool (value : Bool)
  | number (numeral : Numeral)
  | text (quoted : Quoted)
  | array (items : List Fragment) (fault : Option Fault)
  | object (members : List (Quoted × Fragment)) (fault : Option Fault)
  /-- A number in which the text ends. -/
  | cutNumber
  | broken (fault : Fault)
deriving Inhabited

namespace Fragment

/-! ## Reading text -/

def isSpace (char : Char) : Bool :=
  char == ' ' || char == '\n' || char == '\t' || char == '\r'

def skipSpace (chars : List Char) : List Char := chars.dropWhile isSpace

def scanWord : List Char → List Char → Except Fault (List Char)
  | [], chars => .ok chars
  | _ :: _, [] => .error .truncated
  | letter :: word, char :: rest =>
      if char == letter then scanWord word rest else .error .malformed

def keyword (value : Fragment) (word chars : List Char) :
    Fragment × List Char :=
  match scanWord word chars with
  | .ok rest => (value, rest)
  | .error fault => (.broken fault, [])

def numeral (chars : List Char) : Fragment × List Char :=
  match Numeral.scan chars with
  | .ok (numeral, rest) => (.number numeral, rest)
  | .error .truncated => (.cutNumber, [])
  | .error .malformed => (.broken .malformed, [])

/-- Items or members read so far, the fault they end with, and the text that
was not read. -/
structure Contents (α : Type) where
  entries : List α
  fault : Option Fault
  rest : List Char

def Contents.cons {α : Type} (entry : α) (contents : Contents α) : Contents α :=
  { contents with entries := entry :: contents.entries }

mutual

/-- Reads one value. The measure bounds the number of characters. -/
def readValue : Nat → List Char → Fragment × List Char
  | 0, chars => (.broken .truncated, chars)
  | measure + 1, chars =>
      match skipSpace chars with
      | [] => (.broken .truncated, [])
      | 'n' :: rest => keyword .null ['u', 'l', 'l'] rest
      | 't' :: rest => keyword (.bool true) ['r', 'u', 'e'] rest
      | 'f' :: rest => keyword (.bool false) ['a', 'l', 's', 'e'] rest
      | '"' :: rest =>
          let (quoted, after) := Quoted.scan rest
          (.text quoted, after)
      | '[' :: rest =>
          let contents := readItems measure rest
          (.array contents.entries contents.fault, contents.rest)
      | '{' :: rest =>
          let contents := readMembers measure rest
          (.object contents.entries contents.fault, contents.rest)
      | first :: rest =>
          if first == '-' || first.isDigit then
            numeral (first :: rest)
          else
            (.broken .malformed, rest)

def readItems : Nat → List Char → Contents Fragment
  | 0, chars => ⟨[], some .truncated, chars⟩
  | measure + 1, chars =>
      match skipSpace chars with
      | [] => ⟨[], some .truncated, []⟩
      | ']' :: rest => ⟨[], none, rest⟩
      | first :: rest =>
          let (item, after) := readValue measure (first :: rest)
          (readMoreItems measure after).cons item

/-- Reads what follows an item. -/
def readMoreItems : Nat → List Char → Contents Fragment
  | 0, chars => ⟨[], some .truncated, chars⟩
  | measure + 1, chars =>
      match skipSpace chars with
      | [] => ⟨[], some .truncated, []⟩
      | ']' :: rest => ⟨[], none, rest⟩
      | ',' :: rest =>
          let (item, after) := readValue measure rest
          (readMoreItems measure after).cons item
      | _ :: rest => ⟨[], some .malformed, rest⟩

def readMembers : Nat → List Char → Contents (Quoted × Fragment)
  | 0, chars => ⟨[], some .truncated, chars⟩
  | measure + 1, chars =>
      match skipSpace chars with
      | [] => ⟨[], some .truncated, []⟩
      | '}' :: rest => ⟨[], none, rest⟩
      | first :: rest => readMember measure (first :: rest)

def readMember : Nat → List Char → Contents (Quoted × Fragment)
  | 0, chars => ⟨[], some .truncated, chars⟩
  | measure + 1, chars =>
      match skipSpace chars with
      | [] => ⟨[], some .truncated, []⟩
      | '"' :: rest =>
          let (key, afterKey) := Quoted.scan rest
          match skipSpace afterKey with
          | [] => ⟨[(key, .broken .truncated)], some .truncated, []⟩
          | ':' :: afterColon =>
              let (value, after) := readValue measure afterColon
              (readMoreMembers measure after).cons (key, value)
          | _ :: rest => ⟨[(key, .broken .malformed)], some .malformed, rest⟩
      | _ :: rest => ⟨[], some .malformed, rest⟩

def readMoreMembers : Nat → List Char → Contents (Quoted × Fragment)
  | 0, chars => ⟨[], some .truncated, chars⟩
  | measure + 1, chars =>
      match skipSpace chars with
      | [] => ⟨[], some .truncated, []⟩
      | '}' :: rest => ⟨[], none, rest⟩
      | ',' :: rest => readMember measure rest
      | _ :: rest => ⟨[], some .malformed, rest⟩

end

/-- The first value of a text and the text after it. -/
def scan (chars : List Char) : Fragment × List Char :=
  readValue (2 * chars.length + 1) chars

/-- The first value of a text; what follows it is not read. -/
def ofText (text : String) : Fragment := (scan text.toList).1

/-! ## Passing over a value -/

/-- A fault, if there is one. -/
def check : Option Fault → Except Fault Unit
  | none => .ok ()
  | some fault => .error fault

mutual

/-- Passes over a value of no interest: its text must be well formed, nothing
else is asked of it. A number in which the text ends is no number at all. -/
def skip : Fragment → Except Fault Unit
  | .text quoted => check quoted.fault
  | .array items fault => skipItems fault items
  | .object members fault => skipMembers fault members
  | .cutNumber => .error .malformed
  | .broken fault => .error fault
  | _ => .ok ()

def skipItems (ending : Option Fault) : List Fragment → Except Fault Unit
  | [] => check ending
  | item :: rest => do
      skip item
      skipItems ending rest

def skipMembers (ending : Option Fault) :
    List (Quoted × Fragment) → Except Fault Unit
  | [] => check ending
  | (key, value) :: rest => do
      check key.fault
      skip value
      skipMembers ending rest

end

/-! ## The whole value -/

/-- The number of containers that may be open at once. -/
def depthLimit : Nat := 127

/-- Refuses to open one more container when the limit is reached. -/
def enter (enclosing : Nat) : Except Fault Unit :=
  if enclosing < depthLimit then .ok () else .error .malformed

mutual

/-- The complete value, read inside the given number of open containers.
Repeated keys are kept. -/
def whole (enclosing : Nat) : Fragment → Except Fault Json
  | .null => .ok .null
  | .bool value => .ok (.bool value)
  | .number numeral =>
      match numeral.value with
      | some value => .ok (.number value)
      | none => .error .malformed
  | .text quoted => quoted.text.map .text
  | .array items fault => do
      enter enclosing
      return .array (← wholeItems (enclosing + 1) fault items)
  | .object members fault => do
      enter enclosing
      return .object (← wholeMembers (enclosing + 1) fault members)
  | .cutNumber => .error .truncated
  | .broken fault => .error fault

/-- The complete items of an array. -/
def wholeItems (enclosing : Nat) (ending : Option Fault) :
    List Fragment → Except Fault (List Json)
  | [] => (check ending).map fun _ => []
  | item :: rest => do
      let value ← whole enclosing item
      return value :: (← wholeItems enclosing ending rest)

def wholeMembers (enclosing : Nat) (ending : Option Fault) :
    List (Quoted × Fragment) → Except Fault (List (String × Json))
  | [] => (check ending).map fun _ => []
  | (key, member) :: rest => do
      let name ← key.text
      let value ← whole enclosing member
      return (name, value) :: (← wholeMembers enclosing ending rest)

end

end Fragment

end Stagecraft
