/-!
# XML characters

The character classes of XML 1.0 that markup is made of.
-/

namespace Stagecraft.Xml

def inRanges (code : Nat) (ranges : List (Nat × Nat)) : Bool :=
  ranges.any fun (low, high) => low ≤ code && code ≤ high

/-- Characters that a document may hold. -/
def isAllowed (char : Char) : Bool :=
  let code := char.toNat
  if code < 0x20 then
    code == 9 || code == 10 || code == 13
  else
    code != 0xFFFE && code != 0xFFFF

def isSpace (char : Char) : Bool :=
  char == ' ' || char == '\t' || char == '\n' || char == '\r'

/-- Codes beyond ASCII that may start a name. -/
def nameStartRanges : List (Nat × Nat) :=
  [(0xC0, 0xD6), (0xD8, 0xF6), (0xF8, 0x2FF), (0x370, 0x37D),
    (0x37F, 0x1FFF), (0x200C, 0x200D), (0x2070, 0x218F), (0x2C00, 0x2FEF),
    (0x3001, 0xD7FF), (0xF900, 0xFDCF), (0xFDF0, 0xFFFD), (0x10000, 0xEFFFF)]

/-- Codes beyond ASCII that may only continue a name. -/
def nameOnlyRanges : List (Nat × Nat) :=
  [(0xB7, 0xB7), (0x300, 0x36F), (0x203F, 0x2040)]

def isNameStart (char : Char) : Bool :=
  char.isAlpha || char == ':' || char == '_' ||
    inRanges char.toNat nameStartRanges

def isNameChar (char : Char) : Bool :=
  isNameStart char || char.isDigit || char == '-' || char == '.' ||
    inRanges char.toNat nameOnlyRanges

def skipSpace (chars : List Char) : List Char := chars.dropWhile isSpace

def after? : List Char → List Char → Option (List Char)
  | [], chars => some chars
  | _ :: _, [] => none
  | letter :: literal, char :: rest =>
      if letter == char then after? literal rest else none

def occurs (literal : List Char) : List Char → Bool
  | [] => literal.isEmpty
  | char :: rest =>
      (after? literal (char :: rest)).isSome || occurs literal rest

/-- Splits a text at the first occurrence of a literal, which is dropped. All
characters before it must be allowed ones. -/
def splitAt? (literal : List Char) :
    List Char → Option (List Char × List Char)
  | [] => none
  | char :: rest =>
      match after? literal (char :: rest) with
      | some remaining => some ([], remaining)
      | none =>
          if isAllowed char then
            (splitAt? literal rest).map fun (before, remaining) =>
              (char :: before, remaining)
          else
            none

end Stagecraft.Xml
