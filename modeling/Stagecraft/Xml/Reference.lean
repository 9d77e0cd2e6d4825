import Stagecraft.Xml.Character
import Stagecraft.Json.Quoted

/-!
# Character data

References to characters, and the attribute values and texts that hold them.
-/

namespace Stagecraft.Xml

/-- The largest code that a reference can spell. -/
def codeLimit : Nat := UInt32.size - 1

/-- The character of a code; codes of no character give the replacement
character. Characters that a document may not hold are refused. -/
def ofCode? (code : Nat) : Option Char :=
  if codeLimit < code then
    none
  else
    let char := if code.isValidChar then Char.ofNat code else Char.ofNat 0xFFFD
    if isAllowed char then some char else none

def hexValue (digits : List Char) : Nat :=
  digits.foldl
    (fun value digit => value * 16 + (Quoted.hexValue? digit).getD 0) 0

def entity? (name : String) : Option Char :=
  match name with
  | "quot" => some '"'
  | "amp" => some '&'
  | "apos" => some (Char.ofNat 39)
  | "lt" => some '<'
  | "gt" => some '>'
  | _ => none

def endReference (char : Char) : List Char → Option (Char × List Char)
  | ';' :: rest => some (char, rest)
  | _ => none

/-- The character that a reference stands for, given the text after its
ampersand, and the text after the reference. -/
def reference? (chars : List Char) : Option (Char × List Char) :=
  match chars with
  | '#' :: 'x' :: rest =>
      let isHex (char : Char) : Bool := (Quoted.hexValue? char).isSome
      let digits := rest.takeWhile isHex
      if digits.isEmpty then
        none
      else do
        endReference (← ofCode? (hexValue digits)) (rest.dropWhile isHex)
  | '#' :: rest =>
      let digits := rest.takeWhile Char.isDigit
      if digits.isEmpty then
        none
      else do
        endReference (← ofCode? (Text.digitsValue digits))
          (rest.dropWhile Char.isDigit)
  | first :: rest =>
      if isNameStart first then do
        let name := first :: rest.takeWhile isNameChar
        endReference (← entity? (String.ofList name))
          (rest.dropWhile isNameChar)
      else
        none
  | [] => none

/-- A written attribute value as the attribute has it: references become
characters, and literal line ends and tabs become spaces. The measure bounds the
number of characters. -/
def attributeValue? : Nat → List Char → Option (List Char)
  | _, [] => some []
  | 0, _ :: _ => none
  | measure + 1, '&' :: rest => do
      let (char, after) ← reference? rest
      return char :: (← attributeValue? measure after)
  | measure + 1, '\r' :: '\n' :: rest => do
      return ' ' :: (← attributeValue? measure rest)
  | measure + 1, char :: rest => do
      let kept := if isSpace char then ' ' else char
      return kept :: (← attributeValue? measure rest)

/-- Whether the references of a text are all known. The measure bounds the
number of characters. -/
def referencesKnown : Nat → List Char → Bool
  | _, [] => true
  | 0, _ :: _ => false
  | measure + 1, '&' :: rest =>
      match reference? rest with
      | some (_, after) => referencesKnown measure after
      | none => false
  | measure + 1, _ :: rest => referencesKnown measure rest

end Stagecraft.Xml
