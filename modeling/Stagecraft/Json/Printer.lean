import Stagecraft.Json.Quoted

/-!
# Writing JSON

The text of a value, on one line or indented. Every number is written exactly.
-/

namespace Stagecraft.Json

/-! ## Numbers -/

def natChars (value : Nat) : List Char := Nat.toDigits 10 value

def intChars : Int → List Char
  | .ofNat value => natChars value
  | .negSucc value => '-' :: natChars (value + 1)

/-- Halves a mantissa while it is even; the measure bounds the number of
halvings. -/
def oddPart : Nat → Nat → Int → Nat × Int
  | 0, mantissa, exponent => (mantissa, exponent)
  | measure + 1, mantissa, exponent =>
      if mantissa % 2 = 0 then
        oddPart measure (mantissa / 2) (exponent + 1)
      else
        (mantissa, exponent)

/-- The exact value `mantissa * 2 ^ exponent` in decimal: a negative power of
two is a power of five over a power of ten. -/
def binaryChars (mantissa : Nat) (exponent : Int) : List Char :=
  let (odd, scale) := oddPart mantissa.log2 mantissa exponent
  if 0 ≤ scale then
    natChars (odd * Nat.pow 2 scale.natAbs) ++ ['.', '0']
  else
    natChars (odd * Nat.pow 5 scale.natAbs) ++ ['e', '-'] ++
      natChars scale.natAbs

def signChars : Float.Model.UnpackedFloat.Sign → List Char
  | .positive => []
  | .negative => ['-']

/-- The exact value of a finite real number; there is no other way to write one
that is not finite than `null`. -/
def realChars (value : Float) : List Char :=
  match Float.Model.UnpackedFloat.unpack Float.Model.Format.binary64
      value.toBits.toBitVec with
  | .finite sign mantissa exponent _ =>
      signChars sign ++ binaryChars mantissa exponent
  | .zero sign => signChars sign ++ ['0', '.', '0']
  | _ => ['n', 'u', 'l', 'l']

def numberChars : Number → List Char
  | .integer value => intChars value
  | .real value => realChars value

def scalarChars : Json → List Char
  | .null => ['n', 'u', 'l', 'l']
  | .bool true => ['t', 'r', 'u', 'e']
  | .bool false => ['f', 'a', 'l', 's', 'e']
  | .number value => numberChars value
  | .text value => Quoted.spell value
  | .array _ => ['[', ']']
  | .object _ => ['{', '}']

/-! ## On one line -/

mutual

def compactChars : Json → List Char
  | .array items => '[' :: (compactItems items ++ [']'])
  | .object members => '{' :: (compactMembers members ++ ['}'])
  | scalar => scalarChars scalar

def compactItems : List Json → List Char
  | [] => []
  | [item] => compactChars item
  | item :: rest => compactChars item ++ ',' :: compactItems rest

def compactMembers : List (String × Json) → List Char
  | [] => []
  | [(key, value)] => Quoted.spell key ++ ':' :: compactChars value
  | (key, value) :: rest =>
      Quoted.spell key ++ ':' :: (compactChars value ++
        ',' :: compactMembers rest)

end

def compact (json : Json) : String := String.ofList (compactChars json)

/-! ## Indented -/

def newLine (level : Nat) : List Char := '\n' :: List.replicate (2 * level) ' '

mutual

def indentedChars (level : Nat) : Json → List Char
  | .array (item :: rest) =>
      '[' :: (newLine (level + 1) ++ indentedChars (level + 1) item ++
        indentedItems (level + 1) rest ++ newLine level ++ [']'])
  | .object ((key, value) :: rest) =>
      '{' :: (newLine (level + 1) ++ Quoted.spell key ++
        ':' :: ' ' :: (indentedChars (level + 1) value ++
          indentedMembers (level + 1) rest ++ newLine level ++ ['}']))
  | other => scalarChars other

def indentedItems (level : Nat) : List Json → List Char
  | [] => []
  | item :: rest =>
      ',' :: (newLine level ++ indentedChars level item ++
        indentedItems level rest)

def indentedMembers (level : Nat) : List (String × Json) → List Char
  | [] => []
  | (key, value) :: rest =>
      ',' :: (newLine level ++ Quoted.spell key ++
        ':' :: ' ' :: (indentedChars level value ++
          indentedMembers level rest))

end

def indented (json : Json) : String := String.ofList (indentedChars 0 json)

end Stagecraft.Json
