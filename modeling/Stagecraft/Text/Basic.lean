/-!
# Plain texts

Trimming, splitting and plain decimal spellings, as attributes, settings and paths
need them.
-/

namespace Stagecraft.Text

/-! ## White space -/

/-- Characters with the Unicode property White_Space. -/
def isBlank (char : Char) : Bool :=
  let code := char.toNat
  (9 ≤ code && code ≤ 13) || code == 0x20 || code == 0x85 || code == 0xA0 ||
    code == 0x1680 || (0x2000 ≤ code && code ≤ 0x200A) || code == 0x2028 ||
    code == 0x2029 || code == 0x202F || code == 0x205F || code == 0x3000

/-- A text without the white space at its two ends. -/
def trimChars (chars : List Char) : List Char :=
  ((chars.dropWhile isBlank).reverse.dropWhile isBlank).reverse

/-- A text without the white space at its two ends. -/
def trim (text : String) : String :=
  String.ofList (trimChars text.toList)

/-- The ASCII letters of a text in lower case, everything else unchanged. -/
def lowerAscii (text : String) : String :=
  String.ofList (text.toList.map Char.toLower)

/-! ## Parts -/

def splitAt (separator : Char) : List Char → List (List Char)
  | [] => [[]]
  | char :: rest =>
      if char == separator then
        [] :: splitAt separator rest
      else
        match splitAt separator rest with
        | [] => [[char]]
        | first :: others => (char :: first) :: others

/-! ## Written numbers -/

def digitsValue (digits : List Char) : Nat :=
  digits.foldl (fun value digit => value * 10 + (digit.toNat - '0'.toNat)) 0

/-- An unsigned number of at most `limit`: an optional plus sign, then one or
more ASCII digits. -/
def readNatural (limit : Nat) (chars : List Char) : Option Nat :=
  let digits :=
    match chars with
    | '+' :: rest => rest
    | other => other
  if digits.isEmpty || !digits.all Char.isDigit then
    none
  else if digitsValue digits ≤ limit then
    some (digitsValue digits)
  else
    none

inductive NaturalFault where
  | empty
  | badDigit
  | tooLarge
deriving DecidableEq, Repr

/-- What is wrong with a text that is no unsigned number of at most `limit`. It is
read from the left, so the number may be too large before a bad digit is met. -/
def naturalFault (limit : Nat) (chars : List Char) : NaturalFault :=
  let digits :=
    match chars with
    | '+' :: rest => rest
    | other => other
  if chars.isEmpty then
    .empty
  else if digitsValue (digits.takeWhile Char.isDigit) ≤ limit then
    .badDigit
  else
    .tooLarge

/-- The exponent part of a real number: nothing, or a letter, an optional sign
and one or more digits. -/
def readExponent (chars : List Char) : Option Int :=
  match chars with
  | [] => some 0
  | mark :: rest =>
      if mark == 'e' || mark == 'E' then
        let (negative, digits) :=
          match rest with
          | '-' :: digits => (true, digits)
          | '+' :: digits => (false, digits)
          | digits => (false, digits)
        if digits.isEmpty || !digits.all Char.isDigit then
          none
        else if negative then
          some (-(digitsValue digits : Int))
        else
          some (digitsValue digits)
      else
        none

/-- The binary32 value nearest to `digits * 10 ^ exponent`. -/
def nearestSingle (digits : Nat) (exponent : Int) : Float32 :=
  if exponent < 0 then
    Float32.ofScientific digits true exponent.natAbs
  else
    Float32.ofScientific digits false exponent.natAbs

/-- An unsigned real number: digits with an optional point, at least one digit
in all, and an optional exponent. -/
def readUnsignedSingle (chars : List Char) : Option Float32 :=
  let whole := chars.takeWhile Char.isDigit
  let afterWhole := chars.dropWhile Char.isDigit
  let (fraction, afterFraction) :=
    match afterWhole with
    | '.' :: rest => (rest.takeWhile Char.isDigit, rest.dropWhile Char.isDigit)
    | rest => ([], rest)
  if whole.isEmpty && fraction.isEmpty then
    none
  else
    (readExponent afterFraction).map fun exponent =>
      nearestSingle (digitsValue (whole ++ fraction))
        (exponent - (fraction.length : Int))

/-- The quiet NaN. -/
def notANumber : Float32 := Float32.ofBits 0x7fc00000

def infinity : Float32 := Float32.ofBits 0x7f800000

/-- A real number: an optional sign, then digits or one of the words `inf`,
`infinity` and `nan` in any case. The value is rounded once. -/
def readSingle (chars : List Char) : Option Float32 :=
  let (negative, rest) :=
    match chars with
    | '-' :: rest => (true, rest)
    | '+' :: rest => (false, rest)
    | rest => (false, rest)
  let word := rest.map Char.toLower
  let magnitude :=
    if word == "inf".toList || word == "infinity".toList then
      some infinity
    else if word == "nan".toList then
      some notANumber
    else
      readUnsignedSingle rest
  magnitude.map fun value => if negative then -value else value

end Stagecraft.Text
