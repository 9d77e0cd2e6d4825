import Stagecraft.Json.Basic
import Stagecraft.Text.Basic

/-!
# JSON numerals

The spelling of a number and the value it stands for.
-/

namespace Stagecraft

inductive Fault where
  /-- The text breaks a rule of the format. -/
  | malformed
  /-- The text ends too early. -/
  | truncated
deriving DecidableEq, Repr

/-- A spelled number: sign, digits before and after the point, and the sign
and digits of the exponent. -/
structure Numeral where
  negative : Bool
  whole : List Char
  fraction : Option (List Char)
  exponent : Option (Bool × List Char)
deriving DecidableEq, Repr

namespace Numeral

/-! ## Spelling -/

/-- Splits off one or more digits. -/
def scanDigits (chars : List Char) : Except Fault (List Char × List Char) :=
  match chars with
  | [] => .error .truncated
  | first :: _ =>
      if first.isDigit then
        .ok (chars.takeWhile Char.isDigit, chars.dropWhile Char.isDigit)
      else
        .error .malformed

def scanWhole (chars : List Char) : Except Fault (List Char × List Char) :=
  match chars with
  | '0' :: rest =>
      match rest with
      | next :: _ => if next.isDigit then .error .malformed else .ok (['0'], rest)
      | [] => .ok (['0'], [])
  | _ => scanDigits chars

def scanFraction (chars : List Char) :
    Except Fault (Option (List Char) × List Char) :=
  match chars with
  | '.' :: rest =>
      (scanDigits rest).map fun (digits, after) => (some digits, after)
  | _ => .ok (none, chars)

def scanExponent (chars : List Char) :
    Except Fault (Option (Bool × List Char) × List Char) :=
  match chars with
  | mark :: rest =>
      if mark == 'e' || mark == 'E' then
        let (negative, digits) :=
          match rest with
          | '-' :: digits => (true, digits)
          | '+' :: digits => (false, digits)
          | digits => (false, digits)
        (scanDigits digits).map fun (digits, after) =>
          (some (negative, digits), after)
      else
        .ok (none, chars)
  | [] => .ok (none, [])

def scan (chars : List Char) : Except Fault (Numeral × List Char) := do
  let (negative, unsigned) :=
    match chars with
    | '-' :: rest => (true, rest)
    | rest => (false, rest)
  let (whole, afterWhole) ← scanWhole unsigned
  let (fraction, afterFraction) ← scanFraction afterWhole
  let (exponent, rest) ← scanExponent afterFraction
  return (⟨negative, whole, fraction, exponent⟩, rest)

/-! ## Value -/

def wordLimit : Nat := UInt64.size - 1

def signedLimit : Nat := UInt64.size / 2

/-- A run of leading digits that fits a word, and the power of ten that
goes with it. -/
structure Leading where
  significand : Nat
  scale : Int
  full : Bool
deriving DecidableEq, Repr

/-- Takes one more digit before the point. Once a digit does not fit, it and
all later ones only raise the scale. -/
def Leading.takeWhole (leading : Leading) (digit : Char) : Leading :=
  let grown := leading.significand * 10 + (digit.toNat - '0'.toNat)
  if leading.full || wordLimit < grown then
    { leading with scale := leading.scale + 1, full := true }
  else
    { leading with significand := grown }

/-- Takes one more digit after the point. Once a digit does not fit, it and all
later ones are dropped. -/
def Leading.takeFraction (leading : Leading) (digit : Char) : Leading :=
  let grown := leading.significand * 10 + (digit.toNat - '0'.toNat)
  if leading.full || wordLimit < grown then
    { leading with full := true }
  else
    { leading with significand := grown, scale := leading.scale - 1 }

/-- The largest power of ten that a binary64 value holds. -/
def powerLimit : Nat := 308

def powerOfTen (exponent : Nat) : Float :=
  Float.ofScientific 1 false exponent

/-- A value times a power of ten, in steps that a binary64 value can hold;
`none` if it grows beyond all finite values. -/
def scaleBy (value : Float) (exponent : Int) : Option Float :=
  if exponent.natAbs ≤ powerLimit then
    if 0 ≤ exponent then
      let product := value * powerOfTen exponent.natAbs
      if product.isInf then none else some product
    else
      some (value / powerOfTen exponent.natAbs)
  else if value == 0 then
    some value
  else if 0 ≤ exponent then
    none
  else
    scaleBy (value / powerOfTen powerLimit) (exponent + powerLimit)
termination_by exponent.natAbs
decreasing_by simp only [powerLimit] at *; omega

/-- The real value of a numeral: its leading digits as a binary64 value, scaled
by the remaining power of ten; `none` beyond the finite values. -/
def realValue (numeral : Numeral) : Option Float :=
  let whole := numeral.whole.foldl Leading.takeWhole ⟨0, 0, false⟩
  let leading :=
    (numeral.fraction.getD []).foldl Leading.takeFraction
      { whole with full := false }
  let exponent : Int :=
    match numeral.exponent with
    | none => 0
    | some (true, digits) => -(Text.digitsValue digits : Int)
    | some (false, digits) => Text.digitsValue digits
  (scaleBy (Float.ofNat leading.significand) (leading.scale + exponent)).map
    fun magnitude => if numeral.negative then -magnitude else magnitude

/-- The number a numeral stands for. Whole numbers of 64 bits are exact; minus
zero and everything else is real; `none` beyond the finite values. -/
def value (numeral : Numeral) : Option Number :=
  let magnitude := Text.digitsValue numeral.whole
  if numeral.fraction.isNone && numeral.exponent.isNone then
    if !numeral.negative && magnitude ≤ wordLimit then
      some (.integer (magnitude : Int))
    else if numeral.negative && 0 < magnitude &&
        magnitude ≤ signedLimit then
      some (.integer (-(magnitude : Int)))
    else
      numeral.realValue.map .real
  else
    numeral.realValue.map .real

end Numeral

end Stagecraft
