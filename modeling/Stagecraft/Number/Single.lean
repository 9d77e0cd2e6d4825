/-!
# Single precision

Coordinates and densities are binary32 values. This module converts them from
and to binary64, reads them from whole numbers and shows their bits.
-/

namespace Stagecraft.Single

open Float.Model

/-- The binary32 value nearest to a binary64 value, a tie going to the even
neighbour and an overflow to infinity. -/
def narrow (value : Float) : Float32 :=
  match UnpackedFloat.unpack Format.binary64 value.toBits.toBitVec with
  | .finite sign mantissa exponent _ =>
      Float32.ofBits ⟨UnpackedFloat.pack Format.binary32
        (UnpackedFloat.round Format.binary32 sign mantissa exponent)⟩
  | other =>
      Float32.ofBits ⟨UnpackedFloat.pack Format.binary32 other⟩

def widen (value : Float32) : Float :=
  match UnpackedFloat.unpack Format.binary32 value.toBits.toBitVec with
  | .finite sign mantissa exponent _ =>
      Float.ofBits ⟨UnpackedFloat.pack Format.binary64
        (UnpackedFloat.round Format.binary64 sign mantissa exponent)⟩
  | other =>
      Float.ofBits ⟨UnpackedFloat.pack Format.binary64 other⟩

def ofInt (value : Int) : Float32 :=
  Float32.ofInt value

def wordText (word : UInt32) : String :=
  let digits := Nat.toDigits 16 word.toNat
  String.ofList (List.replicate (8 - digits.length) '0' ++ digits)

/-- The bits of a value in hexadecimal; every NaN reads alike. -/
def bitsText (value : Float32) : String :=
  if value.isNaN then "nan" else wordText value.toBits

end Stagecraft.Single
