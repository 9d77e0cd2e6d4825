/-!
# UTF-8

Reading bytes as text when they may not be UTF-8. Each longest part that starts
like a character and breaks off becomes one replacement character.
-/

namespace Stagecraft.Text

def replacement : Char := Char.ofNat 0xFFFD

/-- A character of which some bytes were read: the value so far, how many bytes
are still to come, and the bounds of the next one. -/
structure BegunChar where
  value : Nat
  owed : Nat
  low : UInt8
  high : UInt8
deriving DecidableEq, Repr

/-- What a byte between characters leads to: a character, if it is complete or
cannot be one, or else a begun character. -/
def readLead (byte : UInt8) : Option Char × Option BegunChar :=
  let begun (owed : Nat) (low high : UInt8) : Option Char × Option BegunChar :=
    (none, some ⟨byte.toNat % (64 / Nat.pow 2 owed), owed, low, high⟩)
  if byte < 0x80 then
    (some (Char.ofNat byte.toNat), none)
  else if byte < 0xC2 then
    (some replacement, none)
  else if byte < 0xE0 then
    begun 1 0x80 0xBF
  else if byte = 0xE0 then
    begun 2 0xA0 0xBF
  else if byte = 0xED then
    begun 2 0x80 0x9F
  else if byte < 0xF0 then
    begun 2 0x80 0xBF
  else if byte = 0xF0 then
    begun 3 0x90 0xBF
  else if byte < 0xF4 then
    begun 3 0x80 0xBF
  else if byte = 0xF4 then
    begun 3 0x80 0x8F
  else
    (some replacement, none)

/-- The characters read so far, last one first, and a begun character. -/
structure LossyText where
  reversed : List Char
  begun : Option BegunChar
deriving DecidableEq, Repr

namespace LossyText

/-- Takes a byte between characters. -/
def takeLead (reversed : List Char) (byte : UInt8) : LossyText :=
  match readLead byte with
  | (some char, begun) => ⟨char :: reversed, begun⟩
  | (none, begun) => ⟨reversed, begun⟩

/-- Takes one more byte. -/
def take (text : LossyText) (byte : UInt8) : LossyText :=
  match text.begun with
  | none => takeLead text.reversed byte
  | some begun =>
      if begun.low ≤ byte && byte ≤ begun.high then
        let value := begun.value * 64 + byte.toNat % 64
        if begun.owed ≤ 1 then
          ⟨Char.ofNat value :: text.reversed, none⟩
        else
          ⟨text.reversed, some ⟨value, begun.owed - 1, 0x80, 0xBF⟩⟩
      else
        takeLead (replacement :: text.reversed) byte

def finish (text : LossyText) : List Char :=
  match text.begun with
  | none => text.reversed.reverse
  | some _ => (replacement :: text.reversed).reverse

end LossyText

def ofBytesLossy (bytes : ByteArray) : String :=
  String.ofList (bytes.data.foldl LossyText.take ⟨[], none⟩).finish

end Stagecraft.Text
