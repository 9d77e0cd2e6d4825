/-!
# Variable banks

Scripts keep whole numbers in two banks: cube variables belong to a scene, game
variables to the whole session. A bank grows with zeros when an access lies
beyond its end. The game bank remembers which variables were accessed.
-/

namespace Stagecraft

/-! ## Storage -/

/-- Values with zeros added until an index lies inside. -/
def reachIndex (values : Array Int32) (index : UInt16) : Array Int32 :=
  values ++ Array.replicate (index.toNat + 1 - values.size) 0

def valueAt (values : Array Int32) (index : UInt16) : Int32 :=
  values[index.toNat]?.getD 0

/-- How a series of accesses makes a bank of a given size grow: each index that
lies beyond the end that the accesses before it have reached, with the size that it
finds. -/
def growths : Nat → List UInt16 → List (UInt16 × Nat)
  | _, [] => []
  | size, index :: rest =>
      if size ≤ index.toNat then
        (index, size) :: growths (index.toNat + 1) rest
      else
        growths size rest

/-- Adds an index to an ascending list of indices without repetitions. -/
def insertIndex (index : UInt16) : List UInt16 → List UInt16
  | [] => [index]
  | other :: rest =>
      if index < other then
        index :: other :: rest
      else if index == other then
        other :: rest
      else
        other :: insertIndex index rest

/-! ## Cube variables -/

/-- The variables of a scene. -/
structure CubeBank where
  values : Array Int32
deriving DecidableEq

namespace CubeBank

def blank (size : Nat) : CubeBank := ⟨Array.replicate size 0⟩

def size (bank : CubeBank) : Nat := bank.values.size

/-- The value of a variable inside the bank. -/
def get? (bank : CubeBank) (index : UInt16) : Option Int32 :=
  bank.values[index.toNat]?

/-- Whether an access to a variable makes the bank grow. -/
def grows (bank : CubeBank) (index : UInt16) : Bool :=
  bank.size ≤ index.toNat

/-- The value of a variable, zero if it was never written. -/
def value (bank : CubeBank) (index : UInt16) : Int32 :=
  valueAt bank.values index

def touch (bank : CubeBank) (index : UInt16) : CubeBank :=
  ⟨reachIndex bank.values index⟩

def write (bank : CubeBank) (index : UInt16) (value : Int32) : CubeBank :=
  ⟨(reachIndex bank.values index).setIfInBounds index.toNat value⟩

end CubeBank

/-! ## Game variables -/

/-- The variables of a session, with the indices accessed so far in ascending
order. -/
structure GameBank where
  values : Array Int32
  touched : List UInt16
deriving DecidableEq

namespace GameBank

def blank (size : Nat) : GameBank := ⟨Array.replicate size 0, []⟩

/-- The number of game variables of a new session. -/
def initialSize : Nat := 256

/-- The bank of a new session. -/
def fresh : GameBank := blank initialSize

def size (bank : GameBank) : Nat := bank.values.size

def get? (bank : GameBank) (index : UInt16) : Option Int32 :=
  bank.values[index.toNat]?

/-- Whether an access to a variable makes the bank grow. -/
def grows (bank : GameBank) (index : UInt16) : Bool :=
  bank.size ≤ index.toNat

def value (bank : GameBank) (index : UInt16) : Int32 :=
  valueAt bank.values index

def touch (bank : GameBank) (index : UInt16) : GameBank :=
  ⟨reachIndex bank.values index, insertIndex index bank.touched⟩

def write (bank : GameBank) (index : UInt16) (value : Int32) : GameBank :=
  ⟨(reachIndex bank.values index).setIfInBounds index.toNat value,
    insertIndex index bank.touched⟩

end GameBank

end Stagecraft
