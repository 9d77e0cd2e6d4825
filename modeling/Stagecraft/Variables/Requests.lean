import Stagecraft.Variables

/-!
# Requests to a bank

What both kinds of bank are asked, and what they answer, one request after the
other: a look, which is no access and stays inside the bank, a read, or a write. An
access that makes the bank grow is reported.
-/

namespace Stagecraft

/-- One thing that is asked of a bank. -/
inductive BankRequest where
  | get (index : UInt16)
  | read (index : UInt16)
  | write (index : UInt16) (value : Int32)
deriving DecidableEq, Repr

def BankRequest.accessed? : BankRequest → Option UInt16
  | .get _ => none
  | .read index => some index
  | .write index _ => some index

structure BankReply where
  value : Option Int32
  grownFrom : Option Nat
deriving DecidableEq, Repr

/-- The growth that a reply to a request reports: the index that was accessed and the
size that it found. -/
def BankReply.growthAt? (reply : BankReply) (request : BankRequest) :
    Option (UInt16 × Nat) :=
  request.accessed?.bind fun index =>
    reply.grownFrom.map fun size => (index, size)

/-- A kind of bank that keeps its variables in an array, which an access extends
with zeros. -/
class VariableBank (Bank : Type) where
  values : Bank → Array Int32
  get? : Bank → UInt16 → Option Int32
  value : Bank → UInt16 → Int32
  grows : Bank → UInt16 → Bool
  touch : Bank → UInt16 → Bank
  write : Bank → UInt16 → Int32 → Bank
  get?_eq : ∀ bank index, get? bank index = (values bank)[index.toNat]?
  value_eq : ∀ bank index, value bank index = valueAt (values bank) index
  grows_eq : ∀ bank index,
    grows bank index = decide ((values bank).size ≤ index.toNat)
  values_touch : ∀ bank index,
    values (touch bank index) = reachIndex (values bank) index
  values_write : ∀ bank index value,
    values (write bank index value) =
      (reachIndex (values bank) index).setIfInBounds index.toNat value

instance : VariableBank CubeBank where
  values := CubeBank.values
  get? := CubeBank.get?
  value := CubeBank.value
  grows := CubeBank.grows
  touch := CubeBank.touch
  write := CubeBank.write
  get?_eq _ _ := rfl
  value_eq _ _ := rfl
  grows_eq _ _ := rfl
  values_touch _ _ := rfl
  values_write _ _ _ := rfl

instance : VariableBank GameBank where
  values := GameBank.values
  get? := GameBank.get?
  value := GameBank.value
  grows := GameBank.grows
  touch := GameBank.touch
  write := GameBank.write
  get?_eq _ _ := rfl
  value_eq _ _ := rfl
  grows_eq _ _ := rfl
  values_touch _ _ := rfl
  values_write _ _ _ := rfl

namespace VariableBank

variable {Bank : Type} [VariableBank Bank]

def size (bank : Bank) : Nat := (values bank).size

/-- The size of a bank if an access to an index makes it grow. -/
def sizeIfGrows (bank : Bank) (index : UInt16) : Option Nat :=
  if grows bank index then some (size bank) else none

def reply (bank : Bank) : BankRequest → BankReply
  | .get index => ⟨get? bank index, none⟩
  | .read index => ⟨some (value bank index), sizeIfGrows bank index⟩
  | .write index _ => ⟨none, sizeIfGrows bank index⟩

def serve (bank : Bank) : BankRequest → Bank
  | .get _ => bank
  | .read index => touch bank index
  | .write index value => write bank index value

def serveAll (bank : Bank) (requests : List BankRequest) : Bank :=
  requests.foldl serve bank

def replies : Bank → List BankRequest → List BankReply
  | _, [] => []
  | bank, request :: rest =>
      reply bank request :: replies (serve bank request) rest

@[simp]
theorem serveAll_nil (bank : Bank) : serveAll bank [] = bank := rfl

@[simp]
theorem serveAll_cons (bank : Bank) (request : BankRequest)
    (rest : List BankRequest) :
    serveAll bank (request :: rest) = serveAll (serve bank request) rest :=
  rfl

theorem serveAll_append (bank : Bank) (first second : List BankRequest) :
    serveAll bank (first ++ second) =
      serveAll (serveAll bank first) second :=
  List.foldl_append

end VariableBank

end Stagecraft
