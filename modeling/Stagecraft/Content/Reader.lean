import Stagecraft.Json.Fragment
import Stagecraft.Number.Single

/-!
# Readers of content

A reader takes a fragment to a value or says where it does not fit. Records
accept the members of an object in any order or the items of an array in
declaration order.
-/

namespace Stagecraft

/-- One step from a value to a part of it. -/
inductive Step where
  | field (name : String)
  | element (index : Nat)
  /-- A key that is no text. -/
  | unnamed
deriving DecidableEq, Repr

/-- Why content was refused: its text cannot be read, or the value at a path
does not fit. -/
inductive Refusal where
  | unreadable (fault : Fault)
  | unfit (path : List Step)
deriving DecidableEq, Repr

namespace Refusal

def under (step : Step) : Refusal → Refusal
  | .unreadable fault => .unreadable fault
  | .unfit path => .unfit (step :: path)

/-- Whether a text is broken, broken off, or has the wrong content. -/
def category : Refusal → String
  | .unreadable .malformed => "syntax"
  | .unreadable .truncated => "eof"
  | .unfit _ => "data"

/-- The text of one step; names after the first part are set off by a dot. -/
def stepText (first : Bool) : Step → String
  | .field name => if first then name else "." ++ name
  | .element index => "[" ++ toString index ++ "]"
  | .unnamed => if first then "?" else ".?"

/-- The text of a path; the whole value is a single dot. -/
def pathText : List Step → String
  | [] => "."
  | first :: rest =>
      stepText true first ++ String.join (rest.map (stepText false))

end Refusal

/-- Takes a fragment to a value. -/
abbrev Reader (α : Type) := Fragment → Except Refusal α

namespace Reader

/-- The refusal of a value of the wrong kind; a scalar that cannot itself be
read is unreadable. -/
def mismatch : Fragment → Refusal
  | .cutNumber => .unreadable .truncated
  | .broken fault => .unreadable fault
  | .number numeral =>
      match numeral.value with
      | some _ => .unfit []
      | none => .unreadable .malformed
  | .text quoted =>
      match quoted.text with
      | .ok _ => .unfit []
      | .error fault => .unreadable fault
  | _ => .unfit []

def readable {α : Type} : Except Fault α → Except Refusal α
  | .ok value => .ok value
  | .error fault => .error (.unreadable fault)

def part {α : Type} (step : Step) (reader : Reader α) : Reader α := fun value =>
  match reader value with
  | .ok value => .ok value
  | .error refusal => .error (refusal.under step)

/-! ## Scalars -/

def number : Reader Number
  | .number numeral =>
      match numeral.value with
      | some value => .ok value
      | none => .error (.unreadable .malformed)
  | other => .error (mismatch other)

def integer (low high : Int) : Reader Int := fun fragment =>
  match number fragment with
  | .ok (.integer value) =>
      if low ≤ value ∧ value ≤ high then .ok value else .error (.unfit [])
  | .ok (.real _) => .error (.unfit [])
  | .error refusal => .error refusal

def word8 : Reader UInt8 := fun fragment =>
  (integer 0 255 fragment).map fun value => UInt8.ofNat value.toNat

def word16 : Reader UInt16 := fun fragment =>
  (integer 0 65535 fragment).map fun value => UInt16.ofNat value.toNat

def word32 : Reader UInt32 := fun fragment =>
  (integer 0 4294967295 fragment).map fun value => UInt32.ofNat value.toNat

def signed32 : Reader Int32 := fun fragment =>
  (integer (-2147483648) 2147483647 fragment).map Int32.ofInt

/-- The binary32 value of a number: whole numbers are rounded once, others are
narrowed. -/
def singleOf : Number → Float32
  | .integer value => Single.ofInt value
  | .real value => Single.narrow value

/-- A binary32 value. -/
def single : Reader Float32 := fun fragment =>
  (number fragment).map singleOf

def text : Reader String
  | .text quoted => readable quoted.text
  | other => .error (mismatch other)

def nullable {α : Type} (reader : Reader α) : Reader (Option α)
  | .null => .ok none
  | other => (reader other).map some

/-! ## Lists and tuples -/

def itemsFrom {α : Type} (reader : Reader α) (ending : Option Fault) :
    Nat → List Fragment → Except Refusal (List α)
  | _, [] =>
      match ending with
      | none => .ok []
      | some fault => .error (.unreadable fault)
  | position, item :: rest => do
      let value ← part (.element position) reader item
      return value :: (← itemsFrom reader ending (position + 1) rest)

def list {α : Type} (reader : Reader α) : Reader (List α)
  | .array items fault => itemsFrom reader fault 0 items
  | other => .error (mismatch other)

/-- What follows the last item of a fixed-length array must be its end. -/
def sealed (ending : Option Fault) : List Fragment → Except Refusal Unit
  | [] => readable (Fragment.check ending)
  | _ :: _ => .error (.unreadable .malformed)

def tooShort (ending : Option Fault) : Refusal :=
  match ending with
  | none => .unfit []
  | some fault => .unreadable fault

/-- An array of exactly three items. -/
def triple {α : Type} (reader : Reader α) : Reader (α × α × α)
  | .array (first :: second :: third :: rest) fault => do
      let a ← part (.element 0) reader first
      let b ← part (.element 1) reader second
      let c ← part (.element 2) reader third
      sealed fault rest
      return (a, b, c)
  | .array items fault => do
      let _ ← itemsFrom reader none 0 items
      .error (tooShort fault)
  | other => .error (mismatch other)

/-! ## Tagged values -/

/-- The tag of a value: one of the known names. -/
def tag (known : List String) : Reader String := fun fragment => do
  let name ← text fragment
  if known.contains name then .ok name else .error (.unfit [])

def taggedMembers (key : String) (known : List String) (enclosing : Nat)
    (ending : Option Fault) :
    Bool → List (Quoted × Fragment) → Except Refusal (List (String × Json))
  | tagged, [] => do
      readable (Fragment.check ending)
      if tagged then .ok [] else .error (.unfit [])
  | tagged, (quoted, member) :: rest => do
      let name ← readable quoted.text
      if name == key then
        if tagged then
          .error (.unfit [])
        else
          let value ← part (.field key) (tag known) member
          let others ← taggedMembers key known enclosing ending true rest
          return (name, .text value) :: others
      else
        let value ← readable (member.whole enclosing)
        let others ← taggedMembers key known enclosing ending tagged rest
        return (name, value) :: others

/-- A value told apart by a tag, read whole before it is decoded: an object
with the tag under the given key, or an array that starts with it. The reading
happens inside the given number of open containers. -/
def tagged (key : String) (known : List String) (enclosing : Nat) : Reader Json
  | .object members fault => do
      readable (Fragment.enter enclosing)
      return .object
        (← taggedMembers key known (enclosing + 1) fault false members)
  | .array (first :: rest) fault => do
      readable (Fragment.enter enclosing)
      let name ← part (.element 0) (tag known) first
      let others ←
        readable (Fragment.wholeItems (enclosing + 1) fault rest)
      return .array (.text name :: others)
  | .array [] fault => do
      readable (Fragment.enter enclosing)
      .error (tooShort fault)
  | other => .error (mismatch other)

def decoded {α : Type} (reader : Reader Json) (decode : Json → Option α) :
    Reader α := fun fragment => do
  match decode (← reader fragment) with
  | some value => .ok value
  | none => .error (.unfit [])

end Reader

/-! ## Records -/

/-- A way to read records: the names of their fields in declaration order, and
what is known of a record while its fields come in. `put` is `none` for a name
that is no field. -/
structure Record (α : Type) where
  Draft : Type
  names : List String
  blank : Draft
  put : String → Step → Fragment → Draft → Option (Except Refusal Draft)
  finish : Draft → Option α

namespace Record

/-- A record of one field. A second value for it is refused. -/
def ofField {α : Type} (name : String) (missing : Option α)
    (reader : Reader α) : Record α where
  Draft := Option α
  names := [name]
  blank := none
  put := fun other step fragment draft =>
    if other == name then
      some <|
        match draft with
        | some _ => .error (.unfit [])
        | none => (Reader.part step reader fragment).map some
    else
      none
  finish := fun draft => draft <|> missing

/-- A field that must be there. -/
def required {α : Type} (name : String) (reader : Reader α) : Record α :=
  ofField name none reader

/-- A field with a value to use when it is missing. -/
def optional {α : Type} (name : String) (default : α) (reader : Reader α) :
    Record α :=
  ofField name (some default) reader

def both {α β : Type} (left : Record α) (right : Record β) :
    Record (α × β) where
  Draft := left.Draft × right.Draft
  names := left.names ++ right.names
  blank := (left.blank, right.blank)
  put := fun name step fragment draft =>
    match left.put name step fragment draft.1 with
    | some (.ok next) => some (.ok (next, draft.2))
    | some (.error refusal) => some (.error refusal)
    | none =>
        match right.put name step fragment draft.2 with
        | some (.ok next) => some (.ok (draft.1, next))
        | some (.error refusal) => some (.error refusal)
        | none => none
  finish := fun draft =>
    match left.finish draft.1, right.finish draft.2 with
    | some first, some second => some (first, second)
    | _, _ => none

def map {α β : Type} (make : α → β) (record : Record α) : Record β where
  Draft := record.Draft
  names := record.names
  blank := record.blank
  put := record.put
  finish := fun draft => (record.finish draft).map make

/-- Takes in the members of an object. Members that are no field are passed
over. -/
def members {α : Type} (record : Record α) (ending : Option Fault) :
    record.Draft → List (Quoted × Fragment) → Except Refusal record.Draft
  | draft, [] => do
      Reader.readable (Fragment.check ending)
      return draft
  | draft, (key, value) :: rest => do
      let name ← Reader.readable key.text
      match record.put name (.field name) value draft with
      | some (.ok next) => members record ending next rest
      | some (.error refusal) => .error refusal
      | none =>
          Reader.readable value.skip
          members record ending draft rest

/-- Takes in the items of an array, one for each of the names left. -/
def items {α : Type} (record : Record α) (ending : Option Fault) :
    Nat → record.Draft → List String → List Fragment →
      Except Refusal record.Draft
  | _, draft, [], rest => do
      Reader.sealed ending rest
      return draft
  | _, draft, _ :: _, [] => do
      Reader.readable (Fragment.check ending)
      return draft
  | position, draft, name :: names, item :: rest =>
      match record.put name (.element position) item draft with
      | some (.ok next) => items record ending (position + 1) next names rest
      | some (.error refusal) => .error refusal
      | none => .error (.unfit [])

/-- The value of a finished draft; a required field may be missing. -/
def close {α : Type} (record : Record α) (draft : record.Draft) :
    Except Refusal α :=
  match record.finish draft with
  | some value => .ok value
  | none => .error (.unfit [])

def reader {α : Type} (record : Record α) : Reader α
  | .object parts fault => do
      record.close (← record.members fault record.blank parts)
  | .array parts fault => do
      record.close (← record.items fault 0 record.blank record.names parts)
  | other => .error (Reader.mismatch other)

end Record

end Stagecraft
