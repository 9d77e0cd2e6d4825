/-!
# JSON values
-/

namespace Stagecraft

/-- A JSON number: a whole number of at most 64 bits, or a binary64 value. -/
inductive Number where
  | integer (value : Int)
  | real (value : Float)
deriving DecidableEq

/-- A JSON value. An object keeps its members in writing order, repeated keys
included. -/
inductive Json where
  | null
  | bool (value : Bool)
  | number (value : Number)
  | text (value : String)
  | array (items : List Json)
  | object (members : List (String × Json))
deriving Inhabited

namespace Json

def int (value : Int) : Json := .number (.integer value)

def nat (value : Nat) : Json := .number (.integer (value : Int))

/-- The given form of a present value, `null` for an absent one. -/
def option {α : Type} (form : α → Json) : Option α → Json
  | none => .null
  | some value => form value

def list {α : Type} (form : α → Json) (values : List α) : Json :=
  .array (values.map form)

def member? (key : String) : Json → Option Json
  | .object members => members.lookup key
  | _ => none

/-- Puts a member under its key, over an earlier one of the same key. -/
def putMember (key : String) (value : Json) :
    List (String × Json) → List (String × Json)
  | [] => [(key, value)]
  | (other, old) :: rest =>
      if other == key then
        (key, value) :: rest
      else
        (other, old) :: putMember key value rest

mutual

/-- The number of levels of a value; a scalar has one. -/
def depth : Json → Nat
  | .array items => depthItems items + 1
  | .object members => depthMembers members + 1
  | _ => 1

def depthItems : List Json → Nat
  | [] => 0
  | item :: rest => max (depth item) (depthItems rest)

def depthMembers : List (String × Json) → Nat
  | [] => 0
  | (_, value) :: rest => max (depth value) (depthMembers rest)

end

mutual

/-- The value with repeated keys merged, the last one winning. -/
def lastWins : Json → Json
  | .array items => .array (lastWinsItems items)
  | .object members => .object (lastWinsMembers members [])
  | scalar => scalar

def lastWinsItems : List Json → List Json
  | [] => []
  | item :: rest => lastWins item :: lastWinsItems rest

/-- Members put one after the other over those already there. -/
def lastWinsMembers :
    List (String × Json) → List (String × Json) → List (String × Json)
  | [], merged => merged
  | (key, value) :: rest, merged =>
      lastWinsMembers rest (putMember key (lastWins value) merged)

end

end Json

end Stagecraft
