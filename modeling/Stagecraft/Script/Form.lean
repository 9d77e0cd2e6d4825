import Stagecraft.Script.Command
import Stagecraft.Content.Reader

/-!
# The written form of scripts

Commands and conditions are objects with a tag, or arrays that start with it.
Operands and actor references are objects with a single key. `form` writes a
value, `ofForm?` decodes one.
-/

namespace Stagecraft

namespace Json

/-! ## Parts of a form -/

def integer? (low high : Int) : Json → Option Int
  | .number (.integer value) =>
      if low ≤ value ∧ value ≤ high then some value else none
  | _ => none

def word8? (json : Json) : Option UInt8 :=
  (json.integer? 0 255).map fun value => UInt8.ofNat value.toNat

def word16? (json : Json) : Option UInt16 :=
  (json.integer? 0 65535).map fun value => UInt16.ofNat value.toNat

def word32? (json : Json) : Option UInt32 :=
  (json.integer? 0 4294967295).map fun value => UInt32.ofNat value.toNat

def word64? (json : Json) : Option UInt64 :=
  (json.integer? 0 18446744073709551615).map fun value =>
    UInt64.ofNat value.toNat

def signed32? (json : Json) : Option Int32 :=
  (json.integer? (-2147483648) 2147483647).map Int32.ofInt

def single? : Json → Option Float32
  | .number value => some (Reader.singleOf value)
  | _ => none

def text? : Json → Option String
  | .text value => some value
  | _ => none

/-- The only value under a key of an object. -/
def sole? (key : String) (members : List (String × Json)) : Option Json :=
  match members.filter (fun member => member.1 == key) with
  | [(_, value)] => some value
  | _ => none

/-- The values of all named fields: an object has each of them once, an array
has them in order and nothing else. -/
def fields? (names : List String) : Json → Option (List Json)
  | .object members => names.mapM fun name => sole? name members
  | .array items => if items.length = names.length then some items else none
  | _ => none

/-- Splits a tagged value into its tag and the remaining fields. -/
def untag? (key : String) : Json → Option (Json × Json)
  | .object members =>
      (sole? key members).map fun tag =>
        (tag, .object (members.filter fun member => member.1 != key))
  | .array (tag :: rest) => some (tag, .array rest)
  | _ => none

/-- The key and value of a one-key object; a bare text has no value. -/
def variant? : Json → Option (String × Option Json)
  | .object [(key, value)] => some (key, some value)
  | .text name => some (name, none)
  | _ => none

/-- Whether the value of a variant that holds nothing is left out, null or
empty. -/
def isNothing : Option Json → Bool
  | none => true
  | some .null => true
  | some (.object []) => true
  | _ => false

end Json

/-! ## Vectors -/

namespace Vec3

/-- The written form of a coordinate. A value that is not finite has none and
is written as `null`. -/
def coordinate (value : Float32) : Json :=
  if value.isFinite then .number (.real (Single.widen value)) else .null

def form (vector : Vec3) : Json :=
  .object [("x", coordinate vector.x), ("y", coordinate vector.y),
    ("z", coordinate vector.z)]

def ofForm? (json : Json) : Option Vec3 :=
  match json.fields? ["x", "y", "z"] with
  | some [x, y, z] => do return ⟨← x.single?, ← y.single?, ← z.single?⟩
  | _ => none

end Vec3

/-! ## Actor references and operands -/

namespace ActorRef

def form : ActorRef → Json
  | .self => .text "SELF"
  | .numbered index => .object [("ACTOR", .nat index.toNat)]

def ofForm? (json : Json) : Option ActorRef :=
  match json.variant? with
  | some ("SELF", value) => if Json.isNothing value then some .self else none
  | some ("ACTOR", some value) => value.word64?.map .numbered
  | _ => none

end ActorRef

namespace Operand

def form : Operand → Json
  | .literal value => .object [("LITERAL", .int value.toInt)]
  | .cubeVariable index => .object [("VAR_CUBE", .nat index.toNat)]
  | .gameVariable index => .object [("VAR_GAME", .nat index.toNat)]
  | .zoneEntered zone => .object [("ZONE_ENTERED", .nat zone.toNat)]
  | .zoneTriggered zone => .object [("ZONE_TRIGGERED", .nat zone.toNat)]
  | .actorAlive actor => .object [("ACTOR_ALIVE", actor.form)]
  | .actorBehaviour actor => .object [("ACTOR_BEHAVIOUR", actor.form)]
  | .actorAnimation actor => .object [("ACTOR_ANIM", actor.form)]

def ofForm? (json : Json) : Option Operand :=
  match json.variant? with
  | some ("LITERAL", some value) => value.signed32?.map .literal
  | some ("VAR_CUBE", some value) => value.word16?.map .cubeVariable
  | some ("VAR_GAME", some value) => value.word16?.map .gameVariable
  | some ("ZONE_ENTERED", some value) => value.word64?.map .zoneEntered
  | some ("ZONE_TRIGGERED", some value) => value.word64?.map .zoneTriggered
  | some ("ACTOR_ALIVE", some value) =>
      (ActorRef.ofForm? value).map .actorAlive
  | some ("ACTOR_BEHAVIOUR", some value) =>
      (ActorRef.ofForm? value).map .actorBehaviour
  | some ("ACTOR_ANIM", some value) =>
      (ActorRef.ofForm? value).map .actorAnimation
  | _ => none

end Operand

/-! ## Comparisons and conditions -/

namespace Comparison

def name : Comparison → String
  | .equal => "EQ"
  | .notEqual => "NE"
  | .less => "LT"
  | .atMost => "LE"
  | .greater => "GT"
  | .atLeast => "GE"

def all : List Comparison :=
  [.equal, .notEqual, .less, .atMost, .greater, .atLeast]

def ofForm? (json : Json) : Option Comparison :=
  match json.variant? with
  | some (name, value) =>
      if Json.isNothing value then
        all.find? fun comparison => comparison.name == name
      else
        none
  | none => none

end Comparison

namespace Condition

def kinds : List String := ["COMPARE", "NOT", "AND", "OR"]

/-- The kind that a tag names, by its text or by its place in the list. -/
def kindOf? : Json → Option String
  | .text name => if kinds.contains name then some name else none
  | .number (.integer place) =>
      if 0 ≤ place then kinds[place.toNat]? else none
  | _ => none

def form : Condition → Json
  | .compare left test right =>
      .object [("kind", .text "COMPARE"), ("lhs", left.form),
        ("test", .text test.name), ("rhs", right.form)]
  | .not term => .object [("kind", .text "NOT"), ("term", form term)]
  | .and left right =>
      .object [("kind", .text "AND"), ("lhs", form left), ("rhs", form right)]
  | .or left right =>
      .object [("kind", .text "OR"), ("lhs", form left), ("rhs", form right)]

/-- Decodes a condition of at most the given number of levels. -/
def ofFormWithin? : Nat → Json → Option Condition
  | 0, _ => none
  | levels + 1, json => do
      let (tag, body) ← json.untag? "kind"
      match ← kindOf? tag with
      | "COMPARE" =>
          match ← body.fields? ["lhs", "test", "rhs"] with
          | [left, test, right] =>
              return .compare (← Operand.ofForm? left)
                (← Comparison.ofForm? test) (← Operand.ofForm? right)
          | _ => none
      | "NOT" =>
          match ← body.fields? ["term"] with
          | [term] => return .not (← ofFormWithin? levels term)
          | _ => none
      | "AND" =>
          match ← body.fields? ["lhs", "rhs"] with
          | [left, right] =>
              return .and (← ofFormWithin? levels left)
                (← ofFormWithin? levels right)
          | _ => none
      | "OR" =>
          match ← body.fields? ["lhs", "rhs"] with
          | [left, right] =>
              return .or (← ofFormWithin? levels left)
                (← ofFormWithin? levels right)
          | _ => none
      | _ => none

/-- Decodes a condition. A condition has no more levels than its form. -/
def ofForm? (json : Json) : Option Condition :=
  ofFormWithin? json.depth json

end Condition

/-! ## Commands -/

namespace Command

def fields : Command → List (String × Json)
  | .ifThen condition target =>
      [("condition", condition.form), ("else_target", .nat target.toNat)]
  | .oneIf condition target =>
      [("condition", condition.form), ("else_target", .nat target.toNat)]
  | .switchIf condition target =>
      [("condition", condition.form), ("else_target", .nat target.toNat)]
  | .jump target => [("target", .nat target.toNat)]
  | .yield => []
  | .restart => []
  | .stop => []
  | .setCube index value =>
      [("index", .nat index.toNat), ("value", .int value.toInt)]
  | .setGame index value =>
      [("index", .nat index.toNat), ("value", .int value.toInt)]
  | .kill actor => [("actor", actor.form)]
  | .revive actor => [("actor", actor.form)]
  | .setBehaviour behaviour => [("behaviour", .nat behaviour.toNat)]
  | .playAnimation animation => [("anim", .nat animation.toNat)]
  | .setPosition position => [("position", position.form)]
  | .moveToPoint point => [("point", .nat point.toNat)]
  | .changeScene scene => [("index", .nat scene.toNat)]

def form (command : Command) : Json :=
  .object (("op", .text command.name) :: command.fields)

/-- The written form of a command as an array. -/
def arrayForm (command : Command) : Json :=
  .array (.text command.name :: command.fields.map Prod.snd)

/-- Decodes the fields of a command that tests a condition. -/
def conditional? (make : Condition → UInt64 → Command) (body : Json) :
    Option Command :=
  match body.fields? ["condition", "else_target"] with
  | some [condition, target] =>
      return make (← Condition.ofForm? condition) (← target.word64?)
  | _ => none

/-- Decodes the fields of a command that sets a variable. -/
def assignment? (make : UInt16 → Int32 → Command) (body : Json) :
    Option Command :=
  match body.fields? ["index", "value"] with
  | some [index, value] => return make (← index.word16?) (← value.signed32?)
  | _ => none

/-- Decodes the field of a command that has only one. -/
def single? {α : Type} (name : String) (decode : Json → Option α)
    (make : α → Command) (body : Json) : Option Command :=
  match body.fields? [name] with
  | some [value] => (decode value).map make
  | _ => none

def bare? (command : Command) (body : Json) : Option Command :=
  (body.fields? []).map fun _ => command

def ofFields? (name : String) (body : Json) : Option Command :=
  match name with
  | "IF" => conditional? .ifThen body
  | "ONE_IF" => conditional? .oneIf body
  | "SWITCH_IF" => conditional? .switchIf body
  | "JUMP" => single? "target" Json.word64? .jump body
  | "YIELD" => bare? .yield body
  | "RESTART" => bare? .restart body
  | "STOP" => bare? .stop body
  | "SET_VAR_CUBE" => assignment? .setCube body
  | "SET_VAR_GAME" => assignment? .setGame body
  | "KILL" => single? "actor" ActorRef.ofForm? .kill body
  | "REVIVE" => single? "actor" ActorRef.ofForm? .revive body
  | "SET_BEHAVIOUR" => single? "behaviour" Json.word8? .setBehaviour body
  | "PLAY_ANIM" => single? "anim" Json.word16? .playAnimation body
  | "SET_POSITION" => single? "position" Vec3.ofForm? .setPosition body
  | "MOVE_TO_POINT" => single? "point" Json.word64? .moveToPoint body
  | "CHANGE_SCENE" => single? "index" Json.word32? .changeScene body
  | _ => none

def ofForm? (json : Json) : Option Command := do
  let (tag, body) ← json.untag? "op"
  ofFields? (← tag.text?) body

/-- Reads a command inside the given number of open containers. -/
def reader (enclosing : Nat) : Reader Command :=
  Reader.decoded (Reader.tagged "op" names enclosing) ofForm?

end Command

end Stagecraft
