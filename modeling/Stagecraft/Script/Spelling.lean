import Stagecraft.Script.Form

/-!
# Spellings

What a command may look like in content. The members of its object, and of the
object of every condition in it, may stand in any order. In place of an object there
may be an array of the tag and the fields in declaration order.
-/

namespace Stagecraft

/-- The ways to write a tag and named fields: an object with the tag under a key
and its members in any order, or an array of the tag and the fields in order. -/
inductive Json.IsTagged (key tag : String) (fields : List (String × Json)) :
    Json → Prop where
  | object {members : List (String × Json)}
      (reordered : members.Perm ((key, .text tag) :: fields)) :
      IsTagged key tag fields (.object members)
  | array :
      IsTagged key tag fields (.array (.text tag :: fields.map Prod.snd))

/-- The ways to write a condition. The conditions inside it are written in any way
as well. -/
inductive Condition.IsSpelled : Condition → Json → Prop where
  | compare {left right : Operand} {test : Comparison} {json : Json}
      (tagged : json.IsTagged "kind" "COMPARE" [("lhs", left.form),
        ("test", .text test.name), ("rhs", right.form)]) :
      IsSpelled (.compare left test right) json
  | not {term : Condition} {inside json : Json}
      (termSpelled : IsSpelled term inside)
      (tagged : json.IsTagged "kind" "NOT" [("term", inside)]) :
      IsSpelled (.not term) json
  | and {left right : Condition} {first second json : Json}
      (leftSpelled : IsSpelled left first)
      (rightSpelled : IsSpelled right second)
      (tagged : json.IsTagged "kind" "AND" [("lhs", first), ("rhs", second)]) :
      IsSpelled (.and left right) json
  | or {left right : Condition} {first second json : Json}
      (leftSpelled : IsSpelled left first)
      (rightSpelled : IsSpelled right second)
      (tagged : json.IsTagged "kind" "OR" [("lhs", first), ("rhs", second)]) :
      IsSpelled (.or left right) json

namespace Command

/-- The ways to write a command. The condition that it tests is written in any way
as well. -/
inductive IsSpelled (command : Command) : Json → Prop where
  | conditional {condition : Condition} {target : UInt64} {inside json : Json}
      (tests : command.condition? = some condition)
      (jumps : command.jumpTarget? = some target)
      (conditionSpelled : condition.IsSpelled inside)
      (tagged : json.IsTagged "op" command.name
        [("condition", inside), ("else_target", .nat target.toNat)]) :
      IsSpelled command json
  | plain {json : Json} (untested : command.condition? = none)
      (tagged : json.IsTagged "op" command.name command.fields) :
      IsSpelled command json

/-- Whether the coordinates of a command are finite, if it has any. -/
def isFinite : Command → Bool
  | .setPosition position =>
      position.x.isFinite && position.y.isFinite && position.z.isFinite
  | _ => true

end Command

end Stagecraft
