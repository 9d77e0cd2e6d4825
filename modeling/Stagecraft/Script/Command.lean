import Stagecraft.Vector

/-!
# Script commands

The instructions of actor scripts, the conditions they test and the operands
that conditions compare.
-/

namespace Stagecraft

/-- The number of a scene in the scene map. -/
abbrev SceneIndex := UInt32

/-- An actor as a script names it: the one that runs the script, or the one at
an index. -/
inductive ActorRef where
  | self
  | numbered (index : UInt64)
deriving DecidableEq, Repr

/-- The actor meant when the actor at position `runner` runs the script. -/
def ActorRef.resolve (runner : Nat) : ActorRef → Nat
  | .self => runner
  | .numbered index => index.toNat

inductive Operand where
  | literal (value : Int32)
  | cubeVariable (index : UInt16)
  | gameVariable (index : UInt16)
  | zoneEntered (zone : UInt64)
  | zoneTriggered (zone : UInt64)
  | actorAlive (actor : ActorRef)
  | actorBehaviour (actor : ActorRef)
  | actorAnimation (actor : ActorRef)
deriving DecidableEq, Repr

inductive Comparison where
  | equal
  | notEqual
  | less
  | atMost
  | greater
  | atLeast
deriving DecidableEq, Repr

def Comparison.holds (comparison : Comparison) (left right : Int32) : Bool :=
  match comparison with
  | .equal => left == right
  | .notEqual => left != right
  | .less => left < right
  | .atMost => left ≤ right
  | .greater => right < left
  | .atLeast => right ≤ left

inductive Condition where
  | compare (left : Operand) (test : Comparison) (right : Operand)
  | not (term : Condition)
  | and (left right : Condition)
  | or (left right : Condition)
deriving DecidableEq, Repr

namespace Condition

/-- The operands of a condition in the order in which they are read. -/
def operands : Condition → List Operand
  | .compare left _ right => [left, right]
  | .not term => term.operands
  | .and left right => left.operands ++ right.operands
  | .or left right => left.operands ++ right.operands

/-- The number of levels of a condition. -/
def height : Condition → Nat
  | .compare _ _ _ => 1
  | .not term => term.height + 1
  | .and left right => max left.height right.height + 1
  | .or left right => max left.height right.height + 1

end Condition

inductive Command where
  | ifThen (condition : Condition) (elseTarget : UInt64)
  | oneIf (condition : Condition) (elseTarget : UInt64)
  | switchIf (condition : Condition) (elseTarget : UInt64)
  | jump (target : UInt64)
  | yield
  | restart
  | stop
  | setCube (index : UInt16) (value : Int32)
  | setGame (index : UInt16) (value : Int32)
  | kill (actor : ActorRef)
  | revive (actor : ActorRef)
  | setBehaviour (behaviour : UInt8)
  | playAnimation (animation : UInt16)
  | setPosition (position : Vec3)
  | moveToPoint (point : UInt64)
  | changeScene (scene : SceneIndex)
deriving DecidableEq

namespace Command

/-- The condition that a command tests. -/
def condition? : Command → Option Condition
  | .ifThen condition _ => some condition
  | .oneIf condition _ => some condition
  | .switchIf condition _ => some condition
  | _ => none

/-- Where a command may continue other than at its successor. -/
def jumpTarget? : Command → Option UInt64
  | .ifThen _ target => some target
  | .oneIf _ target => some target
  | .switchIf _ target => some target
  | .jump target => some target
  | _ => none

/-- The operands of a command's condition in reading order. -/
def operands (command : Command) : List Operand :=
  match command.condition? with
  | some condition => condition.operands
  | none => []

def name : Command → String
  | .ifThen _ _ => "IF"
  | .oneIf _ _ => "ONE_IF"
  | .switchIf _ _ => "SWITCH_IF"
  | .jump _ => "JUMP"
  | .yield => "YIELD"
  | .restart => "RESTART"
  | .stop => "STOP"
  | .setCube _ _ => "SET_VAR_CUBE"
  | .setGame _ _ => "SET_VAR_GAME"
  | .kill _ => "KILL"
  | .revive _ => "REVIVE"
  | .setBehaviour _ => "SET_BEHAVIOUR"
  | .playAnimation _ => "PLAY_ANIM"
  | .setPosition _ => "SET_POSITION"
  | .moveToPoint _ => "MOVE_TO_POINT"
  | .changeScene _ => "CHANGE_SCENE"

def names : List String :=
  ["IF", "ONE_IF", "SWITCH_IF", "JUMP", "YIELD", "RESTART", "STOP",
    "SET_VAR_CUBE", "SET_VAR_GAME", "KILL", "REVIVE", "SET_BEHAVIOUR",
    "PLAY_ANIM", "SET_POSITION", "MOVE_TO_POINT", "CHANGE_SCENE"]

end Command

end Stagecraft
