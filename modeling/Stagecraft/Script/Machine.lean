import Stagecraft.Journal
import Stagecraft.Script.References
import Stagecraft.Scene.Zone

/-!
# Script machine

One tick runs the life script and then the move script of every actor that is
awake, in ascending order. A script runs until it ends its turn, ends for good,
or has used up its step budget. While it runs it is out of its slot, so that its
actor can be changed by its own commands; at the end of the turn it comes back.
-/

namespace Stagecraft

/-- Everything that scripts of a scene read or change. -/
structure Play where
  scene : SceneIndex
  cube : CubeBank
  game : GameBank
  actors : List Actor
  zones : List Zone
  points : List Point
  nodes : NodeTree
  journal : Journal

namespace Play

def note (play : Play) (entry : Note) : Play :=
  { play with journal := play.journal.push entry }

def warn (play : Play) (warning : Warning) : Play :=
  play.note (.warning warning)

def warnIf (play : Play) (condition : Bool) (warning : Warning) : Play :=
  if condition then play.warn warning else play

def modifyActor (play : Play) (position : Nat) (change : Actor → Actor) :
    Play :=
  { play with actors := play.actors.modify position change }

def modifyScript (play : Play) (position : Nat) (kind : ScriptKind)
    (change : Script → Script) : Play :=
  play.modifyActor position fun actor => actor.modifyScript kind change

def script? (play : Play) (position : Nat) (kind : ScriptKind) :
    Option Script :=
  play.actors[position]?.map fun actor => actor.script kind

def putScript (play : Play) (position : Nat) (kind : ScriptKind)
    (script : Script) : Play :=
  play.modifyScript position kind fun _ => script

def isAlive (play : Play) (position : Nat) : Bool :=
  match play.actors[position]? with
  | some actor => actor.alive
  | none => false

/-! ## Conditions -/

def truthWord (value : Bool) : Int32 := if value then 1 else 0

/-- A number of the actor meant by a reference, zero if there is no such
actor. -/
def actorWord (play : Play) (runner : Nat) (actor : ActorRef)
    (word : Actor → Int32) : Int32 :=
  match play.actors[actor.resolve runner]? with
  | some actor => word actor
  | none => 0

/-- Reads an operand for the actor at position `runner`. Reading a variable may
grow its bank, and reading a trigger uses it up. -/
def read (runner : Nat) (operand : Operand) (play : Play) : Int32 × Play :=
  match operand with
  | .literal value => (value, play)
  | .cubeVariable index =>
      (play.cube.value index,
        { play.warnIf (play.cube.grows index)
            (.cubeVariableGrown index play.cube.size) with
          cube := play.cube.touch index })
  | .gameVariable index =>
      (play.game.value index,
        { play.warnIf (play.game.grows index)
            (.gameVariableGrown index play.game.size) with
          game := play.game.touch index })
  | .zoneEntered index =>
      match play.zones[index.toNat]? with
      | some zone => (truthWord zone.state.entered, play)
      | none =>
          (0, play.warn (.zoneMissing play.scene runner index.toNat))
  | .zoneTriggered index =>
      match play.zones[index.toNat]? with
      | some zone =>
          (truthWord zone.state.pending,
            { play with zones := play.zones.modify index.toNat Zone.taken })
      | none =>
          (0, play.warn (.zoneMissing play.scene runner index.toNat))
  | .actorAlive actor =>
      (play.actorWord runner actor fun actor => truthWord actor.alive, play)
  | .actorBehaviour actor =>
      (play.actorWord runner actor fun actor =>
        Int32.ofNat actor.behaviour.toNat, play)
  | .actorAnimation actor =>
      (play.actorWord runner actor fun actor =>
        Int32.ofNat actor.animation.toNat, play)

/-- Evaluates a condition. Both sides of a connective are always evaluated,
because reading has effects. -/
def evaluate (runner : Nat) : Condition → Play → Bool × Play
  | .compare left test right, play =>
      let (first, afterLeft) := read runner left play
      let (second, afterRight) := read runner right afterLeft
      (test.holds first second, afterRight)
  | .not term, play =>
      let (value, after) := evaluate runner term play
      (!value, after)
  | .and left right, play =>
      let (first, afterLeft) := evaluate runner left play
      let (second, afterRight) := evaluate runner right afterLeft
      (first && second, afterRight)
  | .or left right, play =>
      let (first, afterLeft) := evaluate runner left play
      let (second, afterRight) := evaluate runner right afterLeft
      (first || second, afterRight)

/-! ## Instructions -/

inductive Flow where
  /-- On to a position in the same turn. -/
  | goOn (position : Nat)
  /-- The turn is over; the next one starts at a position. -/
  | pause (position : Nat)
  /-- The script is over. -/
  | halt
deriving DecidableEq, Repr

def kill (cause target : Nat) (play : Play) : Play :=
  match play.actors[target]? with
  | none => play.warn (.actorMissing play.scene cause target (Command.kill .self).name)
  | some actor =>
      if actor.alive then
        let (killed, nodes) := actor.kill play.nodes
        { play.note (.event (.killed target cause)) with
          actors := play.actors.set target killed
          nodes := nodes }
      else
        play

def revive (cause target : Nat) (play : Play) : Play :=
  match play.actors[target]? with
  | none => play.warn (.actorMissing play.scene cause target (Command.revive .self).name)
  | some actor =>
      if actor.alive then
        play
      else
        let (revived, nodes) := actor.revive play.nodes
        { play.note (.event (.revived target cause)) with
          actors := play.actors.set target revived
          nodes := nodes }

def moveActor (target : Nat) (position : Vec3) (play : Play) : Play :=
  match play.actors[target]? with
  | none => play
  | some actor =>
      let (moved, nodes) := actor.moveTo position play.nodes
      { play with actors := play.actors.set target moved, nodes := nodes }

/-- Executes the command at a position of a script of actor `runner`. The script
is out of its slot, so its tests are noted in the script that is handed on. -/
def execute (runner : Nat) (position : Nat) (command : Command)
    (script : Script) (play : Play) : Flow × Script × Play :=
  match command with
  | .ifThen condition elseTarget =>
      let (value, after) := play.evaluate runner condition
      (.goOn (if value then position + 1 else elseTarget.toNat), script, after)
  | .oneIf condition elseTarget =>
      let (value, after) := play.evaluate runner condition
      if value && !script.isSpent position then
        (.goOn (position + 1), script.spend position, after)
      else
        (.goOn elseTarget.toNat, script, after)
  | .switchIf condition elseTarget =>
      let (value, after) := play.evaluate runner condition
      let switched := value && !script.lastSeen position
      (.goOn (if switched then position + 1 else elseTarget.toNat),
        script.see position value, after)
  | .jump target => (.goOn target.toNat, script, play)
  | .yield => (.pause (position + 1), script, play)
  | .restart => (.pause 0, script, play)
  | .stop => (.halt, script, play)
  | .setCube index value =>
      (.goOn (position + 1), script,
        { play.warnIf (play.cube.grows index)
            (.cubeVariableGrown index play.cube.size) with
          cube := play.cube.write index value })
  | .setGame index value =>
      (.goOn (position + 1), script,
        { play.warnIf (play.game.grows index)
            (.gameVariableGrown index play.game.size) with
          game := play.game.write index value })
  | .kill actor =>
      let target := actor.resolve runner
      let after := play.kill runner target
      if target = runner then
        (.pause (position + 1), script, after)
      else
        (.goOn (position + 1), script, after)
  | .revive actor =>
      (.goOn (position + 1), script, play.revive runner (actor.resolve runner))
  | .setBehaviour behaviour =>
      (.goOn (position + 1), script,
        (play.modifyActor runner fun actor =>
          { actor with behaviour := behaviour }).note
            (.call (.behave play.scene runner behaviour)))
  | .playAnimation animation =>
      (.goOn (position + 1), script,
        (play.modifyActor runner fun actor =>
          { actor with animation := animation }).note
            (.call (.animate play.scene runner animation)))
  | .setPosition target =>
      (.goOn (position + 1), script, play.moveActor runner target)
  | .moveToPoint index =>
      match play.points[index.toNat]? with
      | some point =>
          (.goOn (position + 1), script, play.moveActor runner point.position)
      | none =>
          (.goOn (position + 1), script,
            play.warn (.pointMissing play.scene runner index.toNat))
  | .changeScene target =>
      (.pause (position + 1), script,
        play.note (.event (.changeScene target runner)))

/-- Notes and executes the next command of a script. Says whether the turn goes
on. -/
def instruct (runner : Nat) (kind : ScriptKind) (command : Command)
    (script : Script) (play : Play) : Bool × Script × Play :=
  let position := script.state.position
  let started := play.note (.executed ⟨runner, kind, position⟩)
  let (flow, marked, after) := started.execute runner position command script
  match flow with
  | .goOn next => (true, marked.goTo next, after)
  | .pause next => (false, marked.goTo next, after)
  | .halt => (false, marked.halt, after)

/-! ## Turns and ticks -/

/-- The warning that a script of an actor stands at its present position when it has
used up its step budget. -/
def exhaustion (play : Play) (runner : Nat) (kind : ScriptKind) (budget : Nat)
    (script : Script) : Warning :=
  .stepBudgetExhausted play.scene runner kind script.state.position budget

/-- Runs a script that is out of its slot until its turn is over, for at most as many
steps as are left of its budget. -/
def runScript (runner : Nat) (kind : ScriptKind) (budget : Nat) :
    Nat → Script → Play → Script × Play
  | steps, script, play =>
      match script.current?, steps with
      | none, _ => (script.halt, play)
      | some _, 0 =>
          (script, play.warn (play.exhaustion runner kind budget script))
      | some command, rest + 1 =>
          match play.instruct runner kind command script with
          | (true, next, after) => runScript runner kind budget rest next after
          | (false, last, after) => (last, after)

/-- Takes a script out of its slot for the time of a turn. -/
def giveTurn (runner : Nat) (kind : ScriptKind) (budget : Nat)
    (script : Script) (play : Play) : Play :=
  let vacated := play.putScript runner kind Script.vacant
  let (left, after) := vacated.runScript runner kind budget budget script
  after.putScript runner kind left

/-- The script that gets a turn: its actor is awake, and it is not over. -/
def ready? (play : Play) (turn : Nat × ScriptKind) : Option Script :=
  (play.script? turn.1 turn.2).filter fun script =>
    play.isAlive turn.1 && script.state.status == .running

/-- Gives a script its turn, if it gets one. -/
def takeTurn (budget : Nat) (play : Play) (turn : Nat × ScriptKind) : Play :=
  match play.ready? turn with
  | some script => play.giveTurn turn.1 turn.2 budget script
  | none => play

/-- The turns of a tick: for each actor its life script, then its move
script. -/
def turns (count : Nat) : List (Nat × ScriptKind) :=
  (List.range count).flatMap fun actor => [(actor, .life), (actor, .move)]

/-- One tick of all scripts. -/
def tick (budget : Nat) (play : Play) : Play :=
  (turns play.actors.length).foldl (takeTurn budget) play

end Play

end Stagecraft
