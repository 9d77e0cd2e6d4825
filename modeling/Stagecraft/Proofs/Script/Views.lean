import Stagecraft.Script.Machine

/-!
# Views that instructions do not notice

A view forgets something of the parts of a scene. If what it forgets is nothing that
an instruction reads, then to forget and to execute is to execute and then to forget,
for every command.
-/

namespace Stagecraft

/-- Changing an item and then all items, if the changes go together. -/
theorem map_modify_comm {α β : Type} {forget : α → β} {change : α → α}
    {changed : β → β} (together : ∀ item,
      forget (change item) = changed (forget item))
    (items : List α) (position : Nat) :
    (items.modify position change).map forget =
      (items.map forget).modify position changed := by
  apply List.ext_getElem?
  intro other
  simp only [List.getElem?_map, List.getElem?_modify]
  cases items[other]? with
  | none => split <;> rfl
  | some item => split <;> simp [together]

/-- A view of the parts of a scene that shows all that instructions read, and goes
together with all that they do. -/
structure View where
  actor : Actor → Actor
  zone : Zone → Zone
  point : Point → Point
  nodes : NodeTree → NodeTree
  journal : Journal → Journal
  alive : ∀ before, (actor before).alive = before.alive
  behaviour : ∀ before, (actor before).behaviour = before.behaviour
  animation : ∀ before, (actor before).animation = before.animation
  behaves : ∀ before behaviour,
    actor { before with behaviour := behaviour } =
      { actor before with behaviour := behaviour }
  animates : ∀ before animation,
    actor { before with animation := animation } =
      { actor before with animation := animation }
  kill : ∀ before tree, (actor before).kill (nodes tree) =
    (actor (before.kill tree).1, nodes (before.kill tree).2)
  revive : ∀ before tree, (actor before).revive (nodes tree) =
    (actor (before.revive tree).1, nodes (before.revive tree).2)
  moveTo : ∀ before position tree, (actor before).moveTo position (nodes tree) =
    (actor (before.moveTo position tree).1,
      nodes (before.moveTo position tree).2)
  noticed : ∀ before, (zone before).state = before.state
  taken : ∀ before, zone before.taken = (zone before).taken
  place : ∀ before, (point before).position = before.position
  push : ∀ before entry, entry.isExhaustion = false →
    journal (before.push entry) = (journal before).push entry

namespace View

/-- A scene as a view shows it. -/
def of (view : View) (play : Play) : Play :=
  { play with
    actors := play.actors.map view.actor
    zones := play.zones.map view.zone
    points := play.points.map view.point
    nodes := view.nodes play.nodes
    journal := view.journal play.journal }

variable (view : View) (play : Play)

/-! ## What a view shows -/

theorem getElem?_actors (position : Nat) :
    (view.of play).actors[position]? =
      play.actors[position]?.map view.actor :=
  List.getElem?_map

theorem getElem?_zones (position : Nat) :
    (view.of play).zones[position]? = play.zones[position]?.map view.zone :=
  List.getElem?_map

theorem getElem?_points (position : Nat) :
    (view.of play).points[position]? = play.points[position]?.map view.point :=
  List.getElem?_map

theorem isAlive_of : (view.of play).isAlive = play.isAlive := by
  funext position
  unfold Play.isAlive
  rw [getElem?_actors]
  cases play.actors[position]? with
  | none => rfl
  | some actor => exact view.alive actor

theorem note_of {entry : Note}
    (quiet : entry.isExhaustion = false) :
    (view.of play).note entry = view.of (play.note entry) := by
  simp only [Play.note, of, view.push _ _ quiet]

theorem warn_of {warning : Warning} (quiet : warning.isExhaustion = false) :
    (view.of play).warn warning = view.of (play.warn warning) :=
  view.note_of play quiet

theorem warnIf_of (condition : Bool) {warning : Warning}
    (quiet : warning.isExhaustion = false) :
    (view.of play).warnIf condition warning =
      view.of (play.warnIf condition warning) := by
  unfold Play.warnIf
  split
  · exact view.warn_of play quiet
  · rfl

theorem modifyActor_of {change : Actor → Actor}
    (together : ∀ actor, view.actor (change actor) = change (view.actor actor))
    (position : Nat) :
    (view.of play).modifyActor position change =
      view.of (play.modifyActor position change) := by
  simp only [Play.modifyActor, of, map_modify_comm together]

/-- To replace an actor is to replace it in the view. -/
theorem set_of (target : Nat) (actor : Actor) (nodes : NodeTree) :
    { view.of play with
        actors := (view.of play).actors.set target (view.actor actor)
        nodes := view.nodes nodes } =
      view.of
        { play with
          actors := play.actors.set target actor
          nodes := nodes } := by
  simp only [of, List.map_set]

/-! ## Reading -/

section Instructions

variable (runner : Nat)

theorem actorWord_of (actor : ActorRef) {word : Actor → Int32}
    (blind : ∀ actor : Actor, word (view.actor actor) = word actor) :
    (view.of play).actorWord runner actor word =
      play.actorWord runner actor word := by
  unfold Play.actorWord
  rw [getElem?_actors]
  cases play.actors[actor.resolve runner]? with
  | none => rfl
  | some there => exact blind there

theorem read_of (operand : Operand) :
    (view.of play).read runner operand =
      ((play.read runner operand).1, view.of (play.read runner operand).2) := by
  cases operand with
  | literal value => rfl
  | cubeVariable index =>
      have warned := view.warnIf_of play (play.cube.grows index)
        (show (Warning.cubeVariableGrown index play.cube.size).isExhaustion =
          false from rfl)
      exact congrArg (fun warned =>
        (play.cube.value index,
          { warned with cube := play.cube.touch index })) warned
  | gameVariable index =>
      have warned := view.warnIf_of play (play.game.grows index)
        (show (Warning.gameVariableGrown index play.game.size).isExhaustion =
          false from rfl)
      exact congrArg (fun warned =>
        (play.game.value index,
          { warned with game := play.game.touch index })) warned
  | zoneEntered zone =>
      simp only [Play.read, getElem?_zones]
      cases play.zones[zone.toNat]? with
      | none => exact congrArg _ (view.warn_of play rfl)
      | some there => simp only [Option.map_some, view.noticed]
  | zoneTriggered zone =>
      simp only [Play.read, getElem?_zones]
      cases play.zones[zone.toNat]? with
      | none => exact congrArg _ (view.warn_of play rfl)
      | some there =>
          simp only [Option.map_some, view.noticed, of,
            map_modify_comm view.taken]
  | actorAlive actor =>
      exact congrArg (·, view.of play)
        (view.actorWord_of play runner actor fun actor => by rw [view.alive])
  | actorBehaviour actor =>
      exact congrArg (·, view.of play)
        (view.actorWord_of play runner actor fun actor => by
          rw [view.behaviour])
  | actorAnimation actor =>
      exact congrArg (·, view.of play)
        (view.actorWord_of play runner actor fun actor => by
          rw [view.animation])

/-- A condition is read operand by operand, at every depth. -/
theorem evaluate_of (condition : Condition) :
    (view.of play).evaluate runner condition =
      ((play.evaluate runner condition).1,
        view.of (play.evaluate runner condition).2) := by
  induction condition generalizing play with
  | compare left test right => simp only [Play.evaluate, read_of]
  | not term inductionHypothesis =>
      simp only [Play.evaluate, inductionHypothesis]
  | and left right leftHypothesis rightHypothesis
  | or left right leftHypothesis rightHypothesis =>
      simp only [Play.evaluate, leftHypothesis, rightHypothesis]

/-! ## Instructions -/

theorem kill_of (cause target : Nat) :
    (view.of play).kill cause target = view.of (play.kill cause target) := by
  unfold Play.kill
  rw [getElem?_actors]
  cases play.actors[target]? with
  | none => exact view.warn_of play rfl
  | some actor =>
      have tree : (view.of play).nodes = view.nodes play.nodes := rfl
      simp only [Option.map_some, view.alive, tree, view.kill,
        view.note_of play
          (show (Note.event (.killed target cause)).isExhaustion = false from
            rfl)]
      split
      · exact view.set_of _ target _ _
      · rfl

theorem revive_of (cause target : Nat) :
    (view.of play).revive cause target =
      view.of (play.revive cause target) := by
  unfold Play.revive
  rw [getElem?_actors]
  cases play.actors[target]? with
  | none => exact view.warn_of play rfl
  | some actor =>
      have tree : (view.of play).nodes = view.nodes play.nodes := rfl
      simp only [Option.map_some, view.alive, tree, view.revive,
        view.note_of play
          (show (Note.event (.revived target cause)).isExhaustion = false from
            rfl)]
      split
      · rfl
      · exact view.set_of _ target _ _

theorem moveActor_of (target : Nat) (position : Vec3) :
    (view.of play).moveActor target position =
      view.of (play.moveActor target position) := by
  unfold Play.moveActor
  rw [getElem?_actors]
  cases play.actors[target]? with
  | none => rfl
  | some actor =>
      have tree : (view.of play).nodes = view.nodes play.nodes := rfl
      simp only [Option.map_some, tree, view.moveTo]
      exact view.set_of play target _ _

theorem pose_of {change : Actor → Actor}
    (together : ∀ actor, view.actor (change actor) = change (view.actor actor))
    (call : HostCall) :
    ((view.of play).modifyActor runner change).note (.call call) =
      view.of ((play.modifyActor runner change).note (.call call)) := by
  rw [view.modifyActor_of play together, view.note_of _ rfl]

theorem execute_of (position : Nat) (command : Command) (script : Script) :
    (view.of play).execute runner position command script =
      ((play.execute runner position command script).1,
        (play.execute runner position command script).2.1,
        view.of (play.execute runner position command script).2.2) := by
  cases command with
  | ifThen condition target => simp only [Play.execute, evaluate_of]
  | oneIf condition target =>
      simp only [Play.execute, evaluate_of]
      split <;> rfl
  | switchIf condition target => simp only [Play.execute, evaluate_of]
  | setCube index value =>
      have warned := view.warnIf_of play (play.cube.grows index)
        (show (Warning.cubeVariableGrown index play.cube.size).isExhaustion =
          false from rfl)
      exact congrArg (fun warned =>
        (Play.Flow.goOn (position + 1), script,
          { warned with cube := play.cube.write index value })) warned
  | setGame index value =>
      have warned := view.warnIf_of play (play.game.grows index)
        (show (Warning.gameVariableGrown index play.game.size).isExhaustion =
          false from rfl)
      exact congrArg (fun warned =>
        (Play.Flow.goOn (position + 1), script,
          { warned with game := play.game.write index value })) warned
  | kill actor =>
      simp only [Play.execute, kill_of]
      split <;> rfl
  | revive actor => simp only [Play.execute, revive_of]
  | setBehaviour behaviour =>
      exact congrArg (Play.Flow.goOn (position + 1), script, ·)
        (view.pose_of play runner (view.behaves · behaviour) _)
  | playAnimation animation =>
      exact congrArg (Play.Flow.goOn (position + 1), script, ·)
        (view.pose_of play runner (view.animates · animation) _)
  | setPosition target => simp only [Play.execute, moveActor_of]
  | moveToPoint index =>
      simp only [Play.execute, getElem?_points]
      cases play.points[index.toNat]? with
      | none =>
          exact congrArg (Play.Flow.goOn (position + 1), script, ·)
            (view.warn_of play
              (show (Warning.pointMissing play.scene runner
                index.toNat).isExhaustion = false from rfl))
      | some point =>
          simp only [Option.map_some, view.place, moveActor_of]
  | changeScene target =>
      simp only [Play.execute]
      rw [view.note_of play rfl]
  | jump _ | yield | restart | stop => rfl

/-- An instruction does the same in a view. -/
theorem instruct_of (kind : ScriptKind) (command : Command)
    (script : Script) :
    (view.of play).instruct runner kind command script =
      ((play.instruct runner kind command script).1,
        (play.instruct runner kind command script).2.1,
        view.of (play.instruct runner kind command script).2.2) := by
  unfold Play.instruct
  dsimp only
  rw [view.note_of play rfl, execute_of]
  dsimp only
  split <;> rfl

end Instructions

end View

end Stagecraft
