import Stagecraft.Proofs.Script.Staging
import Stagecraft.Proofs.Script.Uses

/-!
# What scripts cannot change

A script moves actors, poses them, puts them to sleep and wakes them, and zones
notice who comes and goes. What an actor or a zone would be put back to stays the
same through all of it.
-/

namespace Stagecraft

/-- What no script changes about an actor: its name, its node and where it
starts. -/
def Actor.badge (actor : Actor) : String × Option NodeId × Spawn :=
  (actor.name, actor.node, actor.spawn)

/-- An actor is put back to the same by its badge and its programs. -/
theorem Actor.atSpawn_congr {actor other : Actor}
    (same : actor.badge = other.badge)
    (programs : ∀ kind,
      (actor.script kind).program = (other.script kind).program) :
    actor.atSpawn = other.atSpawn := by
  obtain ⟨name, node, spawn, _, _, _, _, life, move⟩ := actor
  obtain ⟨otherName, otherNode, otherSpawn, _, _, _, _, otherLife, otherMove⟩ :=
    other
  simp only [badge, Prod.mk.injEq] at same
  obtain ⟨rfl, rfl, rfl⟩ := same
  have sameLife : life.program = otherLife.program := programs .life
  have sameMove : move.program = otherMove.program := programs .move
  simp only [atSpawn, Script.reset, sameLife, sameMove]

namespace Play

/-- Whether the actors keep their badges and the zones their boxes. -/
structure Keeps (before after : Play) : Prop where
  badges : after.actors.map Actor.badge = before.actors.map Actor.badge
  zones : after.zones.map Zone.reset = before.zones.map Zone.reset

section Steps

variable {first second third : Play}

theorem Keeps.refl (play : Play) : Keeps play play :=
  ⟨rfl, rfl⟩

theorem Keeps.trans (keeps : Keeps first second)
    (keepsAgain : Keeps second third) : Keeps first third :=
  ⟨keepsAgain.badges.trans keeps.badges, keepsAgain.zones.trans keeps.zones⟩

/-- To change an item in a way that a view does not show. -/
theorem map_modify_blind {α β : Type} {view : α → β} {change : α → α}
    (blind : ∀ item, view (change item) = view item) (items : List α)
    (position : Nat) :
    (items.modify position change).map view = items.map view := by
  apply List.ext_getElem?
  intro other
  simp only [List.getElem?_map, List.getElem?_modify]
  cases items[other]? with
  | none => split <;> rfl
  | some item => split <;> simp [blind]

variable (play : Play) (runner : Nat)

theorem keeps_of_modify {after : Play} {target : Nat} {change : Actor → Actor}
    (changed : after.actors = play.actors.modify target change)
    (zones : after.zones = play.zones)
    (blind : ∀ actor, (change actor).badge = actor.badge) :
    Keeps play after :=
  ⟨by rw [changed, map_modify_blind blind], by rw [zones]⟩

theorem keeps_putScript (kind : ScriptKind) (script : Script) :
    Keeps play (play.putScript runner kind script) :=
  play.keeps_of_modify rfl rfl fun actor => by cases kind <;> rfl

theorem keeps_warnIf (condition : Bool) (warning : Warning) :
    Keeps play (play.warnIf condition warning) := by
  cases condition <;> exact ⟨rfl, rfl⟩

theorem keeps_read (operand : Operand) :
    Keeps play (play.read runner operand).2 := by
  cases operand with
  | literal value => exact .refl play
  | cubeVariable index =>
      have warned := play.keeps_warnIf (play.cube.grows index)
        (.cubeVariableGrown index play.cube.size)
      exact ⟨warned.badges, warned.zones⟩
  | gameVariable index =>
      have warned := play.keeps_warnIf (play.game.grows index)
        (.gameVariableGrown index play.game.size)
      exact ⟨warned.badges, warned.zones⟩
  | zoneEntered zone =>
      simp only [read]
      split <;> exact ⟨rfl, rfl⟩
  | zoneTriggered zone =>
      simp only [read]
      split
      · have taken (zone : Zone) : zone.taken.reset = zone.reset := rfl
        exact ⟨rfl, map_modify_blind taken play.zones zone.toNat⟩
      · exact ⟨rfl, rfl⟩
  | actorAlive actor => exact .refl play
  | actorBehaviour actor => exact .refl play
  | actorAnimation actor => exact .refl play

theorem keeps_evaluate (condition : Condition) (play : Play) :
    Keeps play (play.evaluate runner condition).2 := by
  induction condition generalizing play with
  | compare left test right =>
      exact (play.keeps_read runner left).trans (keeps_read _ runner right)
  | not term inductionHypothesis => exact inductionHypothesis play
  | and left right leftHypothesis rightHypothesis =>
      exact (leftHypothesis play).trans (rightHypothesis _)
  | or left right leftHypothesis rightHypothesis =>
      exact (leftHypothesis play).trans (rightHypothesis _)

theorem keeps_kill (target : Nat) : Keeps play (play.kill runner target) := by
  refine play.keeps_of_modify (play.actors_kill runner target) ?_
    fun actor => rfl
  unfold kill
  split
  · rfl
  · split <;> rfl

theorem keeps_revive (target : Nat) :
    Keeps play (play.revive runner target) := by
  refine play.keeps_of_modify (play.actors_revive runner target) ?_
    fun actor => ?_
  · unfold revive
    split
    · rfl
    · split <;> rfl
  · unfold Actor.woken
    split <;> rfl

theorem keeps_moveActor (position : Vec3) :
    Keeps play (play.moveActor runner position) := by
  refine play.keeps_of_modify (play.actors_moveActor runner position) ?_
    fun actor => rfl
  unfold moveActor
  split <;> rfl

theorem keeps_execute (position : Nat) (command : Command) (script : Script) :
    Keeps play (play.execute runner position command script).2.2 := by
  cases command with
  | ifThen condition elseTarget => exact keeps_evaluate runner condition play
  | oneIf condition elseTarget =>
      have read := keeps_evaluate runner condition play
      simp only [execute]
      split <;> exact read
  | switchIf condition elseTarget =>
      exact keeps_evaluate runner condition play
  | jump target => exact .refl play
  | yield => exact .refl play
  | restart => exact .refl play
  | stop => exact .refl play
  | setCube index value =>
      have warned := play.keeps_warnIf (play.cube.grows index)
        (.cubeVariableGrown index play.cube.size)
      exact ⟨warned.badges, warned.zones⟩
  | setGame index value =>
      have warned := play.keeps_warnIf (play.game.grows index)
        (.gameVariableGrown index play.game.size)
      exact ⟨warned.badges, warned.zones⟩
  | kill actor =>
      have killed := play.keeps_kill runner (actor.resolve runner)
      simp only [execute]
      split <;> exact killed
  | revive actor => exact play.keeps_revive runner _
  | setBehaviour behaviour =>
      exact play.keeps_of_modify rfl rfl fun actor => rfl
  | playAnimation animation =>
      exact play.keeps_of_modify rfl rfl fun actor => rfl
  | setPosition target => exact play.keeps_moveActor runner target
  | moveToPoint index =>
      simp only [execute]
      split
      · exact play.keeps_moveActor runner _
      · exact ⟨rfl, rfl⟩
  | changeScene target => exact ⟨rfl, rfl⟩

theorem keeps_instruct (kind : ScriptKind) (command : Command)
    (script : Script) :
    Keeps play (play.instruct runner kind command script).2.2 := by
  have noted : Keeps play
      (play.note (.executed ⟨runner, kind, script.state.position⟩)) :=
    ⟨rfl, rfl⟩
  refine noted.trans ?_
  simp only [instruct]
  have executed := keeps_execute
    (play.note (.executed ⟨runner, kind, script.state.position⟩)) runner
    script.state.position command script
  split <;> exact executed

end Steps

theorem keeps_tick (play : Play) (budget : Nat) :
    Keeps play (play.tick budget) := by
  refine holds_of_tick ?slots ?warns ?instructs budget (Keeps.refl play)
  case slots =>
    intro other runner kind script keeps
    exact keeps.trans (other.keeps_putScript runner kind script)
  case warns =>
    intro other warning keeps
    exact ⟨keeps.badges, keeps.zones⟩
  case instructs =>
    intro other runner kind command script keeps
    exact keeps.trans (other.keeps_instruct runner kind command script)

/-- A tick leaves the actors such that they would be put back to what they would
have been put back to before. -/
theorem atSpawn_tick (play : Play) (budget : Nat) :
    (play.tick budget).actors.map Actor.atSpawn =
      play.actors.map Actor.atSpawn := by
  have badges := (play.keeps_tick budget).badges
  have programs := (play.programs_uses_tick budget).1
  generalize play.tick budget = after at badges programs ⊢
  apply List.ext_getElem?
  intro position
  have badge := congrArg (fun badges => badges[position]?) badges
  have program := programs position
  simp only [program?, script?, List.getElem?_map] at badge program ⊢
  cases now : after.actors[position]? with
  | none =>
      rw [now] at badge
      cases was : play.actors[position]? with
      | none => rfl
      | some actor => rw [was] at badge; cases badge
  | some actor =>
      rw [now] at badge program
      cases was : play.actors[position]? with
      | none => rw [was] at badge; cases badge
      | some other =>
          rw [was] at badge program
          exact congrArg some (Actor.atSpawn_congr (Option.some.inj badge)
            fun kind => Option.some.inj (program kind))

end Play

end Stagecraft
