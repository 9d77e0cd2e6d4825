import Stagecraft.Proofs.Scene.Staging
import Stagecraft.Proofs.Script.Instructions

/-!
# What scripts do to the nodes

Scripts move actors, put them to sleep and wake them only together with their
nodes, so a tick does no harm to what the node tree shows.
-/

namespace Stagecraft

namespace Play

/-! ## Whole ticks -/

section Ticks

variable {holds : Play → Prop}
  (slots : ∀ (play : Play) runner kind script, holds play →
    holds (play.putScript runner kind script))
  (warns : ∀ (play : Play) warning, holds play → holds (play.warn warning))
  (instructs : ∀ (play : Play) runner kind command script, holds play →
    holds (play.instruct runner kind command script).2.2)

include warns instructs in
theorem holds_of_runScript
    (runner : Nat) (kind : ScriptKind) (budget steps : Nat) (script : Script)
    {play : Play} (begun : holds play) :
    holds (play.runScript runner kind budget steps script).2 := by
  fun_induction runScript runner kind budget steps script play with
  | case1 steps script play past => exact begun
  | case2 script play command current => exact warns play _ begun
  | case3 script play command rest current next after executed
      inductionHypothesis =>
      have left := instructs play runner kind command script begun
      rw [executed] at left
      exact inductionHypothesis left
  | case4 script play command rest current last after executed =>
      have left := instructs play runner kind command script begun
      rw [executed] at left
      exact left

include slots warns instructs in
/-- What every instruction keeps, and to take scripts out of their slots and put
them back keeps, holds after a tick. -/
theorem holds_of_tick (budget : Nat) {play : Play} (begun : holds play) :
    holds (play.tick budget) := by
  have taken (play : Play) (turn : Nat × ScriptKind) (begun : holds play) :
      holds (play.takeTurn budget turn) := by
    unfold takeTurn
    cases play.ready? turn with
    | none => exact begun
    | some script =>
        have ran :=
          holds_of_runScript warns instructs turn.1 turn.2 budget budget script
            (slots play turn.1 turn.2 Script.vacant begun)
        exact slots _ _ _ _ ran
  unfold tick
  generalize turns play.actors.length = turns
  induction turns generalizing play with
  | nil => exact begun
  | cons turn rest inductionHypothesis =>
      exact inductionHypothesis (taken play turn begun)

end Ticks

/-! ## The nodes of a play -/

/-- Whether a scene became another one without harm to what its node tree shows,
its zones keeping their nodes. -/
structure Restages (before after : Play) : Prop where
  company :
    Stagecraft.Restages before.actors before.nodes after.actors after.nodes
  zones : after.zones.map Zone.node = before.zones.map Zone.node

variable {first second third : Play}

theorem Restages.refl (play : Play) : Restages play play :=
  ⟨.refl play.actors play.nodes, rfl⟩

theorem Restages.trans (restages : Restages first second)
    (restagesAgain : Restages second third) :
    Restages first third :=
  ⟨restages.company.trans restagesAgain.company,
    restagesAgain.zones.trans restages.zones⟩

theorem restages_modifyActor (play : Play) (target : Nat)
    {change : Actor → Actor}
    (node : ∀ actor, (change actor).node = actor.node)
    (position : ∀ actor, (change actor).position = actor.position)
    (alive : ∀ actor, (change actor).alive = actor.alive) :
    Restages play (play.modifyActor target change) :=
  ⟨restages_modify play.actors play.nodes target fun actor =>
      Actor.acts_of_sameFigure play.nodes (node actor) (position actor)
        (alive actor),
    rfl⟩

theorem restages_putScript (play : Play) (runner : Nat) (kind : ScriptKind)
    (script : Script) :
    Restages play (play.putScript runner kind script) := by
  refine play.restages_modifyActor runner ?node ?position ?alive
  all_goals
    intro actor
    cases kind <;> rfl

theorem restages_kill (play : Play) (cause target : Nat) :
    Restages play (play.kill cause target) := by
  unfold kill
  split
  · exact ⟨.refl play.actors play.nodes, rfl⟩
  · next actor found =>
      split
      · exact ⟨restages_set found (actor.acts_kill play.nodes), rfl⟩
      · exact Restages.refl play

theorem restages_revive (play : Play) (cause target : Nat) :
    Restages play (play.revive cause target) := by
  unfold revive
  split
  · exact ⟨.refl play.actors play.nodes, rfl⟩
  · next actor found =>
      split
      · exact Restages.refl play
      · exact ⟨restages_set found (actor.acts_revive play.nodes), rfl⟩

theorem restages_moveActor (play : Play) (target : Nat) (position : Vec3) :
    Restages play (play.moveActor target position) := by
  unfold moveActor
  split
  · exact Restages.refl play
  · next actor found =>
      exact ⟨restages_set found (actor.acts_moveTo position play.nodes), rfl⟩

theorem restages_instruct (play : Play) (runner : Nat) (kind : ScriptKind)
    (command : Command) (script : Script) :
    Restages play (play.instruct runner kind command script).2.2 := by
  have instructs := play.instructs runner kind command script
  have noted :
      Restages play
        (play.note (.executed ⟨runner, kind, script.state.position⟩)) :=
    ⟨.refl play.actors play.nodes, rfl⟩
  refine noted.trans ?_
  generalize play.instruct runner kind command script = done at instructs ⊢
  generalize
    play.note (.executed ⟨runner, kind, script.state.position⟩) = started
    at instructs ⊢
  cases instructs with
  | @passes next marked after leads marks reads =>
      refine ⟨?_, reads.zones⟩
      rw [reads.actors, reads.nodes]
      exact .refl started.actors started.nodes
  | pauses restarts => exact Restages.refl started
  | stops => exact Restages.refl started
  | kills other => exact started.restages_kill runner _
  | falls => exact started.restages_kill runner runner
  | revives target => exact started.restages_revive runner target
  | poses change call keeps =>
      have posed :=
        started.restages_modifyActor runner (fun actor => (keeps actor).node)
          (fun actor => (keeps actor).position)
          fun actor => (keeps actor).alive
      exact ⟨posed.company, posed.zones⟩
  | moves position => exact started.restages_moveActor runner position
  | asks target => exact ⟨.refl started.actors started.nodes, rfl⟩

theorem restages_tick (play : Play) (budget : Nat) :
    Restages play (play.tick budget) := by
  refine holds_of_tick ?slots ?warns ?instructs budget (Restages.refl play)
  case slots =>
    intro other runner kind script restages
    exact restages.trans (other.restages_putScript runner kind script)
  case warns =>
    intro other warning restages
    exact ⟨restages.company, restages.zones⟩
  case instructs =>
    intro other runner kind command script restages
    exact restages.trans (other.restages_instruct runner kind command script)

end Play

end Stagecraft
