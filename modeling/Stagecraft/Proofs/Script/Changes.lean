import Mathlib.Logic.Function.Basic
import Stagecraft.Script.Rehearsal

/-!
# Changes of one actor

Whatever is done to an actor, by an instruction or from outside, changes the list
of actors in one place. So it shows in one place in who is awake and in what the
scripts are.
-/

namespace Stagecraft

/-- The actor awake; its scripts are at their start unless it was awake
already. -/
def Actor.woken (actor : Actor) : Actor :=
  if actor.alive then actor else actor.revived

theorem Actor.kill_actor (actor : Actor) (tree : NodeTree) :
    (actor.kill tree).1 = actor.killed := by
  unfold Actor.kill
  cases awake : actor.alive with
  | true => rfl
  | false =>
      simp only [Bool.false_eq_true, if_false, killed]
      rw [← awake]

theorem Actor.revive_actor (actor : Actor) (tree : NodeTree) :
    (actor.revive tree).1 = actor.woken := by
  unfold Actor.revive Actor.woken
  split
  · rfl
  · rfl

section Lists

variable {α : Type} {items : List α} {position : Nat} {item : α}

/-- To set what a change makes of an item is to change the item. -/
theorem set_eq_modify (found : items[position]? = some item)
    (change : α → α) :
    items.set position (change item) = items.modify position change := by
  have inside : position < items.length :=
    (List.getElem?_eq_some_iff.mp found).1
  apply List.ext_getElem?
  intro other
  rw [List.getElem?_modify, List.getElem?_set]
  by_cases own : position = other
  · subst own
    rw [found, if_pos rfl, if_pos inside]
    simp
  · simp [own]

theorem modify_of_getElem?_eq_none (missing : items[position]? = none)
    (change : α → α) :
    items.modify position change = items :=
  List.modify_eq_self (List.getElem?_eq_none_iff.mp missing)

/-- A change that does nothing to an item does nothing to the list. -/
theorem modify_of_eq_self (found : items[position]? = some item)
    {change : α → α} (same : change item = item) :
    items.modify position change = items := by
  apply List.ext_getElem?
  intro other
  rw [List.getElem?_modify]
  by_cases own : position = other
  · subst own
    simp [found, same]
  · simp [own]

end Lists

namespace Play

/-! ## What changes an actor -/

theorem actors_changeActor (play : Play) (target : Nat)
    {change : Actor → NodeTree → Actor × NodeTree} {made : Actor → Actor}
    (makes : ∀ actor tree, (change actor tree).1 = made actor) :
    (play.changeActor target change).actors =
      play.actors.modify target made := by
  unfold changeActor
  cases found : play.actors[target]? with
  | none => exact (modify_of_getElem?_eq_none found made).symm
  | some actor =>
      dsimp only
      rw [makes]
      exact set_eq_modify found made

theorem actors_kill (play : Play) (cause target : Nat) :
    (play.kill cause target).actors =
      play.actors.modify target Actor.killed := by
  unfold kill
  cases found : play.actors[target]? with
  | none => exact (modify_of_getElem?_eq_none found _).symm
  | some actor =>
      dsimp only
      split
      · rw [Actor.kill_actor]
        exact set_eq_modify found Actor.killed
      · next asleep =>
          have same : actor.killed = actor := by
            rw [← actor.kill_actor play.nodes, Actor.kill, if_neg asleep]
          exact (modify_of_eq_self found same).symm

theorem actors_revive (play : Play) (cause target : Nat) :
    (play.revive cause target).actors =
      play.actors.modify target Actor.woken := by
  unfold revive
  cases found : play.actors[target]? with
  | none => exact (modify_of_getElem?_eq_none found _).symm
  | some actor =>
      dsimp only
      split
      · next awake =>
          have same : actor.woken = actor := if_pos awake
          exact (modify_of_eq_self found same).symm
      · rw [Actor.revive_actor]
        exact set_eq_modify found Actor.woken

theorem actors_moveActor (play : Play) (target : Nat) (position : Vec3) :
    (play.moveActor target position).actors =
      play.actors.modify target (·.movedTo position) := by
  unfold moveActor
  cases found : play.actors[target]? with
  | none => exact (modify_of_getElem?_eq_none found _).symm
  | some actor => exact set_eq_modify found (·.movedTo position)

/-! ## Where it shows -/

section Views

variable {before after : Play} {target : Nat} {change : Actor → Actor}

theorem isAlive_eq (play : Play) (position : Nat) :
    play.isAlive position = play.actors[position]?.any Actor.alive := by
  unfold isAlive
  cases play.actors[position]? <;> rfl

theorem isAlive_of_actors (same : after.actors = before.actors) :
    after.isAlive = before.isAlive := by
  funext position
  rw [isAlive_eq, isAlive_eq, same]

/-- A change that neither wakes an actor nor puts it to sleep does not show in who
is awake. -/
theorem isAlive_of_modify
    (changed : after.actors = before.actors.modify target change)
    (keeps : ∀ actor, (change actor).alive = actor.alive) :
    after.isAlive = before.isAlive := by
  funext position
  rw [isAlive_eq, isAlive_eq, changed, List.getElem?_modify]
  cases before.actors[position]? with
  | none => rfl
  | some actor =>
      by_cases own : target = position
      · simp [own, keeps]
      · simp [own]

/-- A change of an actor shows in whether that actor is awake. -/
theorem isAlive_of_modify_alive
    (changed : after.actors = before.actors.modify target change)
    {actor : Actor} (found : before.actors[target]? = some actor)
    {awake : Bool} (makes : (change actor).alive = awake) :
    after.isAlive = Function.update before.isAlive target awake := by
  funext position
  rw [isAlive_eq, changed, List.getElem?_modify, Function.update_apply]
  by_cases own : position = target
  · subst own
    simp [found, makes]
  · have apart : ¬ target = position := Ne.symm own
    simp [own, apart, isAlive_eq]

/-- A change shows in a script if it is a script of the changed actor. -/
theorem script?_of_modify
    (changed : after.actors = before.actors.modify target change)
    (position : Nat) (kind : ScriptKind) :
    after.script? position kind =
      if target = position then
        before.actors[position]?.map fun actor =>
          (change actor).script kind
      else
        before.script? position kind := by
  unfold script?
  rw [changed, List.getElem?_modify]
  by_cases own : target = position
  · simp [own, Function.comp_def]
  · simp [own]

theorem script?_of_actors (same : after.actors = before.actors)
    (position : Nat) (kind : ScriptKind) :
    after.script? position kind = before.script? position kind := by
  unfold script?
  rw [same]

/-- A change that leaves scripts alone does not show in them. -/
theorem script?_of_modify_same
    (changed : after.actors = before.actors.modify target change)
    (keeps : ∀ actor kind, (change actor).script kind = actor.script kind)
    (position : Nat) (kind : ScriptKind) :
    after.script? position kind = before.script? position kind := by
  rw [script?_of_modify changed]
  by_cases own : target = position
  · rw [if_pos own]
    unfold script?
    simp only [keeps]
  · rw [if_neg own]

end Views

/-! ## Slots -/

theorem isAlive_putScript (play : Play) (position : Nat) (kind : ScriptKind)
    (script : Script) :
    (play.putScript position kind script).isAlive = play.isAlive := by
  refine isAlive_of_modify rfl fun actor => ?_
  cases kind <;> rfl

/-- What stands in a slot shows nowhere else. -/
theorem script?_putScript (play : Play) (position : Nat) (kind : ScriptKind)
    (script : Script) (other : Nat) (otherKind : ScriptKind) :
    (play.putScript position kind script).script? other otherKind =
      if position = other ∧ kind = otherKind then
        (play.script? other otherKind).map fun _ => script
      else
        play.script? other otherKind := by
  rw [script?_of_modify rfl]
  by_cases own : position = other
  · subst own
    unfold script?
    cases kind <;> cases otherKind <;>
      simp [Actor.modifyScript, Actor.script, Function.comp_def]
  · simp [own]

/-- Only a script of an actor who is awake gets a turn. -/
theorem ready?_eq_some
    {play : Play} {turn : Nat × ScriptKind} {script : Script}
    (ready : play.ready? turn = some script) :
    play.script? turn.1 turn.2 = some script ∧
      play.isAlive turn.1 = true := by
  unfold ready? at ready
  rw [Option.filter_eq_some_iff, Bool.and_eq_true] at ready
  exact ⟨ready.1, ready.2.1⟩

end Play

end Stagecraft
