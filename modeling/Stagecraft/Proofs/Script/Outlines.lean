import Stagecraft.Proofs.Script.Sessions
import Stagecraft.Proofs.Script.Steadiness
import Stagecraft.Proofs.Script.Views

/-!
# What instructions do not see

An instruction sees its own script and the scene around it, but neither the scripts
in their slots nor the warnings about step budgets. So it does the same to the
outline of a scene, in which both are forgotten.
-/

namespace Stagecraft

def Actor.unscripted (actor : Actor) : Actor :=
  { actor with life := Script.vacant, move := Script.vacant }

namespace Actor

variable (actor : Actor) (tree : NodeTree)

theorem kill_unscripted :
    actor.unscripted.kill tree =
      ((actor.kill tree).1.unscripted, (actor.kill tree).2) := by
  unfold kill unscripted
  dsimp only
  split <;> rfl

theorem revive_unscripted :
    actor.unscripted.revive tree =
      ((actor.revive tree).1.unscripted, (actor.revive tree).2) := by
  unfold revive unscripted
  dsimp only
  split <;> rfl

end Actor

/-- A journal without the warnings that a step budget was used up. -/
def Journal.untired (journal : Journal) : Journal :=
  journal.filter fun entry => !entry.isExhaustion

namespace Journal

/-- A view that does not show warnings sees the same without those about step
budgets. -/
theorem filterMap_untired {α : Type} {view : Note → Option α}
    (blind : ∀ warning, view (.warning warning) = none) (journal : Journal) :
    journal.untired.toList.filterMap view = journal.toList.filterMap view := by
  rw [untired, Array.toList_filter]
  exact filterMap_without blind _ journal.toList

@[simp]
theorem trace_untired (journal : Journal) :
    journal.untired.trace = journal.trace :=
  filterMap_untired (fun _ => rfl) journal

@[simp]
theorem events_untired (journal : Journal) :
    journal.untired.events = journal.events :=
  filterMap_untired (fun _ => rfl) journal

end Journal

/-- The view of a scene with the scripts in their slots and the warnings about step
budgets forgotten. -/
def View.scriptless : View where
  actor := Actor.unscripted
  zone := id
  point := id
  nodes := id
  journal := Journal.untired
  alive := fun _ => rfl
  behaviour := fun _ => rfl
  animation := fun _ => rfl
  behaves := fun _ _ => rfl
  animates := fun _ _ => rfl
  kill := Actor.kill_unscripted
  revive := Actor.revive_unscripted
  moveTo := fun _ _ _ => rfl
  noticed := fun _ => rfl
  taken := fun _ => rfl
  place := fun _ => rfl
  push := fun journal _ quiet => by simp [Journal.untired, quiet]

namespace Play

def outline (play : Play) : Play := View.scriptless.of play

variable (play : Play)

theorem outline_eq :
    play.outline =
      { play with
        actors := play.actors.map Actor.unscripted
        journal := play.journal.untired } := by
  simp [outline, View.of, View.scriptless]

@[simp]
theorem getElem?_outline (position : Nat) :
    play.outline.actors[position]? =
      play.actors[position]?.map Actor.unscripted :=
  View.scriptless.getElem?_actors play position

@[simp]
theorem isAlive_outline : play.outline.isAlive = play.isAlive :=
  View.scriptless.isAlive_of play

theorem outline_warn_exhausted (runner : Nat) (kind : ScriptKind)
    (budget : Nat) (script : Script) :
    (play.warn (play.exhaustion runner kind budget script)).outline =
      play.outline := by
  simp [outline, View.of, View.scriptless, warn, note, Journal.untired,
    exhaustion, Note.isExhaustion, Note.warning?, Warning.isExhaustion]

/-- What stands in a slot does not show in the outline. -/
theorem outline_putScript (position : Nat) (kind : ScriptKind)
    (script : Script) :
    (play.putScript position kind script).outline = play.outline := by
  have blind (actor : Actor) :
      (actor.modifyScript kind fun _ => script).unscripted =
        actor.unscripted := by
    cases kind <;> rfl
  have same := map_modify_blind blind play.actors position
  simp only [putScript, modifyScript, modifyActor, outline, View.of,
    View.scriptless, same]

/-- An instruction does the same in the outline. -/
theorem instruct_outline (runner : Nat) (kind : ScriptKind)
    (command : Command) (script : Script) :
    play.outline.instruct runner kind command script =
      ((play.instruct runner kind command script).1,
        (play.instruct runner kind command script).2.1,
        (play.instruct runner kind command script).2.2.outline) :=
  View.scriptless.instruct_of play runner kind command script

end Play

end Stagecraft
