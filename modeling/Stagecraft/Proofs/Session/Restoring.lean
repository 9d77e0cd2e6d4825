import Stagecraft.Proofs.Variables
import Stagecraft.Session.Save

/-!
# Restored sessions

A save holds only the variables that were accessed or are referenced. Nothing is
lost by that, because a variable that was never accessed is zero: growing a bank,
reading, writing and restoring all keep it so.
-/

namespace Stagecraft

namespace GameBank

/-! ## Sessions -/

/-- One thing that is done with the variables of a session. -/
inductive Access where
  | read (index : UInt16)
  | write (index : UInt16) (value : Int32)
  | restore (save : Save)

/-- The bank after one access. -/
def access (bank : GameBank) : Access → GameBank
  | .read index => bank.touch index
  | .write index value => bank.write index value
  | .restore save => save.restore bank

/-- The bank of a new session after a series of accesses. -/
def played (accesses : List Access) : GameBank := accesses.foldl access fresh

/-! ## Untouched variables -/

/-- Whether the touched indices of a bank ascend and all others are zero. -/
structure Tidy (bank : GameBank) : Prop where
  ascending : bank.touched.Pairwise (· < ·)
  untouched : ∀ index, index ∉ bank.touched → bank.value index = 0

variable {bank : GameBank}

theorem tidy_fresh : fresh.Tidy :=
  ⟨.nil, fun index _ => value_fresh index⟩

theorem Tidy.touch (tidy : bank.Tidy) (index : UInt16) :
    (bank.touch index).Tidy := by
  refine ⟨ascending_insertIndex tidy.ascending, fun other untouched => ?_⟩
  rw [mem_touched_touch, not_or] at untouched
  rw [value_touch]
  exact tidy.untouched other untouched.2

theorem Tidy.write (tidy : bank.Tidy) (index : UInt16) (value : Int32) :
    (bank.write index value).Tidy := by
  refine ⟨ascending_insertIndex tidy.ascending, fun other untouched => ?_⟩
  rw [mem_touched_write, not_or] at untouched
  rw [value_write, if_neg untouched.1]
  exact tidy.untouched other untouched.2

theorem Tidy.restore (tidy : bank.Tidy) (save : Save) :
    (save.restore bank).Tidy := by
  unfold Save.restore
  generalize save.values = entries
  induction entries generalizing bank with
  | nil => exact tidy
  | cons entry rest inductionHypothesis =>
      exact inductionHypothesis (tidy.write entry.1 entry.2)

theorem tidy_played (accesses : List Access) : (played accesses).Tidy := by
  have kept (bank : GameBank) (tidy : bank.Tidy) :
      (accesses.foldl access bank).Tidy := by
    induction accesses generalizing bank with
    | nil => exact tidy
    | cons first rest inductionHypothesis =>
        apply inductionHypothesis
        cases first with
        | read index => exact tidy.touch index
        | write index value => exact tidy.write index value
        | restore save => exact tidy.restore save
  exact kept fresh tidy_fresh

end GameBank

/-! ## Saving and restoring -/

namespace Save

/-- The indices that a save of a session holds. -/
def indicesOf (game : GameBank) (references : List UInt16) : List UInt16 :=
  references.foldl (fun indices index => insertIndex index indices)
    game.touched

theorem ofSession_eq (game : GameBank) (scene : Option SceneIndex)
    (references : List UInt16) :
    ofSession game scene references =
      ⟨currentVersion, scene, (indicesOf game references).map fun index =>
        (index, game.value index)⟩ :=
  rfl

theorem mem_indicesOf {game : GameBank} {references : List UInt16}
    {index : UInt16} :
    index ∈ indicesOf game references ↔
      index ∈ game.touched ∨ index ∈ references :=
  mem_foldl_insertIndex.trans or_comm

/-- To write the values of a session into a bank. -/
theorem value_restore (bank : GameBank) (value : UInt16 → Int32)
    (version : UInt32) (scene : Option SceneIndex) (indices : List UInt16)
    (index : UInt16) :
    (restore ⟨version, scene, indices.map fun index => (index, value index)⟩
        bank).value index =
      if index ∈ indices then value index else bank.value index := by
  unfold restore
  induction indices generalizing bank with
  | nil => simp
  | cons first rest inductionHypothesis =>
      rw [List.map_cons, List.foldl_cons, inductionHypothesis,
        GameBank.value_write]
      by_cases later : index ∈ rest
      · simp [later]
      · by_cases own : index = first
        · simp [own]
        · simp [later, own]

theorem mem_touched_restore (save : Save) (bank : GameBank)
    (index : UInt16) :
    index ∈ (save.restore bank).touched ↔
      index ∈ save.values.map Prod.fst ∨ index ∈ bank.touched := by
  unfold restore
  generalize save.values = entries
  induction entries generalizing bank with
  | nil => simp
  | cons entry rest inductionHypothesis =>
      rw [List.foldl_cons, inductionHypothesis, GameBank.mem_touched_write,
        List.map_cons, List.mem_cons]
      exact or_left_comm.trans or_assoc.symm

section Restored

variable {game : GameBank} (tidy : game.Tidy) (scene : Option SceneIndex)
  (references : List UInt16)

include tidy in
/-- A restored session has all values, those that were not saved being zero. -/
theorem value_restore_ofSession (index : UInt16) :
    ((ofSession game scene references).restore GameBank.fresh).value index =
      game.value index := by
  rw [ofSession_eq, value_restore]
  split
  · rfl
  · next absent =>
      rw [mem_indicesOf, not_or] at absent
      rw [GameBank.value_fresh, tidy.untouched index absent.1]

theorem mem_touched_restore_ofSession (game : GameBank)
    (scene : Option SceneIndex) (references : List UInt16) (index : UInt16) :
    index ∈
        ((ofSession game scene references).restore
          GameBank.fresh).touched ↔
      index ∈ game.touched ∨ index ∈ references := by
  rw [mem_touched_restore, ofSession_eq, List.map_map]
  simp only [Function.comp_def, List.map_id', mem_indicesOf]
  simp [GameBank.fresh, GameBank.blank]

include tidy in
/-- A restored session is saved in the same way again. -/
theorem ofSession_restore_ofSession :
    ofSession ((ofSession game scene references).restore GameBank.fresh)
        scene references =
      ofSession game scene references := by
  have restoredTidy :=
    GameBank.tidy_fresh.restore (ofSession game scene references)
  have sameValues :=
    funext (value_restore_ofSession tidy scene references)
  have sameTouched := mem_touched_restore_ofSession game scene references
  generalize (ofSession game scene references).restore GameBank.fresh =
    restored at *
  have sameIndices :
      indicesOf restored references = indicesOf game references := by
    refine eq_of_ascending_indices
      (ascending_foldl_insertIndex restoredTidy.ascending references)
      (ascending_foldl_insertIndex tidy.ascending references) fun index => ?_
    show index ∈ indicesOf restored references ↔
      index ∈ indicesOf game references
    rw [mem_indicesOf, mem_indicesOf, sameTouched, or_assoc, or_self]
  rw [ofSession_eq, ofSession_eq, sameIndices, sameValues]

end Restored

end Save

end Stagecraft
