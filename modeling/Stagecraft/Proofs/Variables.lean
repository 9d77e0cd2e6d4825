import Mathlib.Data.List.Sort
import Stagecraft.Variables

/-!
# What accesses do to a bank

A bank is a total map from indices to values: an access grows it with zeros, which
no look-up can tell from slots that were never there. The touched indices of a game
bank stand in ascending order, one entry for each.
-/

namespace Stagecraft

/-! ## Ascending indices -/

section Indices

variable {index other : UInt16} {indices : List UInt16}

@[simp]
theorem mem_insertIndex :
    other ∈ insertIndex index indices ↔ other = index ∨ other ∈ indices := by
  induction indices with
  | nil =>
      simp [insertIndex]
  | cons head rest inductionHypothesis =>
      rw [insertIndex]
      split
      · simp
      · split
        · next same =>
            obtain rfl : index = head := eq_of_beq same
            simp
        · rw [List.mem_cons, inductionHypothesis, List.mem_cons]
          exact or_left_comm

theorem ascending_insertIndex (ascending : indices.Pairwise (· < ·)) :
    (insertIndex index indices).Pairwise (· < ·) := by
  induction indices with
  | nil =>
      simp [insertIndex]
  | cons head rest inductionHypothesis =>
      obtain ⟨headFirst, restAscending⟩ := List.pairwise_cons.mp ascending
      rw [insertIndex]
      split
      · next below =>
          refine List.pairwise_cons.mpr ⟨?_, ascending⟩
          intro member listed
          rcases List.mem_cons.mp listed with rfl | inRest
          · exact below
          · exact UInt16.lt_trans below (headFirst member inRest)
      · next notBelow =>
          split
          · exact ascending
          · next different =>
              have above : head < index := by
                have apart : index ≠ head := fun same => different (by simp [same])
                exact UInt16.lt_of_le_of_ne (UInt16.not_lt.mp notBelow) apart.symm
              refine List.pairwise_cons.mpr
                ⟨?_, inductionHypothesis restAscending⟩
              intro member listed
              rcases mem_insertIndex.mp listed with rfl | inRest
              · exact above
              · exact headFirst member inRest

@[simp]
theorem mem_foldl_insertIndex {added : List UInt16} :
    other ∈ added.foldl (fun indices index => insertIndex index indices)
        indices ↔
      other ∈ added ∨ other ∈ indices := by
  induction added generalizing indices with
  | nil =>
      simp
  | cons head rest inductionHypothesis =>
      rw [List.foldl_cons, inductionHypothesis, mem_insertIndex, List.mem_cons]
      exact or_left_comm.trans or_assoc.symm

theorem ascending_foldl_insertIndex (ascending : indices.Pairwise (· < ·))
    (added : List UInt16) :
    (added.foldl (fun indices index => insertIndex index indices)
      indices).Pairwise (· < ·) := by
  induction added generalizing indices with
  | nil => exact ascending
  | cons head rest inductionHypothesis =>
      exact inductionHypothesis (ascending_insertIndex ascending)

/-- Ascending lists of the same indices are equal. -/
theorem eq_of_ascending_indices {others : List UInt16}
    (ascending : indices.Pairwise (· < ·))
    (othersAscending : others.Pairwise (· < ·))
    (same : ∀ index, index ∈ indices ↔ index ∈ others) :
    indices = others := by
  have irreflexive : Std.Irrefl (α := UInt16) (· < ·) := ⟨UInt16.lt_irrefl⟩
  have antisymmetric : Std.Antisymm (α := UInt16) (· < ·) :=
    ⟨fun _ _ below above => absurd above (UInt16.lt_asymm below)⟩
  exact ascending.eq_of_mem_iff othersAscending same

end Indices

/-! ## Storage -/

section Storage

variable (values : Array Int32) (index other : UInt16)

@[simp]
theorem size_reachIndex :
    (reachIndex values index).size = max values.size (index.toNat + 1) := by
  simp only [reachIndex, Array.size_append, Array.size_replicate]
  omega

/-- Growth does not show in any slot. -/
theorem getD_reachIndex (slot : Nat) :
    (reachIndex values index)[slot]?.getD 0 = values[slot]?.getD 0 := by
  unfold reachIndex
  rw [Array.getElem?_append]
  split
  · rfl
  · next beyond =>
      have missing : values[slot]? = none :=
        Array.getElem?_eq_none (by omega)
      rw [missing, Array.getElem?_replicate]
      split <;> rfl

theorem getD_setIfInBounds_reachIndex (value : Int32) (slot : Nat) :
    ((reachIndex values index).setIfInBounds index.toNat value)[slot]?.getD 0 =
      if index.toNat = slot then value else values[slot]?.getD 0 := by
  have inside : index.toNat < (reachIndex values index).size := by
    rw [size_reachIndex]
    omega
  by_cases own : index.toNat = slot
  · subst own
    rw [if_pos rfl, Array.getElem?_setIfInBounds_self_of_lt inside]
    rfl
  · rw [if_neg own, Array.getElem?_setIfInBounds_ne own, getD_reachIndex]

@[simp]
theorem valueAt_reachIndex :
    valueAt (reachIndex values index) other = valueAt values other :=
  getD_reachIndex values index other.toNat

theorem valueAt_setIfInBounds_reachIndex (value : Int32) :
    valueAt ((reachIndex values index).setIfInBounds index.toNat value) other =
      if other = index then value else valueAt values other := by
  rw [valueAt, getD_setIfInBounds_reachIndex]
  exact if_congr (UInt16.toNat_inj.trans eq_comm) rfl rfl

end Storage

/-! ## Banks -/

namespace CubeBank

variable (bank : CubeBank) (index : UInt16)

@[simp]
theorem size_blank (count : Nat) : (blank count).size = count :=
  Array.size_replicate

@[simp]
theorem size_touch :
    (bank.touch index).size = max bank.size (index.toNat + 1) :=
  size_reachIndex bank.values index

@[simp]
theorem size_write (value : Int32) :
    (bank.write index value).size = max bank.size (index.toNat + 1) :=
  Array.size_setIfInBounds.trans (size_reachIndex bank.values index)

theorem grows_iff : bank.grows index = true ↔ bank.size ≤ index.toNat :=
  decide_eq_true_iff

end CubeBank

namespace GameBank

variable (bank : GameBank) (index other : UInt16)

@[simp]
theorem value_fresh : fresh.value index = 0 := by
  simp only [value, valueAt, fresh, blank, Array.getElem?_replicate]
  split <;> rfl

@[simp]
theorem value_touch : (bank.touch index).value other = bank.value other :=
  valueAt_reachIndex bank.values index other

@[simp]
theorem value_write (value : Int32) :
    (bank.write index value).value other =
      if other = index then value else bank.value other :=
  valueAt_setIfInBounds_reachIndex bank.values index other value

@[simp]
theorem mem_touched_touch :
    other ∈ (bank.touch index).touched ↔
      other = index ∨ other ∈ bank.touched :=
  mem_insertIndex

@[simp]
theorem mem_touched_write (value : Int32) :
    other ∈ (bank.write index value).touched ↔
      other = index ∨ other ∈ bank.touched :=
  mem_insertIndex

end GameBank

end Stagecraft
