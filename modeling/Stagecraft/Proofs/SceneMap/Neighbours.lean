import Mathlib.Logic.Function.Iterate
import Stagecraft.SceneMap.Basic

/-!
# Neighbours

The scenes of a map stand in a circle. The steps to the next scene and to the
previous one lead round it in opposite directions.
-/

namespace Stagecraft

namespace SceneMap

theorem isSome_kind?_iff (map : SceneMap) (index : SceneIndex) :
    (map.kind? index).isSome ↔ index.toNat < map.size := by
  simp [kind?, size]

section Steps

variable {map : SceneMap} {index other : SceneIndex}

/-- A step to the next scene is one more, counted round the circle. -/
theorem toNat_next (small : map.size < UInt32.size)
    (inside : index.toNat < map.size) :
    (map.next index).toNat = (index.toNat + 1) % map.size := by
  have size : (UInt32.ofNat map.size).toNat = map.size :=
    UInt32.toNat_ofNat_of_lt' small
  have some_ : max (UInt32.ofNat map.size) 1 = UInt32.ofNat map.size := by
    show (if UInt32.ofNat map.size ≤ 1 then 1 else UInt32.ofNat map.size) = _
    split
    · next single =>
        rw [UInt32.le_iff_toNat_le, size, UInt32.toNat_one] at single
        refine UInt32.toNat_inj.mp ?_
        rw [size, UInt32.toNat_one]
        omega
    · rfl
  have later : (index + 1).toNat = index.toNat + 1 := by
    rw [UInt32.toNat_add]
    exact Nat.mod_eq_of_lt (Nat.lt_of_le_of_lt inside small)
  rw [next, some_, UInt32.toNat_mod, later, size]

/-- A step to the previous scene is one less, counted round the circle. -/
theorem toNat_previous (small : map.size < UInt32.size)
    (inside : index.toNat < map.size) :
    (map.previous index).toNat =
      (index.toNat + (map.size - 1)) % map.size := by
  have cases : 0 < index ↔ 0 < index.toNat := UInt32.lt_iff_toNat_lt
  unfold previous
  by_cases first : 0 < index
  · have earlier : (index - 1).toNat = index.toNat - 1 :=
      UInt32.toNat_sub_of_le _ _ (UInt32.le_iff_toNat_le.mpr (cases.mp first))
    have round : index.toNat + (map.size - 1) =
        (index.toNat - 1) + map.size := by
      have := cases.mp first
      omega
    rw [if_pos first, earlier, round, Nat.add_mod_right,
      Nat.mod_eq_of_lt (by omega)]
  · have zero : index.toNat = 0 := by
      rw [cases] at first
      omega
    rw [if_neg first, zero, Nat.zero_add,
      UInt32.toNat_ofNat_of_lt' (by omega), Nat.mod_eq_of_lt (by omega)]

theorem next_lt (small : map.size < UInt32.size)
    (inside : index.toNat < map.size) :
    (map.next index).toNat < map.size := by
  rw [toNat_next small inside]
  exact Nat.mod_lt _ (Nat.lt_of_le_of_lt (Nat.zero_le _) inside)

theorem previous_lt (small : map.size < UInt32.size)
    (inside : index.toNat < map.size) :
    (map.previous index).toNat < map.size := by
  rw [toNat_previous small inside]
  exact Nat.mod_lt _ (Nat.lt_of_le_of_lt (Nat.zero_le _) inside)

/-- One step forward and as many back as lead round the circle but for one. -/
theorem round_trip {size place : Nat} (inside : place < size) :
    (place + 1 + (size - 1)) % size = place := by
  have round : place + 1 + (size - 1) = place + size := by omega
  rw [round, Nat.add_mod_right, Nat.mod_eq_of_lt inside]

theorem previous_next (small : map.size < UInt32.size)
    (inside : index.toNat < map.size) :
    map.previous (map.next index) = index := by
  refine UInt32.toNat_inj.mp ?_
  rw [toNat_previous small (next_lt small inside), toNat_next small inside,
    Nat.mod_add_mod, round_trip inside]

theorem next_previous (small : map.size < UInt32.size)
    (inside : index.toNat < map.size) :
    map.next (map.previous index) = index := by
  refine UInt32.toNat_inj.mp ?_
  rw [toNat_next small (previous_lt small inside), toNat_previous small inside,
    Nat.mod_add_mod, Nat.add_right_comm, round_trip inside]

/-! ## Round the circle -/

theorem toNat_iterate_next (small : map.size < UInt32.size)
    (inside : index.toNat < map.size) (steps : Nat) :
    (map.next^[steps] index).toNat = (index.toNat + steps) % map.size := by
  induction steps with
  | zero => exact (Nat.mod_eq_of_lt inside).symm
  | succ steps inductionHypothesis =>
      have still : (map.next^[steps] index).toNat < map.size := by
        rw [inductionHypothesis]
        exact Nat.mod_lt _ (Nat.lt_of_le_of_lt (Nat.zero_le _) inside)
      rw [Function.iterate_succ_apply', toNat_next small still,
        inductionHypothesis, Nat.mod_add_mod, Nat.add_assoc]

/-- As many steps as there are scenes lead back. -/
theorem iterate_next_size (small : map.size < UInt32.size)
    (inside : index.toNat < map.size) :
    map.next^[map.size] index = index := by
  refine UInt32.toNat_inj.mp ?_
  rw [toNat_iterate_next small inside, Nat.add_mod_right,
    Nat.mod_eq_of_lt inside]

/-- On the way round, each scene is passed once. -/
theorem existsUnique_iterate_next (small : map.size < UInt32.size)
    (inside : index.toNat < map.size) (insideToo : other.toNat < map.size) :
    ∃! steps, (0 < steps ∧ steps ≤ map.size) ∧
      map.next^[steps] index = other := by
  have arrives (steps : Nat) (short : steps ≤ map.size) :
      map.next^[steps] index = other ↔
        index.toNat + steps = other.toNat ∨
          index.toNat + steps = other.toNat + map.size := by
    rw [← UInt32.toNat_inj, toNat_iterate_next small inside]
    by_cases wraps : index.toNat + steps < map.size
    · rw [Nat.mod_eq_of_lt wraps]
      omega
    · rw [Nat.mod_eq_sub_mod (Nat.le_of_not_lt wraps),
        Nat.mod_eq_of_lt (by omega)]
      omega
  obtain ⟨steps, some_, short, there⟩ :
      ∃ steps, 0 < steps ∧ steps ≤ map.size ∧
        (index.toNat + steps = other.toNat ∨
          index.toNat + steps = other.toNat + map.size) := by
    by_cases ahead : index.toNat < other.toNat
    · exact ⟨other.toNat - index.toNat, by omega⟩
    · exact ⟨other.toNat + map.size - index.toNat, by omega⟩
  refine ⟨steps, ⟨⟨some_, short⟩, (arrives steps short).mpr there⟩, ?_⟩
  rintro others ⟨⟨someToo, shortToo⟩, thereToo⟩
  rw [arrives others shortToo] at thereToo
  omega

/-- Only on a map of one scene does a step lead nowhere else. -/
theorem next_eq_self_iff (small : map.size < UInt32.size)
    (inside : index.toNat < map.size) :
    map.next index = index ↔ map.size = 1 := by
  rw [← UInt32.toNat_inj, toNat_next small inside]
  by_cases last : index.toNat + 1 = map.size
  · rw [last, Nat.mod_self]
    omega
  · rw [Nat.mod_eq_of_lt (by omega)]
    omega

end Steps

end SceneMap

end Stagecraft
