import Mathlib.Data.List.Nodup
import Mathlib.Data.List.Pairwise
import Mathlib.Data.List.Sort
import Stagecraft.Slots

/-!
# Entries of a store

The entries of a store stand in the order of their ids, so they are known as soon
as all look-ups are.
-/

namespace Stagecraft

namespace Slots

universe u v

variable {α : Type u} {β : Type v}

theorem entries_ascending (slots : Slots α) :
    slots.entries.Pairwise fun left right => left.1 < right.1 := by
  rw [entries, List.pairwise_filterMap]
  have ordered := List.pairwise_lt_range' (s := 0) (n := slots.cells.size)
  rw [← Array.length_toList, ← List.zipIdx_map_snd 0, List.pairwise_map]
    at ordered
  refine ordered.imp ?_
  rintro ⟨cell, id⟩ ⟨otherCell, otherId⟩ before entry isEntry other isOther
  rw [Option.map_eq_some_iff] at isEntry isOther
  obtain ⟨_, _, rfl⟩ := isEntry
  obtain ⟨_, _, rfl⟩ := isOther
  exact before

theorem ids_ascending (slots : Slots α) :
    (slots.entries.map Prod.fst).Pairwise (· < ·) :=
  List.pairwise_map.mpr slots.entries_ascending

theorem mem_ids (slots : Slots α) (id : Nat) :
    id ∈ slots.entries.map Prod.fst ↔ (slots.get? id).isSome := by
  rw [List.mem_map, Option.isSome_iff_exists]
  constructor
  · rintro ⟨⟨_, entry⟩, listed, rfl⟩
    exact ⟨entry, (slots.mem_entries _ entry).mp listed⟩
  · rintro ⟨entry, found⟩
    exact ⟨(id, entry), (slots.mem_entries id entry).mpr found, rfl⟩

theorem entries_insert (slots : Slots α) (entry : α) :
    (slots.insert entry).entries =
      slots.entries ++ [(slots.nextId, entry)] := by
  simp [entries, insert, nextId, List.zipIdx_append]

/-- Stores whose look-ups agree as far as a view goes agree in their entries as
far as it goes. -/
theorem entries_map_congr {view : α → β} {first second : Slots α}
    (same : ∀ key, (first.get? key).map view = (second.get? key).map view) :
    first.entries.map (Prod.map id view) =
      second.entries.map (Prod.map id view) := by
  have ordered (slots : Slots α) :
      (slots.entries.map (Prod.map id view)).Pairwise
        fun left right => left.1 < right.1 :=
    List.pairwise_map.mpr slots.entries_ascending
  have listed (slots : Slots α) (key : Nat) (seen : β) :
      (key, seen) ∈ slots.entries.map (Prod.map id view) ↔
        (slots.get? key).map view = some seen := by
    rw [List.mem_map, Option.map_eq_some_iff]
    constructor
    · rintro ⟨⟨_, entry⟩, member, pair⟩
      obtain ⟨rfl, rfl⟩ := Prod.mk.inj pair
      exact ⟨entry, (slots.mem_entries _ entry).mp member, rfl⟩
    · rintro ⟨entry, found, rfl⟩
      exact ⟨(key, entry), (slots.mem_entries key entry).mpr found, rfl⟩
  have antisymmetric :
      Std.Antisymm fun left right : Nat × β => left.1 < right.1 :=
    ⟨fun _ _ before after => absurd after (Nat.lt_asymm before)⟩
  have irreflexive :
      Std.Irrefl fun left right : Nat × β => left.1 < right.1 :=
    ⟨fun _ => Nat.lt_irrefl _⟩
  refine (ordered first).eq_of_mem_iff (ordered second) ?_
  rintro ⟨key, seen⟩
  rw [listed, listed, same]

/-- What different entries are not to share is known from the list of all. -/
theorem disjoint_of_nodup_flatMap {slots : Slots α} {parts : α → List β}
    (distinct : (slots.entries.flatMap fun entry => parts entry.2).Nodup)
    {left right : Nat} {leftEntry rightEntry : α}
    (leftFound : slots.get? left = some leftEntry)
    (rightFound : slots.get? right = some rightEntry)
    (apart : left ≠ right) :
    (parts leftEntry).Disjoint (parts rightEntry) := by
  have symmetric :
      Std.Symm (Function.onFun List.Disjoint
        fun entry : Nat × α => parts entry.2) :=
    ⟨fun _ _ disjoint _ inFirst inSecond => disjoint inSecond inFirst⟩
  refine (List.nodup_flatMap.mp distinct).2.forall
    ((slots.mem_entries left leftEntry).mpr leftFound)
    ((slots.mem_entries right rightEntry).mpr rightFound) ?_
  intro same
  exact apart (congrArg Prod.fst same)

end Slots

end Stagecraft
