import Mathlib.Data.List.Basic
import Stagecraft.SceneMap.Basic

/-!
# Relatives

The relatives of a scene are the scenes that are loaded along with it: the scene
itself and its side scenes. To be relatives is an equivalence, so that all members
of a family have the same relatives, in ascending order.
-/

namespace Stagecraft

namespace SceneKind

theorem sharesIsland_iff (left right : SceneKind) :
    left.sharesIsland right = true ↔
      ∃ slot other, left = .island slot ∧ right = .island other ∧
        slot.island = other.island ∧ slot.variant = other.variant := by
  cases left <;> cases right <;> simp [sharesIsland]

theorem sharesIsland_comm
    {left right : SceneKind} (shares : left.sharesIsland right = true) :
    right.sharesIsland left = true := by
  rw [sharesIsland_iff] at shares ⊢
  obtain ⟨slot, other, isSlot, isOther, sameIsland, sameVariant⟩ := shares
  exact ⟨other, slot, isOther, isSlot, sameIsland.symm, sameVariant.symm⟩

theorem sharesIsland_trans
    {first second third : SceneKind}
    (shares : first.sharesIsland second = true)
    (sharesAgain : second.sharesIsland third = true) :
    first.sharesIsland third = true := by
  rw [sharesIsland_iff] at shares sharesAgain ⊢
  obtain ⟨slot, middle, isSlot, isMiddle, sameIsland, sameVariant⟩ := shares
  obtain ⟨middleAgain, other, isMiddleAgain, isOther, sameIslandAgain,
    sameVariantAgain⟩ := sharesAgain
  rw [isMiddle, SceneKind.island.injEq] at isMiddleAgain
  subst isMiddleAgain
  exact ⟨slot, other, isSlot, isOther, sameIsland.trans sameIslandAgain,
    sameVariant.trans sameVariantAgain⟩

/-- Scenes that share an island share it with the same scenes. -/
theorem sharesIsland_congr
    {left right : SceneKind} (shares : left.sharesIsland right = true)
    (kind : SceneKind) :
    right.sharesIsland kind = left.sharesIsland kind := by
  rw [Bool.eq_iff_iff]
  exact ⟨sharesIsland_trans shares,
    sharesIsland_trans (sharesIsland_comm shares)⟩

theorem isIsland_of_sharesIsland
    {left right : SceneKind} (shares : left.sharesIsland right = true) :
    left.isIsland = true := by
  rw [sharesIsland_iff] at shares
  obtain ⟨slot, other, isSlot, _⟩ := shares
  rw [isSlot]
  rfl

end SceneKind

namespace SceneMap

/-! ## Entries -/

theorem mem_entries (map : SceneMap) (index : SceneIndex) (kind : SceneKind) :
    (index, kind) ∈ map.entries ↔ map.kind? index = some kind := by
  simp only [entries, kind?, List.mem_map, Prod.exists, Prod.mk.injEq]
  constructor
  · rintro ⟨found, position, member, rfl, rfl⟩
    have stored := List.mem_zipIdx_iff_getElem?.mp member
    have bound : position < map.scenes.length :=
      (List.getElem?_eq_some_iff.mp stored).1
    have small : position < 2 ^ 32 :=
      Nat.lt_of_lt_of_le bound map.scenes_length_le
    rw [UInt32.toNat_ofNat_of_lt' small]
    exact stored
  · intro stored
    exact ⟨kind, index.toNat, List.mem_zipIdx_iff_getElem?.mpr stored,
      UInt32.ofNat_toNat, rfl⟩

theorem entries_ascending (map : SceneMap) :
    map.entries.Pairwise fun left right => left.1 < right.1 := by
  rw [entries, List.pairwise_map, List.pairwise_iff_getElem]
  intro first second firstBound secondBound before
  simp only [List.length_zipIdx] at firstBound secondBound
  have small : second < 2 ^ 32 :=
    Nat.lt_of_lt_of_le secondBound map.scenes_length_le
  simp only [List.getElem_zipIdx, Nat.zero_add]
  rw [UInt32.lt_iff_toNat_lt, UInt32.toNat_ofNat_of_lt' small,
    UInt32.toNat_ofNat_of_lt' (Nat.lt_trans before small)]
  exact before

/-! ## Relatives -/

/-- The scenes that are loaded along with a scene, itself included. -/
def relatives (map : SceneMap) (index : SceneIndex) : List SceneIndex :=
  match map.kind? index with
  | none => []
  | some kind =>
      (map.entries.filter fun entry =>
        entry.1 == index || kind.sharesIsland entry.2).map Prod.fst

theorem relatives_of_kind
    {map : SceneMap} {index : SceneIndex} {kind : SceneKind}
    (known : map.kind? index = some kind) :
    map.relatives index =
      (map.entries.filter fun entry =>
        entry.1 == index || kind.sharesIsland entry.2).map Prod.fst := by
  simp only [relatives, known]

theorem mem_relatives
    {map : SceneMap} {index : SceneIndex} {kind : SceneKind}
    (known : map.kind? index = some kind) (other : SceneIndex) :
    other ∈ map.relatives index ↔
      ∃ otherKind, map.kind? other = some otherKind ∧
        (other = index ∨ kind.sharesIsland otherKind = true) := by
  rw [relatives_of_kind known, List.mem_map]
  constructor
  · rintro ⟨⟨found, otherKind⟩, member, rfl⟩
    obtain ⟨listed, related⟩ := List.mem_filter.mp member
    exact ⟨otherKind, (mem_entries map _ _).mp listed, by simpa using related⟩
  · rintro ⟨otherKind, otherKnown, related⟩
    refine ⟨(other, otherKind), List.mem_filter.mpr ⟨?_, ?_⟩, rfl⟩
    · exact (mem_entries map _ _).mpr otherKnown
    · simpa using related

theorem mem_relatives_self
    {map : SceneMap} {index : SceneIndex} {kind : SceneKind}
    (known : map.kind? index = some kind) :
    index ∈ map.relatives index :=
  (mem_relatives known index).mpr ⟨kind, known, .inl rfl⟩

theorem relatives_ascending (map : SceneMap) (index : SceneIndex) :
    (map.relatives index).Pairwise (· < ·) := by
  unfold relatives
  split
  · exact List.Pairwise.nil
  · rw [List.pairwise_map]
    exact map.entries_ascending.filter _

/-- The side scenes of a scene are its relatives without the scene itself. -/
theorem sideScenes_eq (map : SceneMap) (index : SceneIndex) :
    map.sideScenes index =
      (map.relatives index).filter fun other => other != index := by
  cases known : map.kind? index with
  | none =>
      simp [sideScenes, relatives, known]
  | some kind =>
      rw [relatives_of_kind known, sideScenes]
      simp only [known]
      rw [List.filter_map, List.filter_filter, ← List.filterMap_eq_map,
        List.filterMap_filter]
      apply List.filterMap_congr
      rintro ⟨other, otherKind⟩ _
      by_cases same : other = index
      · simp [same]
      · simp [same]

theorem kind?_of_mem_sideScenes
    {map : SceneMap} {index side : SceneIndex} {kind : SceneKind}
    (known : map.kind? index = some kind) (isSide : side ∈ map.sideScenes index) :
    ∃ sideKind, map.kind? side = some sideKind := by
  rw [sideScenes_eq, List.mem_filter, mem_relatives known] at isSide
  obtain ⟨⟨sideKind, sideKnown, _⟩, _⟩ := isSide
  exact ⟨sideKind, sideKnown⟩

/-- Relatives have the same relatives. -/
theorem relatives_eq_of_mem
    {map : SceneMap} {index other : SceneIndex} {kind : SceneKind}
    (known : map.kind? index = some kind)
    (related : other ∈ map.relatives index) :
    map.relatives other = map.relatives index := by
  obtain ⟨otherKind, otherKnown, same | shares⟩ :=
    (mem_relatives known other).mp related
  · rw [same]
  · rw [relatives_of_kind known, relatives_of_kind otherKnown]
    congr 1
    apply List.filter_congr
    rintro ⟨third, thirdKind⟩ listed
    have thirdKnown := (mem_entries map third thirdKind).mp listed
    rw [Bool.eq_iff_iff]
    simp only [Bool.or_eq_true, beq_iff_eq,
      SceneKind.sharesIsland_congr shares]
    constructor
    · rintro (rfl | sharesThird)
      · rw [otherKnown, Option.some.injEq] at thirdKnown
        exact .inr (thirdKnown ▸ shares)
      · exact .inr sharesThird
    · rintro (rfl | sharesThird)
      · rw [known, Option.some.injEq] at thirdKnown
        subst thirdKnown
        exact .inr (SceneKind.sharesIsland_trans shares
          (SceneKind.sharesIsland_comm shares))
      · exact .inr sharesThird

/-- A scene that is not on an island is alone. -/
theorem eq_of_mem_relatives_isometric
    {map : SceneMap} {index other : SceneIndex} {kind : SceneKind}
    (known : map.kind? index = some kind) (isometric : kind.isIsland = false)
    (related : other ∈ map.relatives index) :
    other = index := by
  obtain ⟨otherKind, _, same | shares⟩ :=
    (mem_relatives known other).mp related
  · exact same
  · have island := SceneKind.isIsland_of_sharesIsland shares
    rw [isometric] at island
    simp at island

end SceneMap

end Stagecraft
