import Mathlib.Data.List.Sort
import Stagecraft.Stage.Arena

/-!
# Rosters

The scenes of a family with their ids, by ascending number. A main scene lists its
family without itself, and an ascending list is known by its members alone.
-/

namespace Stagecraft

abbrev Roster := List (SceneIndex × SceneId)

namespace Roster

def Ascending (roster : Roster) : Prop :=
  roster.Pairwise fun left right => left.1 < right.1

def without (id : SceneId) (roster : Roster) : Roster :=
  roster.filter fun member => member.2 != id

theorem mem_without
    {id : SceneId} {roster : Roster} {member : SceneIndex × SceneId} :
    member ∈ without id roster ↔ member ∈ roster ∧ member.2 ≠ id := by
  simp [without]

theorem ascending_without
    {roster : Roster} (ascending : Ascending roster) (id : SceneId) :
    Ascending (without id roster) :=
  ascending.filter _

/-- Ascending rosters with the same members are the same. -/
theorem eq_of_ascending
    {left right : Roster}
    (leftAscending : Ascending left) (rightAscending : Ascending right)
    (sameMembers : ∀ member, member ∈ left ↔ member ∈ right) :
    left = right := by
  have antisymmetric :
      Std.Antisymm fun left right : SceneIndex × SceneId =>
        left.1 < right.1 :=
    ⟨fun _ _ before after => absurd after (UInt32.lt_asymm before)⟩
  have irreflexive :
      Std.Irrefl fun left right : SceneIndex × SceneId =>
        left.1 < right.1 :=
    ⟨fun _ => UInt32.lt_irrefl _⟩
  exact leftAscending.eq_of_mem_iff rightAscending sameMembers

theorem eq_of_number
    {roster : Roster} (ascending : Ascending roster)
    {left right : SceneIndex × SceneId}
    (leftListed : left ∈ roster) (rightListed : right ∈ roster)
    (sameNumber : left.1 = right.1) :
    left = right := by
  have apart : (roster.map Prod.fst).Nodup :=
    List.pairwise_map.mpr (ascending.imp fun before => UInt32.ne_of_lt before)
  exact List.inj_on_of_nodup_map apart leftListed rightListed sameNumber

/-- No scene stands twice in a roster. -/
def Distinct (roster : Roster) : Prop :=
  (roster.map Prod.snd).Nodup

theorem eq_of_id
    {roster : Roster} (distinct : Distinct roster)
    {left right : SceneIndex × SceneId}
    (leftListed : left ∈ roster) (rightListed : right ∈ roster)
    (sameId : left.2 = right.2) :
    left = right :=
  List.inj_on_of_nodup_map distinct leftListed rightListed sameId

/-! ## Insertion -/

/-- A new number is added to the others. -/
theorem insertSide_perm
    {index : SceneIndex} {roster : Roster}
    (fresh : ∀ member ∈ roster, member.1 ≠ index) (id : SceneId) :
    (insertSide index id roster).Perm ((index, id) :: roster) := by
  induction roster with
  | nil =>
      exact List.Perm.refl _
  | cons first rest inductionHypothesis =>
      rw [List.forall_mem_cons] at fresh
      obtain ⟨firstFresh, restFresh⟩ := fresh
      unfold insertSide
      by_cases before : index < first.1
      · simp only [before, if_true]
        exact List.Perm.refl _
      · have differs : (index == first.1) = false := by
          simpa using firstFresh.symm
        simp only [before, if_false, differs, Bool.false_eq_true]
        exact ((inductionHypothesis restFresh).cons first).trans
          (List.Perm.swap _ _ _)

theorem mem_insertSide
    {index : SceneIndex} {id : SceneId} {roster : Roster}
    (fresh : ∀ member ∈ roster, member.1 ≠ index)
    (member : SceneIndex × SceneId) :
    member ∈ insertSide index id roster ↔
      member = (index, id) ∨ member ∈ roster :=
  (insertSide_perm fresh id).mem_iff.trans List.mem_cons

theorem distinct_insertSide
    {index : SceneIndex} {id : SceneId} {roster : Roster}
    (fresh : ∀ member ∈ roster, member.1 ≠ index)
    (newId : ∀ member ∈ roster, member.2 ≠ id)
    (distinct : Distinct roster) :
    Distinct (insertSide index id roster) := by
  have sameIds := (insertSide_perm fresh id).map Prod.snd
  refine sameIds.nodup_iff.mpr (List.nodup_cons.mpr ⟨?_, distinct⟩)
  intro present
  obtain ⟨member, listed, same⟩ := List.mem_map.mp present
  exact newId member listed same

theorem ascending_insertSide
    {index : SceneIndex} {roster : Roster}
    (fresh : ∀ member ∈ roster, member.1 ≠ index)
    (ascending : Ascending roster) (id : SceneId) :
    Ascending (insertSide index id roster) := by
  induction roster with
  | nil =>
      exact List.pairwise_singleton _ _
  | cons first rest inductionHypothesis =>
      rw [List.forall_mem_cons] at fresh
      obtain ⟨firstFresh, restFresh⟩ := fresh
      have firstLeast := (List.pairwise_cons.mp ascending).1
      have restAscending := (List.pairwise_cons.mp ascending).2
      unfold insertSide
      by_cases before : index < first.1
      · simp only [before, if_true]
        refine List.pairwise_cons.mpr ⟨fun member listed => ?_, ascending⟩
        rcases List.mem_cons.mp listed with rfl | later
        · exact before
        · exact UInt32.lt_trans before (firstLeast member later)
      · have differs : (index == first.1) = false := by
          simpa using firstFresh.symm
        simp only [before, if_false, differs, Bool.false_eq_true]
        refine List.pairwise_cons.mpr
          ⟨fun member listed => ?_, inductionHypothesis restFresh restAscending⟩
        rcases (mem_insertSide restFresh member).mp listed with rfl | later
        · exact UInt32.lt_of_le_of_ne (UInt32.not_lt.mp before) firstFresh
        · exact firstLeast member later

/-- A number below all others goes to the front. -/
theorem insertSide_of_lt
    {index : SceneIndex} {roster : Roster}
    (least : ∀ member ∈ roster, index < member.1) (id : SceneId) :
    insertSide index id roster = (index, id) :: roster := by
  cases roster with
  | nil => rfl
  | cons first rest =>
      have before : index < first.1 := least first List.mem_cons_self
      simp only [insertSide, before, if_true]

/-- A scene put back into its own roster is where it was. -/
theorem insertSide_without
    {roster : Roster} (ascending : Ascending roster)
    {index : SceneIndex} {id removed : SceneId}
    (listed : (index, id) ∈ roster) (apart : id ≠ removed)
    (distinct : Distinct roster) :
    insertSide index id (without removed (without id roster)) =
      without removed roster := by
  have fresh :
      ∀ member ∈ without removed (without id roster), member.1 ≠ index := by
    intro member present sameNumber
    have remaining := (mem_without.mp (mem_without.mp present).1)
    have same := eq_of_number ascending remaining.1 listed sameNumber
    rw [same] at remaining
    exact remaining.2 rfl
  refine eq_of_ascending
    (ascending_insertSide fresh
      (ascending_without (ascending_without ascending id) removed) id)
    (ascending_without ascending removed) fun member => ?_
  rw [mem_insertSide fresh, mem_without, mem_without, mem_without]
  constructor
  · rintro (rfl | ⟨⟨present, _⟩, kept⟩)
    · exact ⟨listed, apart⟩
    · exact ⟨present, kept⟩
  · rintro ⟨present, kept⟩
    by_cases own : member.2 = id
    · exact .inl (eq_of_id distinct present listed own)
    · exact .inr ⟨⟨present, own⟩, kept⟩

/-! ## Look-up -/

theorem lookup_eq_some_iff
    {roster : Roster} (ascending : Ascending roster)
    (index : SceneIndex) (id : SceneId) :
    roster.lookup index = some id ↔ (index, id) ∈ roster := by
  induction roster with
  | nil =>
      simp
  | cons first rest inductionHypothesis =>
      have firstLeast := (List.pairwise_cons.mp ascending).1
      have restAscending := (List.pairwise_cons.mp ascending).2
      obtain ⟨number, firstId⟩ := first
      by_cases same : index = number
      · subst same
        have notLater (other : SceneId) : (index, other) ∉ rest :=
          fun later => UInt32.lt_irrefl index (firstLeast (index, other) later)
        simp [notLater, eq_comm]
      · have differs : (index == number) = false := by simpa using same
        simp [List.lookup_cons, differs, same,
          inductionHypothesis restAscending]

end Roster

end Stagecraft
