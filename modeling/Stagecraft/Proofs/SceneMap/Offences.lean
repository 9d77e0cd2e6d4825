import Mathlib.Data.List.Forall2
import Stagecraft.Proofs.SceneMap.Collecting

/-!
# Offences

An element of a scene map offends if it has a flaw of its own or declares a scene
whose number an element before it has. Elements are read up to the first one that
offends.
-/

namespace Stagecraft

namespace SceneMap

/-! ## Elements that offend -/

/-- What is wrong with an element behind others: its own flaw, or that it
declares a scene whose number one of them has. -/
inductive Offends (before : List Xml.Element) (child : Xml.Element) :
    SceneMapDefect → Prop
  | flawed {defect : SceneMapDefect} (flawed : flaw? child = some defect) :
      Offends before child defect
  | repeats {index : SceneIndex} {kind earlierKind : SceneKind}
      {earlier : Xml.Element} (declares : Declares child (.scene index kind))
      (listed : earlier ∈ before)
      (taken : Declares earlier (.scene index earlierKind)) :
      Offends before child (.repeatedScene index)

/-- Whether no element offends. -/
def Sound (children : List Xml.Element) : Prop :=
  ∀ before child after, children = before ++ child :: after →
    ∀ defect, ¬Offends before child defect

/-- Whether an element is the first one that offends. -/
def FirstOffence (children : List Xml.Element) (child : Xml.Element)
    (defect : SceneMapDefect) : Prop :=
  ∃ before after, children = before ++ child :: after ∧ Sound before ∧
    Offends before child defect

section Offences

variable {before children : List Xml.Element} {child : Xml.Element}
  {declarations : List Declaration} {defect : SceneMapDefect}

theorem mem_sceneIndices {index : SceneIndex} :
    index ∈ sceneIndices declarations ↔
      ∃ kind, .scene index kind ∈ declarations := by
  simp only [sceneIndices, List.mem_map, List.mem_filterMap]
  constructor
  · rintro ⟨scene, ⟨declaration, listed, declared⟩, rfl⟩
    cases declaration with
    | scene other kind =>
        cases declared
        exact ⟨kind, listed⟩
    | _ => cases declared
  · rintro ⟨kind, listed⟩
    exact ⟨_, ⟨_, listed, rfl⟩, rfl⟩

theorem declares_of_mem (declares : List.Forall₂ Declares children declarations)
    {declaration : Declaration} (listed : declaration ∈ declarations) :
    ∃ child ∈ children, Declares child declaration := by
  induction declares with
  | nil => cases listed
  | cons own _ inductionHypothesis =>
      rcases List.mem_cons.mp listed with rfl | later
      · exact ⟨_, List.mem_cons_self, own⟩
      · obtain ⟨child, inside, declares⟩ := inductionHypothesis later
        exact ⟨child, List.mem_cons_of_mem _ inside, declares⟩

theorem mem_of_declares (declares : List.Forall₂ Declares children declarations)
    (listed : child ∈ children) {declaration : Declaration}
    (own : Declares child declaration) : declaration ∈ declarations := by
  induction declares with
  | nil => cases listed
  | cons first _ inductionHypothesis =>
      rcases List.mem_cons.mp listed with rfl | later
      · rw [own.unique first]
        exact List.mem_cons_self
      · exact List.mem_cons_of_mem _ (inductionHypothesis later)

theorem exists_of_mem (declares : List.Forall₂ Declares children declarations)
    (listed : child ∈ children) : ∃ declaration, Declares child declaration := by
  induction declares with
  | nil => cases listed
  | cons own _ inductionHypothesis =>
      rcases List.mem_cons.mp listed with rfl | later
      · exact ⟨_, own⟩
      · exact inductionHypothesis later

theorem declares_unique {others : List Declaration}
    (declares : List.Forall₂ Declares children declarations)
    (declaresOthers : List.Forall₂ Declares children others) :
    declarations = others :=
  List.right_unique_forall₂' (fun _ _ _ first second => first.unique second)
    declares declaresOthers

/-- An element is taken in, unless it offends. -/
theorem Draft.Collects.add {draft : Draft}
    (collects : draft.Collects declarations)
    (declares : List.Forall₂ Declares before declarations)
    (child : Xml.Element) :
    (∃ next declaration, draft.add child = .ok next ∧
      Declares child declaration ∧
      next.Collects (declarations ++ [declaration])) ∨
    ∃ defect, draft.add child = .error defect ∧ Offends before child defect := by
  rw [Draft.add_eq]
  rcases outcome_declarationOf child with
    ⟨declaration, read, own, -⟩ | ⟨defect, read, flawed⟩
  · rw [read]
    rcases collects.take declaration with
      ⟨next, taken, collected⟩ | ⟨index, kind, rfl, listed, refused⟩
    · exact .inl ⟨next, declaration, taken, own, collected⟩
    · obtain ⟨earlierKind, earlierListed⟩ := mem_sceneIndices.mp listed
      obtain ⟨earlier, inside, taken⟩ := declares_of_mem declares earlierListed
      exact .inr ⟨_, refused, .repeats own inside taken⟩
  · rw [read]
    exact .inr ⟨defect, rfl, .flawed flawed⟩

theorem sound_of_declares
    (declares : List.Forall₂ Declares children declarations)
    (distinct : (sceneIndices declarations).Nodup) : Sound children := by
  rintro before child after rfl defect offends
  have earlierDeclares := List.forall₂_take_append _ _ _ declares.flip
  have othersDeclare := List.forall₂_drop_append _ _ _ declares.flip
  rw [← List.take_append_drop before.length declarations] at distinct
  generalize declarations.take before.length = earlier at *
  generalize declarations.drop before.length = others at *
  obtain ⟨declaration, later, own, -, rfl⟩ :=
    List.forall₂_cons_right_iff.mp othersDeclare
  cases offends with
  | flawed flawed =>
      rw [flaw?_eq_none_iff.mpr ⟨declaration, own⟩] at flawed
      cases flawed
  | repeats again listed taken =>
      obtain rfl := Declares.unique own again
      have earlierListed := mem_sceneIndices.mpr
        ⟨_, mem_of_declares earlierDeclares.flip listed taken⟩
      simp only [sceneIndices, List.filterMap_append, List.map_append,
        List.filterMap_cons, Declaration.scene?, List.map_cons] at distinct
      exact (List.nodup_append.mp distinct).2.2 _ earlierListed _
        List.mem_cons_self rfl

/-- Reading elements behind others either goes well, or the first element that
offends is reported. -/
theorem collects_foldlM {ε : Type}
    (fail : Xml.Element → SceneMapDefect → ε) {draft : Draft}
    (declares : List.Forall₂ Declares before declarations)
    (collects : draft.Collects declarations) (rest : List Xml.Element) :
    (∃ last more,
      rest.foldlM (fun (draft : Draft) child =>
        (draft.add child).mapError (fail child)) draft = .ok last ∧
      List.Forall₂ Declares (before ++ rest) more ∧ last.Collects more) ∨
    ∃ child defect,
      rest.foldlM (fun (draft : Draft) child =>
        (draft.add child).mapError (fail child)) draft =
          .error (fail child defect) ∧
      FirstOffence (before ++ rest) child defect := by
  induction rest generalizing before declarations draft with
  | nil =>
      refine .inl ⟨draft, declarations, rfl, ?_, collects⟩
      rwa [List.append_nil]
  | cons child rest inductionHypothesis =>
      rw [List.foldlM_cons]
      rcases collects.add declares child with
        ⟨next, declaration, added, own, collected⟩ |
        ⟨defect, refused, offends⟩
      · have continued := inductionHypothesis
          (List.rel_append declares (.cons own .nil)) collected
        rw [List.append_assoc] at continued
        rw [added]
        exact continued
      · rw [refused]
        exact .inr ⟨child, defect, rfl, before, rest, rfl,
          sound_of_declares declares collects.nodup, offends⟩

theorem Offends.unique {otherDefect : SceneMapDefect}
    (offends : Offends before child defect)
    (offendsOther : Offends before child otherDefect) :
    defect = otherDefect := by
  cases offends with
  | flawed flawed =>
      cases offendsOther with
      | flawed flawedOther =>
          exact Option.some.inj (flawed.symm.trans flawedOther)
      | repeats declares _ _ =>
          rw [flaw?_eq_none_iff.mpr ⟨_, declares⟩] at flawed
          cases flawed
  | repeats declares _ _ =>
      cases offendsOther with
      | flawed flawed =>
          rw [flaw?_eq_none_iff.mpr ⟨_, declares⟩] at flawed
          cases flawed
      | repeats declaresOther _ _ =>
          cases declares.unique declaresOther
          rfl

/-- No element offends by leaving out a scene. -/
theorem Offends.ne_missingScene (offends : Offends before child defect)
    (missing : Nat) : defect ≠ .missingScene missing := by
  rintro rfl
  cases offends with
  | flawed flawed =>
      unfold flaw? at flawed
      split at flawed
      · cases flawed
      · obtain ⟨requirement, -, own⟩ := List.exists_of_findSome?_eq_some flawed
        unfold Requirement.flaw? at own
        split at own
        · cases own
        · split at own
          · cases own
          · unfold AttributeForm.defect at own
            split at own <;> cases own

/-- There is one first element that offends at most. -/
theorem FirstOffence.unique {other : Xml.Element} {otherDefect : SceneMapDefect}
    (first : FirstOffence children child defect)
    (second : FirstOffence children other otherDefect) :
    child = other ∧ defect = otherDefect := by
  obtain ⟨before, after, rfl, sound, offends⟩ := first
  obtain ⟨otherBefore, otherAfter, same, otherSound, otherOffends⟩ := second
  rcases List.append_eq_append_iff.mp same with
    ⟨between, rfl, rest⟩ | ⟨between, rfl, rest⟩
  · cases between with
    | nil =>
        obtain ⟨rfl, -⟩ := List.cons.inj rest
        rw [List.append_nil] at otherOffends
        exact ⟨rfl, offends.unique otherOffends⟩
    | cons next others =>
        obtain ⟨rfl, -⟩ := List.cons.inj rest
        exact absurd offends (otherSound _ _ _ rfl defect)
  · cases between with
    | nil =>
        obtain ⟨rfl, -⟩ := List.cons.inj rest
        rw [List.append_nil] at offends
        exact ⟨rfl, offends.unique otherOffends⟩
    | cons next others =>
        obtain ⟨rfl, -⟩ := List.cons.inj rest
        exact absurd otherOffends (sound _ _ _ rfl otherDefect)

theorem FirstOffence.not_sound (first : FirstOffence children child defect) :
    ¬Sound children := by
  obtain ⟨before, after, split, -, offends⟩ := first
  exact fun sound => sound before child after split defect offends

end Offences

end SceneMap

end Stagecraft
