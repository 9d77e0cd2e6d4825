import Stagecraft.Proofs.SceneMap.Elements

/-!
# Collecting what elements declare

What is collected of the elements of a scene map: the scenes by ascending number,
each number once, the islands and the rules. A gap in the numbers is found in the
finished list.
-/

namespace Stagecraft

namespace SceneMap

/-! ## Scenes by number -/

section Scenes

variable {index : SceneIndex} {kind : SceneKind}
  {scenes next : List (SceneIndex × SceneKind)}

/-- Whether scenes stand by ascending number. -/
def Ascending (scenes : List (SceneIndex × SceneKind)) : Prop :=
  scenes.Pairwise fun first second => first.1 < second.1

theorem perm_of_putScene (put : putScene index kind scenes = some next) :
    next.Perm ((index, kind) :: scenes) := by
  induction scenes generalizing next with
  | nil =>
      cases put
      exact List.Perm.refl _
  | cons scene rest inductionHypothesis =>
      obtain ⟨other, otherKind⟩ := scene
      rw [putScene] at put
      split at put
      · cases put
        exact List.Perm.refl _
      · split at put
        · cases put
        · obtain ⟨placed, putRest, rfl⟩ := Option.map_eq_some_iff.mp put
          exact ((inductionHypothesis putRest).cons _).trans
            (List.Perm.swap _ _ _)

theorem ascending_of_putScene (ascending : Ascending scenes)
    (put : putScene index kind scenes = some next) : Ascending next := by
  induction scenes generalizing next with
  | nil =>
      cases put
      exact List.pairwise_singleton _ _
  | cons scene rest inductionHypothesis =>
      obtain ⟨other, otherKind⟩ := scene
      obtain ⟨above, ascendingRest⟩ := List.pairwise_cons.mp ascending
      rw [putScene] at put
      split at put
      · next before =>
          cases put
          refine List.pairwise_cons.mpr ⟨fun scene listed => ?_, ascending⟩
          rcases List.mem_cons.mp listed with rfl | later
          · exact before
          · exact UInt32.lt_trans before (above scene later)
      · next notBefore =>
          split at put
          · cases put
          · next apart =>
              obtain ⟨placed, putRest, rfl⟩ := Option.map_eq_some_iff.mp put
              refine List.pairwise_cons.mpr
                ⟨fun scene listed => ?_, inductionHypothesis ascendingRest putRest⟩
              have among := (perm_of_putScene putRest).mem_iff.mp listed
              rcases List.mem_cons.mp among with rfl | later
              · have different : index ≠ other := by simpa using apart
                exact UInt32.lt_of_le_of_ne (UInt32.not_lt.mp notBefore)
                  different.symm
              · exact above scene later

theorem putScene_eq_none_iff (ascending : Ascending scenes) :
    putScene index kind scenes = none ↔ index ∈ scenes.map Prod.fst := by
  induction scenes with
  | nil => simp [putScene]
  | cons scene rest inductionHypothesis =>
      obtain ⟨other, otherKind⟩ := scene
      obtain ⟨above, ascendingRest⟩ := List.pairwise_cons.mp ascending
      rw [putScene, List.map_cons, List.mem_cons]
      split
      · next before =>
          have absent : index ∉ rest.map Prod.fst := by
            intro listed
            obtain ⟨scene, later, rfl⟩ := List.mem_map.mp listed
            exact UInt32.lt_asymm before (above scene later)
          simp only [reduceCtorEq, absent, or_false, false_iff]
          rintro rfl
          exact UInt32.lt_irrefl _ before
      · split
        · next same => simp [eq_of_beq same]
        · next apart =>
            have different : index ≠ other := by simpa using apart
            rw [Option.map_eq_none_iff, inductionHypothesis ascendingRest]
            simp [different]

end Scenes

/-! ## Gaps -/

section Gaps

variable {scenes : List (SceneIndex × SceneKind)} {position : Nat}

theorem numbers_of_firstGap_none (gapless : firstGap position scenes = none) :
    scenes.map (fun scene => scene.1.toNat) =
      List.range' position scenes.length := by
  induction scenes generalizing position with
  | nil => rfl
  | cons scene rest inductionHypothesis =>
      rw [firstGap] at gapless
      split at gapless
      · next same =>
          rw [List.map_cons, inductionHypothesis gapless, List.length_cons,
            List.range'_succ, same]
      · cases gapless

/-- Whether a number is the least one that is missing among others, some of them
being larger. -/
structure LeastMissing (indices : List SceneIndex) (missing : Nat) : Prop where
  absent : ∀ index ∈ indices, index.toNat ≠ missing
  least : ∀ smaller < missing, ∃ index ∈ indices, index.toNat = smaller
  larger : ∃ index ∈ indices, missing < index.toNat

theorem leastMissing_of_firstGap {start missing : Nat}
    (ascending : Ascending scenes)
    (fromStart : ∀ scene ∈ scenes, start ≤ scene.1.toNat)
    (gap : firstGap start scenes = some missing) :
    start ≤ missing ∧ (∀ scene ∈ scenes, scene.1.toNat ≠ missing) ∧
      (∀ smaller, start ≤ smaller → smaller < missing →
        ∃ scene ∈ scenes, scene.1.toNat = smaller) ∧
      ∃ scene ∈ scenes, missing < scene.1.toNat := by
  induction scenes generalizing start with
  | nil => cases gap
  | cons scene rest inductionHypothesis =>
      obtain ⟨above, ascendingRest⟩ := List.pairwise_cons.mp ascending
      rw [firstGap] at gap
      split at gap
      · next same =>
          have beyond : ∀ other ∈ rest, start + 1 ≤ other.1.toNat := by
            intro other listed
            have larger := UInt32.lt_iff_toNat_lt.mp (above other listed)
            omega
          obtain ⟨reached, absent, least, larger⟩ :=
            inductionHypothesis ascendingRest beyond gap
          refine ⟨by omega, ?_, ?_, ?_⟩
          · intro other listed
            rcases List.mem_cons.mp listed with rfl | later
            · omega
            · exact absent other later
          · intro smaller atLeast below
            by_cases first : smaller = start
            · exact ⟨scene, List.mem_cons_self, same.trans first.symm⟩
            · obtain ⟨other, listed, found⟩ :=
                least smaller (by omega) below
              exact ⟨other, List.mem_cons_of_mem _ listed, found⟩
          · obtain ⟨other, listed, found⟩ := larger
            exact ⟨other, List.mem_cons_of_mem _ listed, found⟩
      · next apart =>
          cases gap
          have own := fromStart scene List.mem_cons_self
          refine ⟨Nat.le_refl _, ?_, fun smaller => by omega,
            scene, List.mem_cons_self, by omega⟩
          intro other listed
          rcases List.mem_cons.mp listed with rfl | later
          · exact apart
          · have larger := UInt32.lt_iff_toNat_lt.mp (above other later)
            omega

end Gaps

/-! ## Declarations -/

namespace Declaration

def scene? : Declaration → Option (SceneIndex × SceneKind)
  | .scene index kind => some (index, kind)
  | _ => none

def island? : Declaration → Option (String × Environment)
  | .island name environment => some (name, environment)
  | _ => none

def rule? : Declaration → Option IslandOverride
  | .rule declared => some declared
  | _ => none

end Declaration

def sceneIndices (declarations : List Declaration) : List SceneIndex :=
  (declarations.filterMap Declaration.scene?).map Prod.fst

/-! ## Collecting declarations -/

namespace Draft

def take (draft : Draft) : Declaration → Except SceneMapDefect Draft
  | .scene index kind =>
      match putScene index kind draft.scenes with
      | some scenes => .ok { draft with scenes := scenes }
      | none => .error (.repeatedScene index)
  | .island name environment =>
      .ok { draft with islands := (name, environment) :: draft.islands }
  | .rule rule => .ok { draft with overrides := draft.overrides ++ [rule] }

theorem add_eq (draft : Draft) (element : Xml.Element) :
    draft.add element = declarationOf element >>= draft.take := by
  unfold add declarationOf
  split
  · cases sceneOf element <;> rfl
  · split
    · cases islandOf element <;> rfl
    · split
      · cases overrideOf element <;> rfl
      · rfl

structure Collects (draft : Draft) (declarations : List Declaration) :
    Prop where
  ascending : Ascending draft.scenes
  scenes : draft.scenes.Perm (declarations.filterMap Declaration.scene?)
  islands : draft.islands =
    (declarations.filterMap Declaration.island?).reverse
  overrides : draft.overrides = declarations.filterMap Declaration.rule?

namespace Collects

variable {draft : Draft} {declarations : List Declaration}

theorem blank : Collects ⟨[], [], []⟩ [] :=
  ⟨List.Pairwise.nil, List.Perm.refl _, rfl, rfl⟩

theorem perm_indices (collects : draft.Collects declarations) :
    (draft.scenes.map Prod.fst).Perm (sceneIndices declarations) :=
  collects.scenes.map _

theorem nodup (collects : draft.Collects declarations) :
    (sceneIndices declarations).Nodup := by
  refine collects.perm_indices.nodup_iff.mp ?_
  refine List.pairwise_map.mpr (collects.ascending.imp fun before same => ?_)
  rw [same] at before
  exact UInt32.lt_irrefl _ before

/-- A declaration is taken in, unless it is a scene whose number is taken. -/
theorem take (collects : draft.Collects declarations)
    (declaration : Declaration) :
    (∃ next, draft.take declaration = .ok next ∧
      next.Collects (declarations ++ [declaration])) ∨
    ∃ index kind, declaration = .scene index kind ∧
      index ∈ sceneIndices declarations ∧
      draft.take declaration = .error (.repeatedScene index) := by
  cases declaration with
  | scene index kind =>
      cases put : putScene index kind draft.scenes with
      | none =>
          have taken := (putScene_eq_none_iff collects.ascending).mp put
          refine .inr ⟨index, kind, rfl,
            collects.perm_indices.mem_iff.mp taken, ?_⟩
          simp only [Draft.take, put]
      | some scenes =>
          refine .inl ⟨{ draft with scenes := scenes }, ?_, ?_⟩
          · simp only [Draft.take, put]
          · refine ⟨ascending_of_putScene collects.ascending put, ?_, ?_, ?_⟩
            · rw [List.filterMap_append]
              exact (perm_of_putScene put).trans
                ((collects.scenes.cons _).trans
                  (List.perm_append_singleton _ _).symm)
            · simp [collects.islands, Declaration.island?]
            · simp [collects.overrides, Declaration.rule?]
  | island name environment =>
      refine .inl ⟨_, rfl, collects.ascending, ?_, ?_, ?_⟩
      · simpa [List.filterMap_cons, Declaration.scene?] using collects.scenes
      · simp [collects.islands, Declaration.island?]
      · simp [collects.overrides, Declaration.rule?]
  | rule rule =>
      refine .inl ⟨_, rfl, collects.ascending, ?_, ?_, ?_⟩
      · simpa [List.filterMap_cons, Declaration.scene?] using collects.scenes
      · simp [collects.islands, Declaration.island?]
      · simp [collects.overrides, Declaration.rule?]

/-- Drafts that hold the same declarations are equal, in whichever order scenes
were declared. -/
theorem unique {other : Draft} {others : List Declaration}
    (collects : draft.Collects declarations)
    (collectsOther : other.Collects others)
    (sameScenes : (declarations.filterMap Declaration.scene?).Perm
      (others.filterMap Declaration.scene?))
    (sameIslands : declarations.filterMap Declaration.island? =
      others.filterMap Declaration.island?)
    (sameRules : declarations.filterMap Declaration.rule? =
      others.filterMap Declaration.rule?) : draft = other := by
  have scenes : draft.scenes = other.scenes := by
    refine List.Perm.eq_of_pairwise ?_ collects.ascending
      collectsOther.ascending
      (collects.scenes.trans (sameScenes.trans collectsOther.scenes.symm))
    intro first second _ _ before after
    exact absurd before (UInt32.lt_asymm after)
  have islands := collects.islands.trans
    ((congrArg List.reverse sameIslands).trans collectsOther.islands.symm)
  have overrides := collects.overrides.trans
    (sameRules.trans collectsOther.overrides.symm)
  cases draft
  cases other
  cases scenes
  cases islands
  cases overrides
  rfl

end Collects

end Draft

end SceneMap

end Stagecraft
