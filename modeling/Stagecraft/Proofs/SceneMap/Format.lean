import Stagecraft.Proofs.SceneMap.Offences
import Stagecraft.Proofs.SceneMap.Relatives

/-!
# The format of scene maps

A text describes a scene map exactly if all its elements declare something, the
scene numbers are distinct, and none is left out. Otherwise the first element
that offends is reported, and a number that was left out only if no element
offends.
-/

namespace Stagecraft

namespace SceneMap

/-! ## What a document declares -/

/-- The environment that was declared last for an island. -/
def lastEnvironment? (declarations : List Declaration) (name : String) :
    Option Environment :=
  (declarations.filterMap Declaration.island?).reverse.lookup name

/-- Whether numbers are all numbers from zero on up to some number. -/
def Contiguous (indices : List SceneIndex) : Prop :=
  ∃ count, ∀ index : SceneIndex, index ∈ indices ↔ index.toNat < count

/-- Whether a map is what declarations describe: each number leads to the scene
that was declared under it, entries stand by number, the last declaration of an
island holds, and rules keep their order. -/
structure Describes (map : SceneMap) (declarations : List Declaration) :
    Prop where
  kinds (index : SceneIndex) (kind : SceneKind) :
    map.kind? index = some kind ↔ .scene index kind ∈ declarations
  size : map.size = (sceneIndices declarations).length
  entries : map.entries.map (fun entry => entry.1.toNat) = List.range map.size
  environments (name : String) :
    map.environment (some name) =
      (lastEnvironment? declarations name).getD Environment.plain
  overrides : map.overrides = declarations.filterMap Declaration.rule?

/-! ## The finished map -/

namespace Draft.Collects

variable {draft : Draft} {declarations : List Declaration}

theorem mem_scenes (collects : draft.Collects declarations)
    (index : SceneIndex) (kind : SceneKind) :
    (index, kind) ∈ draft.scenes ↔ .scene index kind ∈ declarations := by
  rw [collects.scenes.mem_iff, List.mem_filterMap]
  constructor
  · rintro ⟨declaration, listed, declared⟩
    cases declaration with
    | scene other otherKind =>
        cases declared
        exact listed
    | _ => cases declared
  · intro listed
    exact ⟨_, listed, rfl⟩

theorem describes (collects : draft.Collects declarations)
    (gapless : firstGap 0 draft.scenes = none) {map : SceneMap}
    (scenes : map.scenes = draft.scenes.map Prod.snd)
    (islands : map.islands = draft.islands)
    (overrides : map.overrides = draft.overrides) :
    Describes map declarations := by
  have numbers := numbers_of_firstGap_none gapless
  have size : map.size = draft.scenes.length := by
    rw [SceneMap.size, scenes, List.length_map]
  refine ⟨fun index kind => ?kinds, ?size, ?entries, fun name => ?environments,
    overrides.trans collects.overrides⟩
  case kinds =>
    -- A scene stands at the position that is its number.
    have stands {position : Nat} {scene : SceneIndex × SceneKind}
        (found : draft.scenes[position]? = some scene) :
        scene.1.toNat = position := by
      have bound := (List.getElem?_eq_some_iff.mp found).1
      have number := congrArg (·[position]?) numbers
      simp only [List.getElem?_map, found, Option.map_some,
        List.getElem?_range' bound, Option.some.injEq] at number
      omega
    rw [← collects.mem_scenes, SceneMap.kind?, scenes, List.getElem?_map,
      Option.map_eq_some_iff]
    constructor
    · rintro ⟨⟨other, otherKind⟩, found, rfl⟩
      obtain rfl := UInt32.toNat_inj.mp (stands found)
      exact List.mem_of_getElem? found
    · intro listed
      obtain ⟨position, found⟩ := List.getElem?_of_mem listed
      obtain rfl := stands found
      exact ⟨_, found, rfl⟩
  case size =>
    rw [size, ← collects.perm_indices.length_eq, List.length_map]
  case entries =>
    rw [SceneMap.entries, List.map_map, SceneMap.size]
    refine List.ext_getElem (by simp) fun position bound _ => ?_
    have small : position < 2 ^ 32 := by
      have within := map.scenes_length_le
      simp only [List.length_map, List.length_zipIdx] at bound
      exact Nat.lt_of_lt_of_le bound within
    have number : (UInt32.ofNat position).toNat = position :=
      UInt32.toNat_ofNat_of_lt small
    simpa only [List.getElem_map, Function.comp_apply, List.getElem_zipIdx,
      List.getElem_range, Nat.zero_add] using number
  case environments =>
    rw [SceneMap.environment, islands, collects.islands]
    rfl

/-- A draft either has no gap and becomes a map, or its first gap is reported. -/
theorem finish (collects : draft.Collects declarations) :
    (∃ map, draft.finish = .ok map ∧
      Contiguous (sceneIndices declarations) ∧ Describes map declarations) ∨
    ∃ missing, draft.finish = .error (.missingScene missing) ∧
      LeastMissing (sceneIndices declarations) missing := by
  unfold Draft.finish
  split
  · next missing gap =>
      obtain ⟨-, absent, least, larger⟩ := leastMissing_of_firstGap
        collects.ascending (fun _ _ => Nat.zero_le _) gap
      have among (index : SceneIndex) :=
        (collects.perm_indices.mem_iff (a := index)).symm
      refine .inr ⟨missing, rfl, ?_, ?_, ?_⟩
      · intro index listed
        obtain ⟨scene, inside, rfl⟩ := List.mem_map.mp ((among index).mp listed)
        exact absent scene inside
      · intro smaller below
        obtain ⟨scene, inside, found⟩ := least smaller (Nat.zero_le _) below
        exact ⟨scene.1, (among _).mpr (List.mem_map_of_mem inside), found⟩
      · obtain ⟨scene, inside, beyond⟩ := larger
        exact ⟨scene.1, (among _).mpr (List.mem_map_of_mem inside), beyond⟩
  · next gapless =>
      refine .inl ⟨_, rfl, ⟨draft.scenes.length, fun index => ?_⟩,
        collects.describes gapless rfl rfl rfl⟩
      have numbers := numbers_of_firstGap_none gapless
      rw [← collects.perm_indices.mem_iff]
      have mapped : index ∈ draft.scenes.map Prod.fst ↔
          index.toNat ∈ draft.scenes.map fun scene => scene.1.toNat := by
        simp only [List.mem_map]
        constructor
        · rintro ⟨scene, inside, rfl⟩
          exact ⟨scene, inside, rfl⟩
        · rintro ⟨scene, inside, same⟩
          exact ⟨scene, inside, UInt32.toNat_inj.mp same⟩
      rw [mapped, numbers, List.mem_range'_1]
      omega

end Draft.Collects

theorem LeastMissing.unique {indices : List SceneIndex} {missing other : Nat}
    (leastMissing : LeastMissing indices missing)
    (otherMissing : LeastMissing indices other) : missing = other := by
  rcases Nat.lt_trichotomy missing other with below | same | above
  · obtain ⟨index, listed, found⟩ := otherMissing.least missing below
    exact absurd found (leastMissing.absent index listed)
  · exact same
  · obtain ⟨index, listed, found⟩ := leastMissing.least other above
    exact absurd found (otherMissing.absent index listed)

theorem LeastMissing.not_contiguous {indices : List SceneIndex} {missing : Nat}
    (leastMissing : LeastMissing indices missing) : ¬Contiguous indices := by
  rintro ⟨count, all⟩
  obtain ⟨index, listed, beyond⟩ := leastMissing.larger
  have within := (all index).mp listed
  have number : (UInt32.ofNat missing).toNat = missing :=
    UInt32.toNat_ofNat_of_lt' (Nat.lt_trans beyond index.toNat_lt)
  have missingListed := (all (UInt32.ofNat missing)).mpr (by omega)
  exact leastMissing.absent _ missingListed number

/-! ## Documents -/

/-- What becomes of a document: its root is not a scene map, an element offends,
a scene number is missing, or a draft of all declarations is finished. -/
inductive Verdict (path : String) (chars : List Char) (root : Xml.Element) :
    Except SceneMapError SceneMap → Prop
  | wrongRoot (apart : root.name ≠ "SceneMap") :
      Verdict path chars root
        (.error ⟨.wrongRoot, path, some (root.position chars)⟩)
  | offence {child : Xml.Element} {defect : SceneMapDefect}
      (named : root.name = "SceneMap")
      (first : FirstOffence root.children child defect) :
      Verdict path chars root
        (.error ⟨defect, path, some (child.position chars)⟩)
  | gap {declarations : List Declaration} {missing : Nat}
      (named : root.name = "SceneMap")
      (declares : List.Forall₂ Declares root.children declarations)
      (distinct : (sceneIndices declarations).Nodup)
      (leastMissing : LeastMissing (sceneIndices declarations) missing) :
      Verdict path chars root (.error ⟨.missingScene missing, path, none⟩)
  | described {declarations : List Declaration} {draft : Draft}
      {map : SceneMap} (named : root.name = "SceneMap")
      (declares : List.Forall₂ Declares root.children declarations)
      (collects : draft.Collects declarations)
      (contiguous : Contiguous (sceneIndices declarations))
      (finished : draft.finish = .ok map)
      (describes : Describes map declarations) :
      Verdict path chars root (.ok map)

section Documents

variable {path text : String} {root : Xml.Element}
  (wellFormed : Xml.document? text.toList = some root)

include wellFormed

theorem verdict_ofText (path : String) :
    Verdict path text.toList root (ofText path text) := by
  unfold ofText
  simp only [wellFormed]
  by_cases named : root.name = "SceneMap"
  · rw [if_pos (beq_iff_eq.mpr named)]
    rcases collects_foldlM
        (fun child defect =>
          (⟨defect, path, some (child.position text.toList)⟩ : SceneMapError))
        .nil .blank root.children with
      ⟨draft, declarations, read, declares, collects⟩ |
      ⟨child, defect, refused, first⟩
    · rw [read]
      rcases collects.finish with
        ⟨map, finished, contiguous, describes⟩ |
        ⟨missing, refused, leastMissing⟩
      · simp only [bind, Except.bind, finished, Except.mapError]
        exact .described named declares collects contiguous finished describes
      · simp only [bind, Except.bind, refused, Except.mapError]
        exact .gap named declares collects.nodup leastMissing
    · rw [refused]
      exact .offence named first
  · rw [if_neg (mt beq_iff_eq.mp named)]
    exact .wrongRoot named

theorem exists_ofText_iff (path : String) :
    (∃ map, ofText path text = .ok map) ↔
      root.name = "SceneMap" ∧ ∃ declarations,
        List.Forall₂ Declares root.children declarations ∧
          (sceneIndices declarations).Nodup ∧
          Contiguous (sceneIndices declarations) := by
  have verdict := verdict_ofText wellFormed path
  generalize ofText path text = result at verdict
  constructor
  · rintro ⟨map, rfl⟩
    cases verdict with
    | described named declares collects contiguous _ _ =>
        exact ⟨named, _, declares, collects.nodup, contiguous⟩
  · rintro ⟨named, declarations, declares, distinct, contiguous⟩
    cases verdict with
    | wrongRoot apart => exact absurd named apart
    | offence _ first =>
        obtain ⟨before, after, split, -, offends⟩ := first
        exact absurd offends
          (sound_of_declares declares distinct before _ after split _)
    | gap _ declaresOther _ leastMissing =>
        rw [declares_unique declares declaresOther] at contiguous
        exact absurd contiguous leastMissing.not_contiguous
    | described _ _ _ _ _ _ => exact ⟨_, rfl⟩

theorem ofText_eq_error_iff (path : String) (error : SceneMapError) :
    ofText path text = .error error ↔
      (root.name ≠ "SceneMap" ∧
        error = ⟨.wrongRoot, path, some (root.position text.toList)⟩) ∨
      (root.name = "SceneMap" ∧ ∃ child defect,
        FirstOffence root.children child defect ∧
          error = ⟨defect, path, some (child.position text.toList)⟩) ∨
      (root.name = "SceneMap" ∧ Sound root.children ∧
        ∃ declarations missing,
          List.Forall₂ Declares root.children declarations ∧
            LeastMissing (sceneIndices declarations) missing ∧
            error = ⟨.missingScene missing, path, none⟩) := by
  have verdict := verdict_ofText wellFormed path
  generalize ofText path text = result at verdict
  constructor
  · rintro rfl
    cases verdict with
    | wrongRoot apart => exact .inl ⟨apart, rfl⟩
    | offence named first => exact .inr (.inl ⟨named, _, _, first, rfl⟩)
    | gap named declares distinct leastMissing =>
        exact .inr (.inr ⟨named, sound_of_declares declares distinct, _, _,
          declares, leastMissing, rfl⟩)
  · rintro (⟨apart, rfl⟩ | ⟨named, child, defect, first, rfl⟩ |
      ⟨named, sound, declarations, missing, declares, leastMissing, rfl⟩)
    · cases verdict with
      | wrongRoot _ => rfl
      | offence named _ => exact absurd named apart
      | gap named _ _ _ => exact absurd named apart
      | described named _ _ _ _ _ => exact absurd named apart
    · cases verdict with
      | wrongRoot apart => exact absurd named apart
      | offence _ other =>
          obtain ⟨rfl, rfl⟩ := first.unique other
          rfl
      | gap _ declares distinct _ =>
          exact absurd (sound_of_declares declares distinct) first.not_sound
      | described _ declares collects _ _ _ =>
          exact absurd (sound_of_declares declares collects.nodup)
            first.not_sound
    · cases verdict with
      | wrongRoot apart => exact absurd named apart
      | offence _ first => exact absurd sound first.not_sound
      | gap _ declaresOther _ other =>
          rw [declares_unique declares declaresOther] at leastMissing
          rw [leastMissing.unique other]
      | described _ declaresOther _ contiguous _ _ =>
          rw [declares_unique declares declaresOther] at leastMissing
          exact absurd contiguous leastMissing.not_contiguous

theorem describes_of_ofText {map : SceneMap} {declarations : List Declaration}
    (read : ofText path text = .ok map)
    (declares : List.Forall₂ Declares root.children declarations) :
    Describes map declarations := by
  have verdict := verdict_ofText wellFormed path
  rw [read] at verdict
  cases verdict with
  | described _ declaresOther _ _ _ describes =>
      rwa [declares_unique declares declaresOther]

end Documents

end SceneMap

end Stagecraft
