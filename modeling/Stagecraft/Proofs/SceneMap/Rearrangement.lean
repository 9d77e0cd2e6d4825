import Stagecraft.Proofs.SceneMap.Format

/-!
# Exactly the format

A scene map is read from a text exactly if the text has the format, and the order
in which scenes stand among the other elements does not matter.
-/

namespace Stagecraft

namespace SceneMap

/-! ## Scenes in another order -/

def isScene (element : Xml.Element) : Bool := element.name == "Scene"

/-- Whether elements are the same but for the order of the scenes among all of
them. -/
structure Rearranged (children others : List Xml.Element) : Prop where
  scenes : ((children.filter isScene).map content).Perm
    ((others.filter isScene).map content)
  remaining : (children.filter fun child => !isScene child).map content =
    (others.filter fun child => !isScene child).map content

instance (children others : List Xml.Element) :
    Decidable (Rearranged children others) :=
  decidable_of_iff
    (((children.filter isScene).map content).Perm
        ((others.filter isScene).map content) ∧
      (children.filter fun child => !isScene child).map content =
        (others.filter fun child => !isScene child).map content)
    ⟨fun ⟨scenes, remaining⟩ => ⟨scenes, remaining⟩,
      fun ⟨scenes, remaining⟩ => ⟨scenes, remaining⟩⟩

/-- What elements with some content declare. -/
def said? (content : String × List (String × String)) : Option Declaration :=
  (declarationOf (.mk content.1 content.2 [] [])).toOption

theorem said?_of_declares {child : Xml.Element} {declaration : Declaration}
    (declares : Declares child declaration) :
    said? (content child) = some declaration := by
  have same : content (.mk (content child).1 (content child).2 [] []) =
      content child := rfl
  rw [said?, declarationOf_congr same, declarationOf_of_declares declares]
  rfl

theorem declares_of_said? {child : Xml.Element} {declaration : Declaration}
    (said : said? (content child) = some declaration) :
    Declares child declaration := by
  have same : content (.mk (content child).1 (content child).2 [] []) =
      content child := rfl
  rw [said?, declarationOf_congr same] at said
  rcases outcome_declarationOf child with
    ⟨found, read, declares, -⟩ | ⟨defect, read, -⟩
  · rw [read] at said
    cases said
    exact declares
  · rw [read] at said
    cases said

theorem forall₂_of_said? {children : List Xml.Element}
    {declarations : List Declaration}
    (said : (children.map content).map said? = declarations.map some) :
    List.Forall₂ Declares children declarations := by
  rw [← List.forall₂_eq_eq_eq, List.map_map, List.forall₂_map_left_iff,
    List.forall₂_map_right_iff] at said
  exact said.imp fun _ _ => declares_of_said?

/-- What is declared of one sort is said by the elements of that sort. -/
theorem filterMap_declarations {β : Type} {sort : Xml.Element → Bool}
    {part : Declaration → Option β}
    (ofSort : ∀ {child declaration}, Declares child declaration →
      sort child = false → part declaration = none)
    {children : List Xml.Element} {declarations : List Declaration}
    (declares : List.Forall₂ Declares children declarations) :
    declarations.filterMap part =
      ((children.filter sort).map content).filterMap fun content =>
        (said? content).bind part := by
  induction declares with
  | nil => rfl
  | @cons child declaration _ _ own _ inductionHypothesis =>
      rw [List.filterMap_cons, inductionHypothesis, List.filter_cons]
      cases sorted : sort child with
      | false => rw [ofSort own sorted]; rfl
      | true =>
          rw [if_pos rfl, List.map_cons, List.filterMap_cons,
            said?_of_declares own]
          rfl

theorem exists_declarations {children : List Xml.Element}
    (each : ∀ child ∈ children, ∃ declaration, Declares child declaration) :
    ∃ declarations, List.Forall₂ Declares children declarations := by
  induction children with
  | nil => exact ⟨[], .nil⟩
  | cons child rest inductionHypothesis =>
      obtain ⟨declaration, own⟩ := each child List.mem_cons_self
      obtain ⟨declarations, declares⟩ := inductionHypothesis fun other listed =>
        each other (List.mem_cons_of_mem _ listed)
      exact ⟨_, .cons own declares⟩

section Rearrangement

variable {children others : List Xml.Element}

theorem Rearranged.mem_content (rearranged : Rearranged children others)
    {other : Xml.Element} (listed : other ∈ others) :
    ∃ child ∈ children, content child = content other := by
  have among (sort : Xml.Element → Bool) (sorted : sort other = true)
      (same : content other ∈ (children.filter sort).map content ↔
        content other ∈ (others.filter sort).map content) :
      ∃ child ∈ children, content child = content other := by
    obtain ⟨child, inside, found⟩ := List.mem_map.mp (same.mpr
      (List.mem_map_of_mem (List.mem_filter.mpr ⟨listed, sorted⟩)))
    exact ⟨child, (List.mem_filter.mp inside).1, found⟩
  cases sorted : isScene other with
  | true => exact among isScene sorted rearranged.scenes.mem_iff
  | false =>
      exact among (fun child => !isScene child) (by simp [sorted])
        (by rw [rearranged.remaining])

theorem scene?_of_not_isScene {child : Xml.Element} {declaration : Declaration}
    (declares : Declares child declaration) (notScene : isScene child = false) :
    declaration.scene? = none := by
  cases declares with
  | islandScene named => simp [isScene, named] at notScene
  | isometricScene named => simp [isScene, named] at notScene
  | island => rfl
  | rule => rfl

theorem parts_of_isScene {child : Xml.Element} {declaration : Declaration}
    (declares : Declares child declaration)
    (scene : (!isScene child) = false) :
    declaration.island? = none ∧ declaration.rule? = none := by
  cases declares with
  | islandScene => exact ⟨rfl, rfl⟩
  | isometricScene => exact ⟨rfl, rfl⟩
  | island named => simp [isScene, named] at scene
  | rule named => simp [isScene, named] at scene

/-- Elements in another order declare the same scenes in another order, and the
same islands and rules in the same order. -/
theorem Rearranged.declarations (rearranged : Rearranged children others)
    {declarations otherDeclarations : List Declaration}
    (declares : List.Forall₂ Declares children declarations)
    (declaresOther : List.Forall₂ Declares others otherDeclarations) :
    (declarations.filterMap Declaration.scene?).Perm
        (otherDeclarations.filterMap Declaration.scene?) ∧
      declarations.filterMap Declaration.island? =
        otherDeclarations.filterMap Declaration.island? ∧
      declarations.filterMap Declaration.rule? =
        otherDeclarations.filterMap Declaration.rule? := by
  refine ⟨?scenes, ?islands, ?rules⟩
  case scenes =>
    rw [filterMap_declarations scene?_of_not_isScene declares,
      filterMap_declarations scene?_of_not_isScene declaresOther]
    exact rearranged.scenes.filterMap _
  case islands =>
    have ofSort {child declaration} (declares : Declares child declaration)
        (scene : (!isScene child) = false) : declaration.island? = none :=
      (parts_of_isScene declares scene).1
    rw [filterMap_declarations ofSort declares,
      filterMap_declarations ofSort declaresOther, rearranged.remaining]
  case rules =>
    have ofSort {child declaration} (declares : Declares child declaration)
        (scene : (!isScene child) = false) : declaration.rule? = none :=
      (parts_of_isScene declares scene).2
    rw [filterMap_declarations ofSort declares,
      filterMap_declarations ofSort declaresOther, rearranged.remaining]

theorem ofText_of_rearranged {path otherPath text otherText : String}
    {root otherRoot : Xml.Element} {map : SceneMap}
    (wellFormed : Xml.document? text.toList = some root)
    (otherWellFormed : Xml.document? otherText.toList = some otherRoot)
    (sameName : otherRoot.name = root.name)
    (rearranged : Rearranged root.children otherRoot.children)
    (read : ofText path text = .ok map) :
    ofText otherPath otherText = .ok map := by
  have verdict := verdict_ofText wellFormed path
  rw [read] at verdict
  have otherVerdict := verdict_ofText otherWellFormed otherPath
  generalize ofText otherPath otherText = result at otherVerdict
  cases verdict with
  | @described declarations draft _ named declares collects contiguous
      finished describes =>
  obtain ⟨otherDeclarations, declaresOther⟩ :
      ∃ otherDeclarations,
        List.Forall₂ Declares otherRoot.children otherDeclarations := by
    refine exists_declarations fun other listed => ?_
    obtain ⟨child, inside, same⟩ := rearranged.mem_content listed
    obtain ⟨declaration, own⟩ := exists_of_mem declares inside
    exact ⟨declaration, own.congr same⟩
  obtain ⟨sameScenes, sameIslands, sameRules⟩ :=
    rearranged.declarations declares declaresOther
  have sameIndices : (sceneIndices declarations).Perm
      (sceneIndices otherDeclarations) := sameScenes.map _
  have distinct := sameIndices.nodup_iff.mp collects.nodup
  have otherContiguous : Contiguous (sceneIndices otherDeclarations) := by
    obtain ⟨count, all⟩ := contiguous
    exact ⟨count, fun index => sameIndices.mem_iff.symm.trans (all index)⟩
  cases otherVerdict with
  | wrongRoot apart => exact absurd (sameName.trans named) apart
  | offence _ first =>
      exact absurd (sound_of_declares declaresOther distinct) first.not_sound
  | gap _ declaresAgain _ leastMissing =>
      rw [declares_unique declaresAgain declaresOther] at leastMissing
      exact absurd otherContiguous leastMissing.not_contiguous
  | described _ declaresAgain otherCollects _ otherFinished _ =>
      obtain rfl := declares_unique declaresAgain declaresOther
      rw [collects.unique otherCollects sameScenes sameIslands sameRules,
        otherFinished] at finished
      cases finished
      rfl

end Rearrangement

/-! ## The format -/

/-- A document is read as a scene map exactly if its root is one, each element
declares something, and the scene numbers are distinct and none is left out. The
map is what was declared, in whichever order the scenes stand. Otherwise the
first element that offends is reported, and the least number that is missing
only if no element offends. -/
theorem reads_exactly_its_format {path text : String} {root : Xml.Element}
    (wellFormed : Xml.document? text.toList = some root) :
    ((∃ map, ofText path text = .ok map) ↔
      root.name = "SceneMap" ∧ ∃ declarations,
        List.Forall₂ Declares root.children declarations ∧
          (sceneIndices declarations).Nodup ∧
          Contiguous (sceneIndices declarations)) ∧
    (∀ map declarations, ofText path text = .ok map →
      List.Forall₂ Declares root.children declarations →
        Describes map declarations) ∧
    (∀ map otherPath otherText otherRoot,
      Xml.document? otherText.toList = some otherRoot →
        otherRoot.name = root.name →
          Rearranged root.children otherRoot.children →
            ofText path text = .ok map →
              ofText otherPath otherText = .ok map) ∧
    (∀ error, ofText path text = .error error ↔
      (root.name ≠ "SceneMap" ∧
        error = ⟨.wrongRoot, path, some (root.position text.toList)⟩) ∨
      (root.name = "SceneMap" ∧ ∃ child defect,
        FirstOffence root.children child defect ∧
          error = ⟨defect, path, some (child.position text.toList)⟩) ∨
      (root.name = "SceneMap" ∧ Sound root.children ∧
        ∃ declarations missing,
          List.Forall₂ Declares root.children declarations ∧
            LeastMissing (sceneIndices declarations) missing ∧
            error = ⟨.missingScene missing, path, none⟩)) ∧
    (∀ error missing, ofText path text = .error error →
      error.defect = .missingScene missing →
        Sound root.children ∧ ∃ declarations,
          List.Forall₂ Declares root.children declarations ∧
            LeastMissing (sceneIndices declarations) missing) := by
  refine ⟨exists_ofText_iff wellFormed path, fun map declarations read =>
    describes_of_ofText wellFormed read,
    fun map otherPath otherText otherRoot otherWellFormed sameName rearranged =>
      ofText_of_rearranged wellFormed otherWellFormed sameName rearranged,
    ofText_eq_error_iff wellFormed path, ?missing⟩
  case missing =>
    rintro error missing refused isMissing
    rcases (ofText_eq_error_iff wellFormed path error).mp refused with
      ⟨-, rfl⟩ | ⟨-, child, defect, first, rfl⟩ |
      ⟨-, sound, declarations, least, declares, leastMissing, rfl⟩
    · cases isMissing
    · obtain ⟨before, after, -, -, offends⟩ := first
      exact absurd isMissing (offends.ne_missingScene missing)
    · cases isMissing
      exact ⟨sound, declarations, declares, leastMissing⟩

/-- The lines of a map that declares its scenes in descending order, an island
twice and a rule. -/
def shuffledLines : List String :=
  ["<SceneMap>",
    "<Scene index='1' kind='iso' isoIndex='7'/>",
    "<Island name='HILL' skyColor='9,9,9' fogDensity='1'/>",
    "<IslandOverride gameVar='3' from='HILL' to='DUSK'/>",
    "<Scene index='0' kind='island' island='HILL' section='2' variant='0'/>",
    "<Island name='HILL' skyColor='4, 5, 6' fogDensity='0.5'/>",
    "</SceneMap>"]

def sortedLines : List String :=
  ["<SceneMap>",
    "<Scene index='0' kind='island' island='HILL' section='2' variant='0'/>",
    "<Island name='HILL' skyColor='9,9,9' fogDensity='1'/>",
    "<Scene index='1' kind='iso' isoIndex='7'/>",
    "<IslandOverride gameVar='3' from='HILL' to='DUSK'/>",
    "<Island name='HILL' skyColor='4, 5, 6' fogDensity='0.5'/>",
    "</SceneMap>"]

/-- What the elements of the shuffled map declare. -/
def shuffledDeclarations : List Declaration :=
  [.scene 1 (.isometric 7), .island "HILL" ⟨(9, 9, 9), 1⟩,
    .rule ⟨3, "HILL", "DUSK"⟩, .scene 0 (.island ⟨"HILL", 2, 0⟩),
    .island "HILL" ⟨(4, 5, 6), 0.5⟩]

theorem reads_exactly_its_format_shuffled :
    ∃ root map, Xml.document? (String.join shuffledLines).toList = some root ∧
      List.Forall₂ Declares root.children shuffledDeclarations ∧
      ofText "map.xml" (String.join shuffledLines) = .ok map ∧
      ofText "sorted.xml" (String.join sortedLines) = .ok map ∧
      map.kind? 0 = some (.island ⟨"HILL", 2, 0⟩) ∧
      map.kind? 1 = some (.isometric 7) ∧
      map.environment (some "HILL") = ⟨(4, 5, 6), 0.5⟩ ∧
      map.overrides = [⟨3, "HILL", "DUSK"⟩] := by
  have documents :
      ((Xml.document? (String.join shuffledLines).toList).bind fun root =>
        (Xml.document? (String.join sortedLines).toList).map fun other =>
          (root.name, other.name, (root.children.map content).map said?,
            decide (Rearranged root.children other.children))) =
        some ("SceneMap", "SceneMap", shuffledDeclarations.map some, true) := by
    rw [String.toList_join, String.toList_join]
    decide +kernel
  obtain ⟨root, wellFormed, documents⟩ := Option.bind_eq_some_iff.mp documents
  obtain ⟨other, otherWellFormed, documents⟩ :=
    Option.map_eq_some_iff.mp documents
  simp only [Prod.mk.injEq, decide_eq_true_eq] at documents
  obtain ⟨named, otherNamed, said, rearranged⟩ := documents
  have declares := forall₂_of_said? said
  obtain ⟨formed, described, reordered, -⟩ :=
    reads_exactly_its_format wellFormed
  have contiguous : Contiguous (sceneIndices shuffledDeclarations) := by
    refine ⟨2, fun index => ?_⟩
    have indices : sceneIndices shuffledDeclarations = [1, 0] := by decide
    rw [indices, List.mem_pair, ← UInt32.toNat_inj, ← UInt32.toNat_inj]
    change index.toNat = 1 ∨ index.toNat = 0 ↔ index.toNat < 2
    omega
  obtain ⟨map, read⟩ :=
    formed.mpr ⟨named, _, declares, by decide, contiguous⟩
  have describes := described map _ read declares
  exact ⟨root, map, wellFormed, declares, read,
    reordered map _ _ other otherWellFormed (otherNamed.trans named.symm)
      rearranged read,
    (describes.kinds 0 _).mpr (by decide), (describes.kinds 1 _).mpr (by decide),
    describes.environments "HILL", describes.overrides⟩

end SceneMap

end Stagecraft
