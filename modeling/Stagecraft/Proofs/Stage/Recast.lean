import Stagecraft.Proofs.Stage.Cast

/-!
# Changes of a cast

A family survives every change of its scenes that leaves their parts alone. A
promotion links every scene anew around another main scene, and the removal of the
main scene takes the whole family away.
-/

namespace Stagecraft

/-- Whether an arena holds nothing at all. -/
structure Arena.IsEmpty (arena : Arena) : Prop where
  scene : ∀ id, arena.scene? id = none
  scenery : ∀ id, arena.scenery? id = none

theorem Arena.isEmpty_empty : Arena.empty.IsEmpty :=
  ⟨Slots.get?_empty, Slots.get?_empty⟩

theorem Arena.IsEmpty.modifyScene
    {arena : Arena} (empty : arena.IsEmpty) (changed : SceneId)
    (change : Scene → Scene) :
    (arena.modifyScene changed change).IsEmpty := by
  refine ⟨fun id => ?_, empty.scenery⟩
  rw [Arena.scene?_modifyScene, empty.scene]
  simp

namespace Cast.Fills

variable {cast : Cast} {map : SceneMap} {arena : Arena}

/-! ## Changing one scene -/

theorem of_scenes
    (fills : cast.Fills map arena) {changed : Arena}
    (sceneries : changed.sceneries = arena.sceneries)
    (scenes : ∀ id, (arena.scene? id = none ∧ changed.scene? id = none) ∨
      ∃ before after, arena.scene? id = some before ∧
        changed.scene? id = some after ∧ before.SamePart after) :
    cast.Fills map changed where
  mainListed := fills.mainListed
  numbers := fills.numbers
  distinct := fills.distinct
  present := by
    intro member listed
    have was := fills.present member listed
    rcases scenes member.2 with ⟨missing, _⟩ | ⟨_, after, _, found, _⟩
    · rw [missing] at was
      simp at was
    · rw [found]
      rfl
  includes := by
    intro id scene found
    rcases scenes id with ⟨_, missing⟩ | ⟨before, after, was, isNow, same⟩
    · rw [missing] at found
      simp at found
    · rw [isNow, Option.some.injEq] at found
      subst found
      exact (fills.includes _ _ was).of_samePart same
  scenery := by
    intro id
    rw [Arena.scenery?, sceneries]
    exact fills.scenery id

theorem modifyScene
    (fills : cast.Fills map arena) {changed : SceneId}
    {change : Scene → Scene}
    (keeps : ∀ scene, arena.scene? changed = some scene →
      scene.SamePart (change scene)) :
    cast.Fills map (arena.modifyScene changed change) := by
  refine fills.of_scenes rfl fun id => ?_
  rw [Arena.scene?_modifyScene]
  cases found : arena.scene? id with
  | none =>
      exact .inl ⟨rfl, by simp⟩
  | some scene =>
      by_cases same : id = changed
      · subst same
        exact .inr ⟨scene, change scene, rfl, by simp, keeps scene found⟩
      · exact .inr ⟨scene, scene, rfl, by simp [same],
          ⟨rfl, rfl, rfl, rfl, rfl⟩⟩

end Cast.Fills

/-! ## Promotion -/

theorem Arena.scene?_relink (link : Link) (sides : Roster) (arena : Arena)
    (id : SceneId) :
    (sides.foldl
        (fun arena side => arena.modifyScene side.2 (Scene.withLink link))
        arena).scene? id =
      if id ∈ sides.map Prod.snd then
        (arena.scene? id).map (Scene.withLink link)
      else
        arena.scene? id := by
  induction sides generalizing arena with
  | nil =>
      simp
  | cons first rest inductionHypothesis =>
      rw [List.foldl_cons, inductionHypothesis, Arena.scene?_modifyScene,
        List.map_cons]
      by_cases own : id = first.2
      · subst own
        by_cases later : first.2 ∈ rest.map Prod.snd
        · cases found : arena.scene? first.2 <;>
            simp [later, Scene.withLink]
        · simp [later]
      · simp only [List.mem_cons, own, false_or, if_false]

theorem Arena.sceneries_relink (link : Link) (sides : Roster) (arena : Arena) :
    (sides.foldl
        (fun arena side => arena.modifyScene side.2 (Scene.withLink link))
        arena).sceneries = arena.sceneries := by
  induction sides generalizing arena with
  | nil => rfl
  | cons first rest inductionHypothesis =>
      rw [List.foldl_cons, inductionHypothesis]
      rfl

namespace Cast.Fills

variable {cast : Cast} {map : SceneMap} {arena : Arena}

/-- The members of a family with several scenes are on an island. -/
theorem isIsland_of_member
    (fills : cast.Fills map arena) {id : SceneId} {scene : Scene}
    (found : arena.scene? id = some scene)
    {member : SceneIndex × SceneId} (listed : member ∈ cast.roster)
    (apart : member.2 ≠ id) :
    scene.kind.isIsland = true := by
  cases island : scene.kind.isIsland with
  | true => rfl
  | false =>
      exact absurd (fills.id_eq_main_of_isometric found island listed) apart

/-- Promoting a side scene gives every scene its link in the family that the side
scene leads. -/
theorem scene?_promote
    (fills : cast.Fills map arena) {index : SceneIndex} {incoming : SceneId}
    (listed : (index, incoming) ∈ cast.roster)
    (apart : incoming ≠ cast.main) (id : SceneId) :
    (arena.promote cast.main incoming).scene? id =
      (arena.scene? id).map fun scene =>
        scene.withLink ((cast.ledBy incoming).link scene.kind id) := by
  obtain ⟨main, found, included⟩ := fills.mainScene
  have isSide :
      (main.sides.any fun side => side.2 == incoming) = true := by
    rw [List.any_eq_true, fills.sides_main found]
    exact ⟨(index, incoming), Roster.mem_without.mpr ⟨listed, apart⟩, by simp⟩
  have sides :
      insertSide main.index cast.main
          (main.sides.filter fun side => side.2 != incoming) =
        Roster.without incoming cast.roster := by
    rw [fills.sides_main found]
    exact Roster.insertSide_without fills.ascending included.listed
      apart.symm fills.distinct
  simp only [Arena.promote, found, isSide, if_true, sides,
    Arena.scene?_modifyScene, Arena.scene?_relink]
  cases known : arena.scene? id with
  | none =>
      simp
  | some scene =>
      have own := (fills.includes _ _ known).listed
      -- The incoming scene is no side scene of its own, so it is linked only once.
      by_cases leads : id = incoming
      · subst leads
        obtain ⟨mainIndex, mainListed⟩ := fills.mainListed
        have island :=
          fills.isIsland_of_member known mainListed apart.symm
        have absent :
            id ∉ (Roster.without id cast.roster).map Prod.snd := by
          intro present
          obtain ⟨member, remaining, same⟩ := List.mem_map.mp present
          exact (Roster.mem_without.mp remaining).2 same
        simp [absent, Cast.link, Cast.ledBy, Attach.mainLink, island]
      · have remaining :
            id ∈ (Roster.without incoming cast.roster).map Prod.snd :=
          List.mem_map_of_mem (Roster.mem_without.mpr ⟨own, leads⟩)
        simp [leads, remaining, Cast.link, Cast.ledBy]

theorem sceneries_promote (arena : Arena) (outgoing incoming : SceneId) :
    (arena.promote outgoing incoming).sceneries = arena.sceneries := by
  unfold Arena.promote
  split
  · rfl
  · split
    · exact Arena.sceneries_relink _ _ _
    · rfl

theorem promote
    (fills : cast.Fills map arena) {index : SceneIndex} {incoming : SceneId}
    (listed : (index, incoming) ∈ cast.roster)
    (apart : incoming ≠ cast.main) :
    (cast.ledBy incoming).Fills map
      (arena.promote cast.main incoming) where
  mainListed := ⟨index, listed⟩
  numbers := fills.numbers
  distinct := fills.distinct
  present := by
    intro member memberListed
    rw [fills.scene?_promote listed apart, Option.isSome_map]
    exact fills.present member memberListed
  includes := by
    intro id scene found
    rw [fills.scene?_promote listed apart, Option.map_eq_some_iff] at found
    obtain ⟨before, was, rfl⟩ := found
    have included := fills.includes _ _ was
    exact ⟨included.listed, included.kind, rfl, included.scenery,
      included.root⟩
  scenery := by
    intro id
    rw [Arena.scenery?, sceneries_promote]
    exact fills.scenery id

end Cast.Fills

/-! ## Removal -/

theorem Slots.get?_foldl_erase {α : Type} (ids : List Nat) (slots : Slots α)
    (id : Nat) :
    (ids.foldl Slots.erase slots).get? id =
      if id ∈ ids then none else slots.get? id := by
  induction ids generalizing slots with
  | nil =>
      simp
  | cons first rest inductionHypothesis =>
      rw [List.foldl_cons, inductionHypothesis, Slots.get?_erase]
      by_cases later : id ∈ rest
      · simp [later]
      · simp [later]

/-- Without scenes no scenery is used. -/
theorem Arena.isUsed_of_no_scenes
    {arena : Arena} (noScenes : ∀ id, arena.scene? id = none)
    (scenery : SceneryId) :
    arena.isUsed scenery = false := by
  rw [Arena.isUsed, List.any_eq_false]
  rintro ⟨id, scene⟩ listed
  have found := (arena.scenes.mem_entries id scene).mp listed
  have missing : arena.scenes.get? id = none := noScenes id
  rw [missing] at found
  simp at found

/-- The removal of a family leaves nothing behind. -/
theorem Cast.Fills.removeFamily
    {cast : Cast} {map : SceneMap} {arena : Arena}
    (fills : cast.Fills map arena) (nodes : NodeTree) :
    (arena.removeFamily cast.main nodes).1.IsEmpty := by
  let left : Arena :=
    { arena with
      scenes := (arena.familyOf cast.main).foldl Slots.erase arena.scenes }
  have noScenes (id : SceneId) : left.scene? id = none := by
    have erased :=
      Slots.get?_foldl_erase (arena.familyOf cast.main) arena.scenes id
    rw [Arena.scene?, erased]
    by_cases member : id ∈ arena.familyOf cast.main
    · rw [if_pos member]
    · rw [if_neg member]
      rw [fills.mem_familyOf_main, Option.not_isSome_iff_eq_none] at member
      exact member
  have emptied :
      Arena.IsEmpty
        { left with
          sceneries :=
            left.sceneries.filter fun scenery _ => left.isUsed scenery } := by
    refine ⟨noScenes, fun id => ?_⟩
    rw [Arena.scenery?, Slots.get?_filter, Arena.isUsed_of_no_scenes noScenes]
    cases left.sceneries.get? id <;> rfl
  unfold Arena.removeFamily
  dsimp only
  split
  · exact emptied
  · exact emptied

end Stagecraft
