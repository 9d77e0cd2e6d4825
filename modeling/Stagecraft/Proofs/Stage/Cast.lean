import Stagecraft.Proofs.SceneMap.Relatives
import Stagecraft.Proofs.Stage.Roster
import Stagecraft.Stage.Attach

/-!
# Casts

What the family of a scene looks like in an arena: which scenes there are, how
they are linked, and the scenery that they stand on. The links follow from the
roster and from which scene is the main one, whatever happened before.
-/

namespace Stagecraft

/-- A family: its scenes with their ids, which one is the main scene, the scenery
that they share, and the root of their nodes. -/
structure Cast where
  roster : Roster
  main : SceneId
  scenery : SceneryId
  root : NodeId

namespace Cast

def link (cast : Cast) (kind : SceneKind) (id : SceneId) : Link :=
  if id = cast.main then
    Attach.mainLink kind (Roster.without cast.main cast.roster)
  else
    .side cast.main

theorem link_main (cast : Cast) (kind : SceneKind) :
    cast.link kind cast.main =
      Attach.mainLink kind (Roster.without cast.main cast.roster) :=
  if_pos rfl

theorem link_of_ne
    (cast : Cast) {id : SceneId} (apart : id ≠ cast.main)
    (kind : SceneKind) :
    cast.link kind id = .side cast.main :=
  if_neg apart

def ledBy (main : SceneId) (cast : Cast) : Cast := { cast with main := main }

/-- Whether a scene is a member of a family. -/
structure Includes (cast : Cast) (map : SceneMap) (id : SceneId)
    (scene : Scene) : Prop where
  listed : (scene.index, id) ∈ cast.roster
  kind : map.kind? scene.index = some scene.kind
  link : scene.link = cast.link scene.kind id
  scenery : scene.scenery = cast.scenery
  root : scene.root = cast.root

/-- Whether an arena holds a family and nothing else. -/
structure Fills (cast : Cast) (map : SceneMap) (arena : Arena) : Prop where
  mainListed : ∃ index, (index, cast.main) ∈ cast.roster
  numbers : ∀ member ∈ cast.roster,
    cast.roster.map Prod.fst = map.relatives member.1
  distinct : Roster.Distinct cast.roster
  present : ∀ member ∈ cast.roster, (arena.scene? member.2).isSome
  includes : ∀ id scene, arena.scene? id = some scene →
    cast.Includes map id scene
  scenery : ∀ id, (arena.scenery? id).isSome ↔ id = cast.scenery

end Cast

/-- Whether two scenes play the same part in a family. -/
structure Scene.SamePart (before after : Scene) : Prop where
  index : after.index = before.index
  kind : after.kind = before.kind
  link : after.link = before.link
  scenery : after.scenery = before.scenery
  root : after.root = before.root

theorem Cast.Includes.of_samePart
    {cast : Cast} {map : SceneMap} {id : SceneId} {before after : Scene}
    (included : cast.Includes map id before)
    (same : before.SamePart after) :
    cast.Includes map id after where
  listed := same.index ▸ included.listed
  kind := by rw [same.index, same.kind, included.kind]
  link := by rw [same.link, same.kind, included.link]
  scenery := same.scenery.trans included.scenery
  root := same.root.trans included.root

theorem Scene.samePart_withActive (scene : Scene) (active : Bool) :
    scene.SamePart (scene.withActive active) :=
  ⟨rfl, rfl, rfl, rfl, rfl⟩

theorem Scene.samePart_changeProtagonist (scene : Scene)
    (change : Actor → NodeTree → Actor × NodeTree) (nodes : NodeTree) :
    scene.SamePart (scene.changeProtagonist change nodes).1 := by
  unfold Scene.changeProtagonist
  split
  · exact ⟨rfl, rfl, rfl, rfl, rfl⟩
  · exact ⟨rfl, rfl, rfl, rfl, rfl⟩

namespace Cast.Fills

variable {cast : Cast} {map : SceneMap} {arena : Arena}

/-! ## Numbers and ids -/

theorem ascending (fills : cast.Fills map arena) :
    Roster.Ascending cast.roster := by
  obtain ⟨index, listed⟩ := fills.mainListed
  have numbers := fills.numbers _ listed
  have ordered := map.relatives_ascending index
  rw [← numbers, List.pairwise_map] at ordered
  exact ordered

/-- The main scene is there. -/
theorem mainScene (fills : cast.Fills map arena) :
    ∃ scene, arena.scene? cast.main = some scene ∧
      cast.Includes map cast.main scene := by
  obtain ⟨index, listed⟩ := fills.mainListed
  obtain ⟨scene, found⟩ := Option.isSome_iff_exists.mp (fills.present _ listed)
  exact ⟨scene, found, fills.includes _ _ found⟩

/-- The scenes of an arena are those of the roster. -/
theorem scene?_isSome_iff (fills : cast.Fills map arena) (id : SceneId) :
    (arena.scene? id).isSome ↔ id ∈ cast.roster.map Prod.snd := by
  rw [List.mem_map]
  constructor
  · intro present
    obtain ⟨scene, found⟩ := Option.isSome_iff_exists.mp present
    exact ⟨(scene.index, id), (fills.includes _ _ found).listed, rfl⟩
  · rintro ⟨member, listed, rfl⟩
    exact fills.present member listed

/-- Each id of the roster has the scene of its number. -/
theorem sceneOf (fills : cast.Fills map arena)
    {index : SceneIndex} {id : SceneId} (listed : (index, id) ∈ cast.roster) :
    ∃ scene, arena.scene? id = some scene ∧ scene.index = index := by
  obtain ⟨scene, found⟩ := Option.isSome_iff_exists.mp (fills.present _ listed)
  have own := (fills.includes _ _ found).listed
  have same := Roster.eq_of_id fills.distinct own listed rfl
  exact ⟨scene, found, (Prod.mk.inj same).1⟩

/-- Scenes with the same number are the same. -/
theorem eq_of_index (fills : cast.Fills map arena)
    {left right : SceneId} {leftScene rightScene : Scene}
    (leftFound : arena.scene? left = some leftScene)
    (rightFound : arena.scene? right = some rightScene)
    (sameIndex : leftScene.index = rightScene.index) :
    left = right := by
  have same :=
    Roster.eq_of_number fills.ascending
      (fills.includes _ _ leftFound).listed
      (fills.includes _ _ rightFound).listed sameIndex
  exact (Prod.mk.inj same).2

/-- A scene that is not on an island is alone. -/
theorem id_eq_main_of_isometric (fills : cast.Fills map arena)
    {id : SceneId} {scene : Scene} (found : arena.scene? id = some scene)
    (isometric : scene.kind.isIsland = false)
    {member : SceneIndex × SceneId} (listed : member ∈ cast.roster) :
    member.2 = id := by
  have included := fills.includes _ _ found
  have related : member.1 ∈ map.relatives scene.index := by
    rw [← fills.numbers _ included.listed]
    exact List.mem_map_of_mem listed
  have sameNumber :=
    SceneMap.eq_of_mem_relatives_isometric included.kind isometric related
  have same :=
    Roster.eq_of_number fills.ascending listed included.listed sameNumber
  rw [same]

/-! ## The main scene -/

/-- The main scene lists all the others. -/
theorem sides_main (fills : cast.Fills map arena)
    {scene : Scene} (found : arena.scene? cast.main = some scene) :
    scene.sides = Roster.without cast.main cast.roster := by
  have linked := (fills.includes _ _ found).link
  rw [Cast.link_main] at linked
  cases island : scene.kind.isIsland with
  | true =>
      simp [Scene.sides, linked, Attach.mainLink, island]
  | false =>
      have alone : Roster.without cast.main cast.roster = [] := by
        rw [List.eq_nil_iff_forall_not_mem]
        intro member present
        obtain ⟨listed, apart⟩ := Roster.mem_without.mp present
        exact apart (fills.id_eq_main_of_isometric found island listed)
      simp [Scene.sides, linked, Attach.mainLink, island, alone]

/-- The numbers of the side scenes are those that the map gives. -/
theorem sides_numbers (fills : cast.Fills map arena)
    {scene : Scene} (found : arena.scene? cast.main = some scene) :
    scene.sides.map Prod.fst = map.sideScenes scene.index := by
  have included := fills.includes _ _ found
  rw [fills.sides_main found, SceneMap.sideScenes_eq,
    ← fills.numbers _ included.listed, List.filter_map, Roster.without]
  congr 1
  apply List.filter_congr
  intro member listed
  have sameness : member.2 = cast.main ↔ member.1 = scene.index := by
    constructor
    · intro sameId
      rw [Roster.eq_of_id fills.distinct listed included.listed sameId]
    · intro sameNumber
      rw [Roster.eq_of_number fills.ascending listed included.listed
        sameNumber]
  rw [Bool.eq_iff_iff]
  simpa using not_congr sameness

/-- The main scene leads to the side scenes by their numbers. -/
theorem side?_main (fills : cast.Fills map arena)
    {scene : Scene} (found : arena.scene? cast.main = some scene)
    (index : SceneIndex) (id : SceneId) :
    scene.side? index = some id ↔
      (index, id) ∈ cast.roster ∧ id ≠ cast.main := by
  rw [Scene.side?, fills.sides_main found,
    Roster.lookup_eq_some_iff (Roster.ascending_without fills.ascending _),
    Roster.mem_without]

theorem mainOf_main (fills : cast.Fills map arena) :
    arena.mainOf cast.main = cast.main := by
  obtain ⟨scene, found, included⟩ := fills.mainScene
  have linked := included.link
  rw [Cast.link_main, Attach.mainLink] at linked
  have parentless : scene.parent? = none := by
    cases island : scene.kind.isIsland <;> simp [Scene.parent?, linked, island]
  simp [Arena.mainOf, found, parentless]

theorem familyOf_main (fills : cast.Fills map arena) :
    arena.familyOf cast.main =
      cast.main ::
        (Roster.without cast.main cast.roster).map Prod.snd := by
  obtain ⟨scene, found, included⟩ := fills.mainScene
  simp only [Arena.familyOf, fills.mainOf_main, found, fills.sides_main found]

/-- The family of the main scene is the whole arena. -/
theorem mem_familyOf_main (fills : cast.Fills map arena) (id : SceneId) :
    id ∈ arena.familyOf cast.main ↔ (arena.scene? id).isSome := by
  rw [fills.familyOf_main, fills.scene?_isSome_iff, List.mem_cons]
  constructor
  · rintro (rfl | side)
    · obtain ⟨index, listed⟩ := fills.mainListed
      exact List.mem_map_of_mem listed
    · obtain ⟨member, present, rfl⟩ := List.mem_map.mp side
      exact List.mem_map_of_mem (Roster.mem_without.mp present).1
  · intro present
    obtain ⟨member, listed, rfl⟩ := List.mem_map.mp present
    by_cases own : member.2 = cast.main
    · exact .inl own
    · exact .inr (List.mem_map_of_mem (Roster.mem_without.mpr ⟨listed, own⟩))

end Cast.Fills

end Stagecraft
