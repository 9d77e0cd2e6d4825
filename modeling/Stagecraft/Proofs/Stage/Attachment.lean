import Stagecraft.Proofs.Loading.Family
import Stagecraft.Proofs.Stage.Recast

/-!
# The cast of an attached family

A loaded family that is attached to an empty arena fills it: the main scene under
the next id, the side scenes under the ids after it, in the order of the map.
-/

namespace Stagecraft

namespace Attach

/-- The side scenes of a family under ids from one on. -/
def numbered : SceneId → List LoadedScene → Roster
  | _, [] => []
  | id, loaded :: rest => (loaded.index, id) :: numbered (id + 1) rest

theorem numbered_numbers (first : SceneId) (sides : List LoadedScene) :
    (numbered first sides).map Prod.fst = sides.map LoadedScene.index := by
  induction sides generalizing first with
  | nil => rfl
  | cons side rest inductionHypothesis =>
      simp only [numbered, List.map_cons, inductionHypothesis]

theorem le_of_mem_numbered
    {first : SceneId} {sides : List LoadedScene}
    {member : SceneIndex × SceneId} (listed : member ∈ numbered first sides) :
    first ≤ member.2 := by
  induction sides generalizing first with
  | nil =>
      simp [numbered] at listed
  | cons side rest inductionHypothesis =>
      rcases List.mem_cons.mp listed with rfl | later
      · exact Nat.le_refl first
      · exact Nat.le_of_succ_le (inductionHypothesis later)

theorem distinct_numbered (first : SceneId) (sides : List LoadedScene) :
    Roster.Distinct (numbered first sides) := by
  induction sides generalizing first with
  | nil =>
      exact List.nodup_nil
  | cons side rest inductionHypothesis =>
      refine List.nodup_cons.mpr ⟨fun again => ?_, inductionHypothesis _⟩
      obtain ⟨member, later, same⟩ := List.mem_map.mp again
      have bound := le_of_mem_numbered later
      rw [same] at bound
      exact Nat.not_succ_le_self first bound

/-! ## Scenes -/

/-- Whether a scene is an attached one: where it stands, and that it is not active
yet. -/
structure Stands (loaded : LoadedScene) (link : Link) (scenery : SceneryId)
    (root : NodeId) (scene : Scene) : Prop where
  index : scene.index = loaded.index
  kind : scene.kind = loaded.kind
  link : scene.link = link
  scenery : scene.scenery = scenery
  root : scene.root = root
  asleep : scene.active = false

theorem stands_scene (markers : Bool) (scenery : SceneryId) (root : NodeId)
    (link : Link) (loaded : LoadedScene) (nodes : NodeTree) :
    Stands loaded link scenery root
      (scene markers scenery root link loaded nodes).1 :=
  ⟨rfl, rfl, rfl, rfl, rfl, rfl⟩

theorem active_changeProtagonist (scene : Scene)
    (change : Actor → NodeTree → Actor × NodeTree) (nodes : NodeTree) :
    (scene.changeProtagonist change nodes).1.active = scene.active := by
  unfold Scene.changeProtagonist
  split
  · rfl
  · rfl

theorem Stands.changeProtagonist
    {loaded : LoadedScene} {link : Link} {scenery : SceneryId}
    {root : NodeId} {scene : Scene}
    (stands : Stands loaded link scenery root scene)
    (change : Actor → NodeTree → Actor × NodeTree) (nodes : NodeTree) :
    Stands loaded link scenery root
      (scene.changeProtagonist change nodes).1 := by
  have same := scene.samePart_changeProtagonist change nodes
  exact ⟨same.index.trans stands.index, same.kind.trans stands.kind,
    same.link.trans stands.link, same.scenery.trans stands.scenery,
    same.root.trans stands.root,
    (active_changeProtagonist scene change nodes).trans stands.asleep⟩

/-! ## Side scenes -/

/-- What becomes of an arena to which side scenes are added. -/
structure AddsSides (main : SceneId) (scenery : SceneryId) (root : NodeId)
    (loaded : List LoadedScene) (before : Arena) (roster : Roster)
    (after : Arena) : Prop where
  numbered : roster = numbered before.nextScene loaded
  sceneries : after.sceneries = before.sceneries
  older : ∀ id, id < before.nextScene → after.scene? id = before.scene? id
  present : ∀ member ∈ roster, (after.scene? member.2).isSome
  newer : ∀ id scene, before.nextScene ≤ id → after.scene? id = some scene →
    (scene.index, id) ∈ roster ∧
      ∃ side ∈ loaded, Stands side (.side main) scenery root scene

/-- A side scene that is added before others. -/
theorem AddsSides.cons
    {main : SceneId} {scenery : SceneryId} {root : NodeId}
    {side : LoadedScene} {rest : List LoadedScene} {scene : Scene}
    {before after : Arena} {roster : Roster}
    (stands : Stands side (.side main) scenery root scene)
    (added : AddsSides main scenery root rest (before.addScene scene) roster
      after) :
    AddsSides main scenery root (side :: rest) before
      ((side.index, before.nextScene) :: roster) after := by
  have first : after.scene? before.nextScene = some scene := by
    rw [added.older _ (by simp), Arena.scene?_addScene, if_pos rfl]
  refine ⟨?numbered, added.sceneries, ?older, ?present, ?newer⟩
  case numbered =>
    rw [Attach.numbered, added.numbered, Arena.nextScene_addScene]
  case older =>
    intro id older
    have olderStill : id < (before.addScene scene).nextScene := by
      rw [Arena.nextScene_addScene]
      exact Nat.lt_succ_of_lt older
    rw [added.older id olderStill, Arena.scene?_addScene,
      if_neg (Nat.ne_of_lt older)]
  case present =>
    intro member listed
    rcases List.mem_cons.mp listed with rfl | later
    · rw [first]
      rfl
    · exact added.present member later
  case newer =>
    intro id stood later found
    by_cases own : id = before.nextScene
    · subst own
      rw [first, Option.some.injEq] at found
      subst found
      refine ⟨?_, side, List.mem_cons_self, stands⟩
      rw [stands.index]
      exact List.mem_cons_self
    · have further : (before.addScene scene).nextScene ≤ id := by
        rw [Arena.nextScene_addScene]
        exact Nat.lt_of_le_of_ne later (Ne.symm own)
      obtain ⟨listed, origin, loadedToo, originStands⟩ :=
        added.newer id stood further found
      exact ⟨List.mem_cons_of_mem _ listed, origin,
        List.mem_cons_of_mem _ loadedToo, originStands⟩

theorem addsSides (markers : Bool) (main : SceneId) (scenery : SceneryId)
    (root : NodeId) {loaded : List LoadedScene}
    (ascending : (loaded.map LoadedScene.index).Pairwise (· < ·))
    (arena : Arena) (nodes : NodeTree) :
    AddsSides main scenery root loaded arena
      (sides markers main scenery root loaded arena nodes).1
      (sides markers main scenery root loaded arena nodes).2.1 := by
  induction loaded generalizing arena nodes with
  | nil =>
      refine ⟨rfl, rfl, fun _ _ => rfl, by simp [sides], ?_⟩
      intro id scene later found
      rw [sides, arena.scene?_of_nextScene_le later] at found
      simp at found
  | cons side rest inductionHypothesis =>
      rw [List.map_cons, List.pairwise_cons] at ascending
      obtain ⟨least, restAscending⟩ := ascending
      let placed := scene markers scenery root (.side main) side nodes
      let sleeping := placed.1.changeProtagonist Actor.kill placed.2
      have stands : Stands side (.side main) scenery root sleeping.1 :=
        (stands_scene markers scenery root _ side nodes).changeProtagonist
          Actor.kill placed.2
      have added :=
        inductionHypothesis restAscending (arena.addScene sleeping.1)
          sleeping.2
      let others :=
        sides markers main scenery root rest (arena.addScene sleeping.1)
          sleeping.2
      have roster :
          insertSide side.index arena.nextScene others.1 =
            (side.index, arena.nextScene) :: others.1 := by
        -- The numbers ascend, so the sorted insertion puts the first one in front.
        apply Roster.insertSide_of_lt
        intro member listed
        apply least
        rw [← numbered_numbers (arena.nextScene + 1) rest]
        apply List.mem_map_of_mem
        have numbers := added.numbered
        rw [Arena.nextScene_addScene] at numbers
        exact numbers ▸ listed
      show AddsSides main scenery root (side :: rest) arena
        (insertSide side.index arena.nextScene others.1) others.2.1
      rw [roster]
      exact added.cons stands

/-! ## Families -/

def castOf (loaded : LoadedFamily) (arena : Arena) (nodes : NodeTree) :
    Cast where
  roster :=
    insertSide loaded.main.index arena.nextScene
      (numbered (arena.nextScene + 1) loaded.sides)
  main := arena.nextScene
  scenery := arena.nextScenery
  root := nodes.nextId

theorem castOf_main (loaded : LoadedFamily) (arena : Arena)
    (nodes : NodeTree) :
    (castOf loaded arena nodes).main = arena.nextScene :=
  rfl

section Numbers

variable {map : SceneMap} {target : SceneIndex} {loaded : LoadedFamily}

theorem numbers_fresh
    (fits : loaded.Fits map target) (first : SceneId) :
    ∀ member ∈ numbered first loaded.sides,
      member.1 ≠ loaded.main.index := by
  intro member listed sameNumber
  have side : member.1 ∈ map.sideScenes target := by
    rw [← fits.sidesIndex, ← numbered_numbers first]
    exact List.mem_map_of_mem listed
  rw [SceneMap.sideScenes_eq, List.mem_filter, sameNumber, fits.mainIndex]
    at side
  simp at side

theorem sides_ascending (fits : loaded.Fits map target) :
    (loaded.sides.map LoadedScene.index).Pairwise (· < ·) := by
  rw [fits.sidesIndex, SceneMap.sideScenes_eq]
  exact (map.relatives_ascending target).filter _

theorem numbered_ascending
    (fits : loaded.Fits map target) (first : SceneId) :
    Roster.Ascending (numbered first loaded.sides) := by
  have ordered := sides_ascending fits
  rw [← numbered_numbers first, List.pairwise_map] at ordered
  exact ordered

/-- A family has the numbers of all relatives. -/
theorem roster_numbers
    (fits : loaded.Fits map target) (id first : SceneId) :
    (insertSide loaded.main.index id (numbered first loaded.sides)).map
        Prod.fst =
      map.relatives target := by
  have fresh := numbers_fresh fits first
  have ordered :=
    Roster.ascending_insertSide fresh (numbered_ascending fits first) id
  have antisymmetric :
      Std.Antisymm fun left right : SceneIndex => left < right :=
    ⟨fun _ _ before after => absurd after (UInt32.lt_asymm before)⟩
  have irreflexive :
      Std.Irrefl fun left right : SceneIndex => left < right :=
    ⟨fun _ => UInt32.lt_irrefl _⟩
  refine (List.pairwise_map.mpr ordered).eq_of_mem_iff
    (map.relatives_ascending target) fun number => ?_
  have sameNumbers := (Roster.insertSide_perm fresh id).map Prod.fst
  rw [sameNumbers.mem_iff, List.map_cons, numbered_numbers,
    fits.sidesIndex, fits.mainIndex, List.mem_cons, SceneMap.sideScenes_eq,
    List.mem_filter]
  constructor
  · rintro (rfl | ⟨related, _⟩)
    · exact SceneMap.mem_relatives_self fits.mainKind
    · exact related
  · intro related
    by_cases same : number = target
    · exact .inl same
    · exact .inr ⟨related, by simpa using same⟩

end Numbers

section Family

variable {map : SceneMap} {target : SceneIndex} {loaded : LoadedFamily}
  {arena after : Arena} {nodes : NodeTree} {main : Scene} {roster : Roster}

/-- The scenes of an attached family are its main scene and its side scenes. -/
theorem origin_of_addsSides
    (empty : arena.IsEmpty)
    (added : AddsSides arena.nextScene arena.nextScenery nodes.nextId
      loaded.sides ((arena.addScenery loaded.scenery).addScene main) roster
      after)
    (link : Link) {id : SceneId} {scene : Scene}
    (found :
      (after.modifyScene arena.nextScene (Scene.withLink link)).scene? id =
        some scene) :
    (id = arena.nextScene ∧ scene = main.withLink link) ∨
      (id ≠ arena.nextScene ∧ (scene.index, id) ∈ roster ∧
        ∃ side ∈ loaded.sides,
          Stands side (.side arena.nextScene) arena.nextScenery nodes.nextId
            scene) := by
  have begun (id : SceneId) :
      ((arena.addScenery loaded.scenery).addScene main).scene? id =
        if id = arena.nextScene then some main else none := by
    rw [Arena.scene?_addScene]
    exact congrArg _ (empty.scene id)
  rw [Arena.scene?_modifyScene] at found
  by_cases own : id = arena.nextScene
  · subst own
    rw [if_pos rfl, added.older _ (by simp), begun, if_pos rfl,
      Option.map_some, Option.some.injEq] at found
    exact .inl ⟨rfl, found.symm⟩
  · rw [if_neg own] at found
    by_cases later :
        ((arena.addScenery loaded.scenery).addScene main).nextScene ≤ id
    · exact .inr ⟨own, added.newer id scene later found⟩
    · rw [added.older id (Nat.lt_of_not_le later), begun,
        if_neg own] at found
      simp at found

theorem ids_newer :
    ∀ member ∈ numbered (arena.nextScene + 1) loaded.sides,
      member.2 ≠ arena.nextScene :=
  fun _ listed => Nat.ne_of_gt (le_of_mem_numbered listed)

theorem mem_castOf
    (fits : loaded.Fits map target) (member : SceneIndex × SceneId) :
    member ∈ (castOf loaded arena nodes).roster ↔
      member = (loaded.main.index, arena.nextScene) ∨
        member ∈ numbered (arena.nextScene + 1) loaded.sides :=
  Roster.mem_insertSide (numbers_fresh fits _) member

/-- Without its main scene the cast has the side scenes in their order. -/
theorem without_castOf (fits : loaded.Fits map target) :
    Roster.without arena.nextScene (castOf loaded arena nodes).roster =
      numbered (arena.nextScene + 1) loaded.sides := by
  have ordered :=
    Roster.ascending_insertSide (numbers_fresh fits (arena.nextScene + 1))
      (numbered_ascending fits _) arena.nextScene
  have lists (member : SceneIndex × SceneId) :
      member ∈ (castOf loaded arena nodes).roster ↔
        member = (loaded.main.index, arena.nextScene) ∨
          member ∈ numbered (arena.nextScene + 1) loaded.sides :=
    mem_castOf fits member
  refine Roster.eq_of_ascending (Roster.ascending_without ordered _)
    (numbered_ascending fits _) fun member => ?_
  rw [Roster.mem_without, lists]
  constructor
  · rintro ⟨rfl | side, apart⟩
    · exact absurd rfl apart
    · exact side
  · intro listed
    exact ⟨.inr listed, ids_newer member listed⟩

theorem includes_main
    (fits : loaded.Fits map target)
    (stands : Stands loaded.main (mainLink loaded.main.kind [])
      arena.nextScenery nodes.nextId main) :
    (castOf loaded arena nodes).Includes map arena.nextScene
      (main.withLink (mainLink loaded.main.kind
        (numbered (arena.nextScene + 1) loaded.sides))) := by
  refine ⟨(mem_castOf fits _).mpr (.inl ?listed), ?kind, ?link,
    stands.scenery, stands.root⟩
  case listed =>
    simp [Scene.withLink, stands.index]
  case kind =>
    simp [Scene.withLink, stands.index, stands.kind, fits.mainIndex,
      fits.mainKind]
  case link =>
    refine Eq.trans ?_
      ((castOf loaded arena nodes).link_main main.kind).symm
    rw [stands.kind]
    exact congrArg (mainLink loaded.main.kind) (without_castOf fits).symm

theorem includes_side
    (fits : loaded.Fits map target) {side : LoadedScene}
    (isSide : side ∈ loaded.sides) {scene : Scene}
    (stands : Stands side (.side arena.nextScene) arena.nextScenery
      nodes.nextId scene)
    {id : SceneId} (apart : id ≠ arena.nextScene)
    (listed :
      (scene.index, id) ∈ numbered (arena.nextScene + 1) loaded.sides) :
    (castOf loaded arena nodes).Includes map id scene := by
  refine ⟨(mem_castOf fits _).mpr (.inr listed), ?kind, ?link,
    stands.scenery, stands.root⟩
  case kind =>
    rw [stands.index, stands.kind]
    exact fits.sidesKind side isSide
  case link =>
    exact stands.link.trans
      ((castOf loaded arena nodes).link_of_ne apart scene.kind).symm

theorem fills_of_addsSides
    (fits : loaded.Fits map target) (empty : arena.IsEmpty)
    (stands : Stands loaded.main (mainLink loaded.main.kind [])
      arena.nextScenery nodes.nextId main)
    (added : AddsSides arena.nextScene arena.nextScenery nodes.nextId
      loaded.sides ((arena.addScenery loaded.scenery).addScene main) roster
      after) :
    (castOf loaded arena nodes).Fills map
      (after.modifyScene arena.nextScene
        (Scene.withLink (mainLink loaded.main.kind roster))) := by
  have numbers : roster = numbered (arena.nextScene + 1) loaded.sides := by
    rw [added.numbered]
    simp
  subst numbers
  have fresh := numbers_fresh fits (arena.nextScene + 1)
  -- The main scene learns of its sides last, when all of them have their numbers.
  refine ⟨⟨loaded.main.index, (mem_castOf fits _).mpr (.inl rfl)⟩, ?numbers,
    Roster.distinct_insertSide fresh ids_newer (distinct_numbered _ _),
    ?present, ?includes, ?scenery⟩
  case numbers =>
    intro member listed
    have all := roster_numbers fits arena.nextScene (arena.nextScene + 1)
    have related : member.1 ∈ map.relatives target := by
      rw [← all]
      exact List.mem_map_of_mem listed
    rw [SceneMap.relatives_eq_of_mem fits.mainKind related]
    exact all
  case present =>
    intro member listed
    rw [Arena.isSome_scene?_modifyScene]
    rcases (mem_castOf fits member).mp listed with rfl | side
    · rw [added.older _ (by simp), Arena.scene?_addScene]
      simp
    · exact added.present member side
  case includes =>
    intro id scene found
    rcases origin_of_addsSides empty added _ found with
      ⟨rfl, rfl⟩ | ⟨apart, listed, side, isSide, sideStands⟩
    · exact includes_main fits stands
    · exact includes_side fits isSide sideStands apart listed
  case scenery =>
    intro id
    have sceneries :
        (after.modifyScene arena.nextScene
          (Scene.withLink (mainLink loaded.main.kind
            (numbered (arena.nextScene + 1) loaded.sides)))).scenery? id =
              (arena.addScenery loaded.scenery).scenery? id :=
      congrArg (fun sceneries => sceneries.get? id) added.sceneries
    rw [sceneries, Arena.scenery?_addScenery, empty.scenery]
    by_cases own : id = arena.nextScenery
    · simp [own, castOf]
    · simp [own, castOf]

/-- A family that the map has fills the empty arena to which it is attached. -/
theorem fills_family
    (fits : loaded.Fits map target) (markers : Bool)
    (empty : arena.IsEmpty) (nodes : NodeTree) :
    (castOf loaded arena nodes).Fills map
      (family markers loaded arena nodes).1 :=
  fills_of_addsSides fits empty
    (stands_scene markers _ _ _ loaded.main _)
    (addsSides markers _ _ _ (sides_ascending fits) _ _)

/-- No scene of an attached family is active yet. -/
theorem asleep_family
    (fits : loaded.Fits map target) (markers : Bool)
    (empty : arena.IsEmpty) (nodes : NodeTree) {id : SceneId} {scene : Scene}
    (found :
      (family markers loaded arena nodes).1.scene? id = some scene) :
    scene.active = false := by
  have added := addsSides markers arena.nextScene arena.nextScenery
    nodes.nextId (sides_ascending fits)
  rcases origin_of_addsSides empty (added _ _) _ found with
    ⟨_, rfl⟩ | ⟨_, _, side, _, sideStands⟩
  · rfl
  · exact sideStands.asleep

end Family

end Attach

end Stagecraft
