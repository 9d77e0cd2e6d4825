import Stagecraft.Proofs.Loading.Unison
import Stagecraft.Proofs.Script.Unseen
import Stagecraft.Stage.Basic

/-!
# Scenes without nodes

What a scene is apart from its nodes. To forget the nodes of all scenes of an arena
and then to change the arena is to change it and then to forget them, for every
operation of the stage. What is left of an attached family does not depend on its
models.
-/

namespace Stagecraft

/-! ## Stores -/

namespace Slots

universe u v

variable {α : Type u} {β : Type v}

def map (view : α → β) (slots : Slots α) : Slots β :=
  ⟨slots.cells.map (Option.map view)⟩

variable (view : α → β) (slots : Slots α)

theorem get?_map (id : Nat) :
    (slots.map view).get? id = (slots.get? id).map view := by
  simp only [get?, map, Array.getElem?_map]
  cases slots.cells[id]? with
  | none => rfl
  | some cell => rfl

@[simp]
theorem nextId_map : (slots.map view).nextId = slots.nextId := by
  simp [nextId, map]

theorem map_insert (entry : α) :
    (slots.insert entry).map view = (slots.map view).insert (view entry) := by
  simp [map, insert]

theorem map_erase (id : Nat) :
    (slots.erase id).map view = (slots.map view).erase id := by
  simp only [map, erase, mk.injEq]
  apply Array.ext_getElem?
  intro position
  simp only [Array.getElem?_map, Array.getElem?_setIfInBounds, Array.size_map]
  split
  · split <;> rfl
  · rfl

theorem map_modify {change : α → α} {changed : β → β}
    (together : ∀ entry, view (change entry) = changed (view entry))
    (id : Nat) :
    (slots.modify id change).map view = (slots.map view).modify id changed := by
  simp only [map, modify, mk.injEq]
  apply Array.ext_getElem?
  intro position
  simp only [Array.getElem?_map, Array.getElem?_modify]
  cases slots.cells[position]? with
  | none => split <;> rfl
  | some cell =>
      split
      · cases cell with
        | none => rfl
        | some entry => simp [together]
      · rfl

theorem entries_map :
    (slots.map view).entries = slots.entries.map (Prod.map id view) := by
  simp only [entries, map, Array.toList_map, List.zipIdx_map,
    List.filterMap_map, List.map_filterMap]
  congr 1
  funext entry
  obtain ⟨cell, id⟩ := entry
  cases cell <;> rfl

end Slots

/-! ## Scenes -/

namespace Scene

def unseen (scene : Scene) : Scene :=
  { scene with
    root := 0
    node := 0
    actors := scene.actors.map Actor.unseen
    zones := scene.zones.map Zone.unseen
    points := scene.points.map Point.unseen }

variable (scene : Scene)

@[simp]
theorem index_unseen : scene.unseen.index = scene.index :=
  rfl

@[simp]
theorem sides_unseen : scene.unseen.sides = scene.sides :=
  rfl

@[simp]
theorem parent?_unseen : scene.unseen.parent? = scene.parent? :=
  rfl

theorem protagonist?_unseen :
    scene.unseen.protagonist? = scene.protagonist?.map Actor.unseen :=
  List.getElem?_map

/-- Whether a change of scenes does not depend on nodes. -/
def Sightless (change : Scene → NodeTree → Scene × NodeTree) : Prop :=
  ∀ scene tree,
    (change scene tree).1.unseen = (change scene.unseen NodeTree.empty).1

theorem sightless_changeProtagonist
    {change : Actor → NodeTree → Actor × NodeTree}
    (blind : ∀ actor tree other,
      change actor.unseen other = ((change actor tree).1.unseen, other)) :
    Sightless fun scene => scene.changeProtagonist change := by
  intro scene tree
  cases listed : scene.actors with
  | nil => simp only [changeProtagonist, unseen, listed, List.map_nil]
  | cons actor others =>
      simp only [changeProtagonist, unseen, listed, List.map_cons]
      rw [blind actor tree]

theorem sightless_kill :
    Sightless fun scene => scene.changeProtagonist Actor.kill :=
  sightless_changeProtagonist Actor.kill_unseen

theorem sightless_revive :
    Sightless fun scene => scene.changeProtagonist Actor.revive :=
  sightless_changeProtagonist Actor.revive_unseen

theorem resetActors_unseen (actors : List Actor) (tree other : NodeTree) :
    resetActors (actors.map Actor.unseen) other =
      ((resetActors actors tree).1.map Actor.unseen, other) := by
  induction actors generalizing tree with
  | nil => rfl
  | cons actor rest inductionHypothesis =>
      simp only [List.map_cons, resetActors]
      have first : actor.unseen.reset other =
          ((actor.reset tree).1.unseen, other) := rfl
      rw [first, inductionHypothesis (actor.reset tree).2]

theorem sightless_resetScene : Sightless Stage.resetScene := by
  intro scene tree
  have zones : (scene.zones.map Zone.reset).map Zone.unseen =
      (scene.zones.map Zone.unseen).map Zone.reset := by
    rw [List.map_map, List.map_map]
    rfl
  simp only [Stage.resetScene, unseen, zones]
  rw [resetActors_unseen scene.actors tree]

/-! ### Ticks -/

theorem trackZones_unseen (zones : List Zone) (position : Vec3) :
    trackZones (zones.map Zone.unseen) position =
      (trackZones zones position).map Zone.unseen := by
  have together (zone : Zone) :
      zone.unseen.track position = (zone.track position).unseen := by
    unfold Zone.track Zone.enter Zone.leave
    rw [show zone.unseen.contains position = zone.contains position from rfl,
      show zone.unseen.state = zone.state from rfl]
    split <;> split <;> rfl
  simp only [trackZones, List.map_map, Function.comp_def, together]

theorem zoneEvents_unseen (zones : List Zone) (position : Vec3) :
    Stage.zoneEvents (zones.map Zone.unseen)
        (entriesAt (zones.map Zone.unseen) position) =
      Stage.zoneEvents zones (entriesAt zones position) := by
  have entries : entriesAt (zones.map Zone.unseen) position =
      entriesAt zones position := by
    simp only [entriesAt, List.zipIdx_map, List.filterMap_map]
    rfl
  unfold Stage.zoneEvents
  rw [entries]
  congr 1
  funext index
  rw [List.getElem?_map, Option.map_map]
  rfl

theorem trackProtagonist_unseen :
    Stage.trackProtagonist scene.unseen =
      ((Stage.trackProtagonist scene).1.map Zone.unseen,
        (Stage.trackProtagonist scene).2) := by
  unfold Stage.trackProtagonist
  rw [protagonist?_unseen]
  cases scene.protagonist? with
  | none => rfl
  | some actor =>
      rw [Option.map_some]
      have same : actor.unseen.alive = actor.alive := rfl
      rw [Option.filter, Option.filter, same]
      cases actor.alive with
      | false => rfl
      | true =>
          exact Prod.ext (trackZones_unseen scene.zones actor.position)
            (zoneEvents_unseen scene.zones actor.position)

theorem playOf_unseen (game : GameBank) (nodes : NodeTree) :
    (Stage.playOf scene game nodes).unseen =
      Stage.playOf scene.unseen game NodeTree.empty := by
  unfold Stage.playOf
  rw [trackProtagonist_unseen]
  rfl

theorem playedScene_unseen (play : Play) :
    (Stage.playedScene play scene).unseen =
      Stage.playedScene play.unseen scene.unseen :=
  rfl

theorem tickNotes_unseen (play : Play) :
    Stage.tickNotes play.unseen scene.unseen = Stage.tickNotes play scene := by
  unfold Stage.tickNotes
  rw [trackProtagonist_unseen]
  rfl

end Scene

/-! ## Arenas -/

namespace Arena

/-- An arena whose scenes have no nodes. -/
def unseen (arena : Arena) : Arena :=
  { arena with scenes := arena.scenes.map Scene.unseen }

variable (arena : Arena)

theorem scene?_unseen (id : SceneId) :
    arena.unseen.scene? id = (arena.scene? id).map Scene.unseen :=
  arena.scenes.get?_map Scene.unseen id

@[simp]
theorem nextScene_unseen : arena.unseen.nextScene = arena.nextScene :=
  arena.scenes.nextId_map Scene.unseen

theorem addScene_unseen (scene : Scene) :
    (arena.addScene scene).unseen = arena.unseen.addScene scene.unseen := by
  simp only [addScene, unseen, Slots.map_insert]

theorem addScenery_unseen (scenery : Scenery) :
    (arena.addScenery scenery).unseen = arena.unseen.addScenery scenery :=
  rfl

theorem modifyScene_unseen {change changed : Scene → Scene}
    (together : ∀ scene, (change scene).unseen = changed scene.unseen)
    (id : SceneId) :
    (arena.modifyScene id change).unseen =
      arena.unseen.modifyScene id changed := by
  simp only [modifyScene, unseen,
    Slots.map_modify Scene.unseen arena.scenes together]

theorem setScene_unseen (scene : Scene) (id : SceneId) :
    (arena.modifyScene id fun _ => scene).unseen =
      arena.unseen.modifyScene id fun _ => scene.unseen :=
  @modifyScene_unseen arena (fun _ => scene) (fun _ => scene.unseen)
    (fun _ => rfl) id

theorem mainOf_unseen (id : SceneId) :
    arena.unseen.mainOf id = arena.mainOf id := by
  unfold mainOf
  rw [scene?_unseen]
  cases arena.scene? id <;> rfl

theorem familyOf_unseen (id : SceneId) :
    arena.unseen.familyOf id = arena.familyOf id := by
  simp only [familyOf, mainOf_unseen, scene?_unseen]
  cases arena.scene? (arena.mainOf id) <;> rfl

theorem promote_unseen (outgoing incoming : SceneId) :
    (arena.promote outgoing incoming).unseen =
      arena.unseen.promote outgoing incoming := by
  have together (link : Link) (scene : Scene) :
      (scene.withLink link).unseen = scene.unseen.withLink link := rfl
  have demoted (link : Link) (sides : List (SceneIndex × SceneId)) :
      (sides.foldl (fun arena side =>
          arena.modifyScene side.2 (Scene.withLink link)) arena).unseen =
        sides.foldl (fun arena side =>
          arena.modifyScene side.2 (Scene.withLink link)) arena.unseen := by
    induction sides generalizing arena with
    | nil => rfl
    | cons side rest inductionHypothesis =>
        rw [List.foldl_cons, inductionHypothesis,
          arena.modifyScene_unseen (together link), List.foldl_cons]
  unfold promote
  rw [scene?_unseen]
  cases arena.scene? outgoing with
  | none => rfl
  | some scene =>
      change _ = if scene.sides.any fun side => side.2 == incoming then _ else _
      dsimp only
      split
      · rw [modifyScene_unseen _ (together _), demoted]
        rfl
      · rfl

theorem isUsed_unseen (scenery : SceneryId) :
    arena.unseen.isUsed scenery = arena.isUsed scenery := by
  simp only [isUsed, unseen, Slots.entries_map, List.any_map]
  rfl

theorem removeFamily_unseen (id : SceneId) (nodes other : NodeTree) :
    (arena.removeFamily id nodes).1.unseen =
      (arena.unseen.removeFamily id other).1 := by
  have erased (ids : List SceneId) :
      (Arena.mk (ids.foldl Slots.erase arena.scenes) arena.sceneries).unseen =
        ⟨ids.foldl Slots.erase arena.unseen.scenes, arena.sceneries⟩ := by
    induction ids generalizing arena with
    | nil => rfl
    | cons first rest inductionHypothesis =>
        have tail :=
          inductionHypothesis ⟨arena.scenes.erase first, arena.sceneries⟩
        rw [List.foldl_cons, tail, List.foldl_cons]
        simp only [unseen, Slots.map_erase]
  have pruned (arena : Arena) :
      Arena.unseen { arena with
          sceneries :=
            arena.sceneries.filter fun scenery _ => arena.isUsed scenery } =
        { arena.unseen with
          sceneries :=
            arena.unseen.sceneries.filter fun scenery _ =>
              arena.unseen.isUsed scenery } := by
    simp only [isUsed_unseen]
    rfl
  have taken (id : SceneId) (nodes : NodeTree) (arena : Arena) :
      (arena.removeFamily id nodes).1 =
        let left : Arena :=
          ⟨(arena.familyOf id).foldl Slots.erase arena.scenes, arena.sceneries⟩
        { left with
          sceneries :=
            left.sceneries.filter fun scenery _ => left.isUsed scenery } := by
    dsimp only [removeFamily]
    split <;> rfl
  rw [taken, taken]
  dsimp only
  rw [familyOf_unseen]
  refine (pruned ⟨(arena.familyOf id).foldl Slots.erase arena.scenes,
    arena.sceneries⟩).trans ?_
  rw [erased]
  rfl

end Arena

/-! ## Attached families -/

def LoadedScene.bare (loaded : LoadedScene) (scenery : SceneryId)
    (link : Link) : Scene where
  index := loaded.index
  kind := loaded.kind
  island := loaded.island
  ambience := loaded.ambience
  environment := loaded.environment
  scenery := scenery
  root := 0
  node := 0
  actors := loaded.actors.map fun actor =>
    Actor.ofPrograms actor.asset.data none actor.life actor.move
  zones := loaded.zones.map (Zone.ofData · none)
  points := loaded.points.map (Point.ofData · none)
  cube := CubeBank.blank loaded.cubeSize
  cubeSize := loaded.cubeSize
  gameReferences := loaded.gameReferences
  link := link
  active := false

theorem LoadedScene.bare_unseen (loaded : LoadedScene) (scenery : SceneryId)
    (link : Link) :
    loaded.unseen.bare scenery link = loaded.bare scenery link := by
  simp only [bare, unseen, List.map_map]
  rfl

namespace Attach

theorem actors_unseen (parent : NodeId) (loaded : List LoadedActor)
    (position : Nat) (nodes : NodeTree) :
    (actors parent position loaded nodes).1.map Actor.unseen =
      loaded.map fun actor =>
        Actor.ofPrograms actor.asset.data none actor.life actor.move := by
  induction loaded generalizing position nodes with
  | nil => rfl
  | cons first rest inductionHypothesis =>
      simp only [actors, List.map_cons, inductionHypothesis]
      rfl

theorem zones_unseen (markers : Bool) (parent : NodeId)
    (loaded : List ZoneData) (position : Nat) (nodes : NodeTree) :
    (zones markers parent position loaded nodes).1.map Zone.unseen =
      loaded.map (Zone.ofData · none) := by
  induction loaded generalizing position nodes with
  | nil => rfl
  | cons first rest inductionHypothesis =>
      simp only [zones, List.map_cons, inductionHypothesis]
      rfl

theorem points_unseen (markers : Bool) (parent : NodeId)
    (loaded : List PointData) (position : Nat) (nodes : NodeTree) :
    (points markers parent position loaded nodes).1.map Point.unseen =
      loaded.map (Point.ofData · none) := by
  induction loaded generalizing position nodes with
  | nil => rfl
  | cons first rest inductionHypothesis =>
      simp only [points, List.map_cons, inductionHypothesis]
      rfl

/-- Apart from its nodes, an attached scene is as its content says. -/
theorem scene_unseen (markers : Bool) (scenery : SceneryId) (root : NodeId)
    (link : Link) (loaded : LoadedScene) (nodes : NodeTree) :
    (scene markers scenery root link loaded nodes).1.unseen =
      loaded.bare scenery link := by
  simp only [scene, Scene.unseen, actors_unseen, zones_unseen, points_unseen,
    LoadedScene.bare]

section Families

variable {arena otherArena : Arena}

theorem sides_unseen (main : SceneId) (scenery : SceneryId)
    (markers otherMarkers : Bool) (root otherRoot : NodeId)
    {loaded others : List LoadedScene}
    (same : loaded.map LoadedScene.unseen = others.map LoadedScene.unseen)
    (sameArena : arena.unseen = otherArena.unseen)
    (nodes otherNodes : NodeTree) :
    let placed := sides markers main scenery root loaded arena nodes
    let otherPlaced :=
      sides otherMarkers main scenery otherRoot others otherArena otherNodes
    placed.1 = otherPlaced.1 ∧
      placed.2.1.unseen = otherPlaced.2.1.unseen := by
  induction loaded generalizing others arena otherArena nodes otherNodes with
  | nil =>
      obtain rfl : others = [] := List.map_eq_nil_iff.mp same.symm
      exact ⟨rfl, sameArena⟩
  | cons first rest inductionHypothesis =>
      obtain ⟨otherFirst, otherRest, rfl, sameFirst, sameRest⟩ :=
        List.map_eq_cons_iff.mp same.symm
      have placed :
          (scene markers scenery root (.side main) first nodes).1.unseen =
            (scene otherMarkers scenery otherRoot (.side main) otherFirst
              otherNodes).1.unseen := by
        rw [scene_unseen, scene_unseen, ← LoadedScene.bare_unseen, ← sameFirst,
          LoadedScene.bare_unseen]
      have index : first.index = otherFirst.index :=
        (congrArg LoadedScene.index sameFirst.symm :)
      have added : arena.nextScene = otherArena.nextScene := by
        rw [← arena.nextScene_unseen, sameArena, otherArena.nextScene_unseen]
      simp only [sides]
      generalize scene markers scenery root (.side main) first nodes = side
        at placed ⊢
      generalize scene otherMarkers scenery otherRoot (.side main) otherFirst
        otherNodes = otherSide at placed ⊢
      obtain ⟨awake, nodesAwake⟩ := side
      obtain ⟨otherAwake, otherNodesAwake⟩ := otherSide
      have sleeping :
          (awake.changeProtagonist Actor.kill nodesAwake).1.unseen =
            (otherAwake.changeProtagonist Actor.kill otherNodesAwake).1.unseen := by
        rw [Scene.sightless_kill, placed, ← Scene.sightless_kill]
      have sameAdded :
          (arena.addScene
              (awake.changeProtagonist Actor.kill nodesAwake).1).unseen =
            (otherArena.addScene
              (otherAwake.changeProtagonist Actor.kill
                otherNodesAwake).1).unseen := by
        rw [Arena.addScene_unseen, Arena.addScene_unseen, sameArena, sleeping]
      obtain ⟨sameOthers, sameAfter⟩ :=
        inductionHypothesis sameRest.symm sameAdded _ _
      exact ⟨by rw [index, added, sameOthers], sameAfter⟩

/-- Families that differ at most in models fill an arena with the same scenes, with
or without markers. -/
theorem family_unseen (markers otherMarkers : Bool)
    {loaded others : LoadedFamily} (same : loaded.unseen = others.unseen)
    (sameArena : arena.unseen = otherArena.unseen)
    (nodes otherNodes : NodeTree) :
    (family markers loaded arena nodes).1.unseen =
      (family otherMarkers others otherArena otherNodes).1.unseen := by
  have sameMain : loaded.main.unseen = others.main.unseen :=
    (congrArg LoadedFamily.main same :)
  have sameSides : loaded.sides.map LoadedScene.unseen =
      others.sides.map LoadedScene.unseen :=
    (congrArg LoadedFamily.sides same :)
  have sameScenery : loaded.scenery = others.scenery :=
    (congrArg LoadedFamily.scenery same :)
  have kind : loaded.main.kind = others.main.kind :=
    (congrArg LoadedScene.kind sameMain :)
  have nextScene : arena.nextScene = otherArena.nextScene := by
    rw [← arena.nextScene_unseen, sameArena, otherArena.nextScene_unseen]
  have nextScenery : arena.nextScenery = otherArena.nextScenery :=
    (congrArg Arena.nextScenery sameArena :)
  have placed (root otherRoot : NodeId) (link : Link)
      (nodes otherNodes : NodeTree) :
      (scene markers otherArena.nextScenery root link loaded.main
          nodes).1.unseen =
        (scene otherMarkers otherArena.nextScenery otherRoot link others.main
          otherNodes).1.unseen := by
    rw [scene_unseen, scene_unseen, ← LoadedScene.bare_unseen, sameMain,
      LoadedScene.bare_unseen]
  have added {scene otherScene : Scene}
      (same : scene.unseen = otherScene.unseen) :
      ((arena.addScenery loaded.scenery).addScene scene).unseen =
        ((otherArena.addScenery others.scenery).addScene otherScene).unseen := by
    rw [Arena.addScene_unseen, Arena.addScenery_unseen, sameArena, sameScenery,
      same, ← Arena.addScenery_unseen, ← Arena.addScene_unseen]
  have linked {list otherList : List (SceneIndex × SceneId)}
      {attached otherAttached : Arena}
      (same : list = otherList ∧ attached.unseen = otherAttached.unseen)
      (main : SceneId) (kind : SceneKind) :
      (attached.modifyScene main
          (Scene.withLink (mainLink kind list))).unseen =
        (otherAttached.modifyScene main
          (Scene.withLink (mainLink kind otherList))).unseen := by
    have together (link : Link) (scene : Scene) :
        (scene.withLink link).unseen = scene.unseen.withLink link := rfl
    rw [Arena.modifyScene_unseen _ (together _),
      Arena.modifyScene_unseen _ (together _), same.1, same.2]
  dsimp only [family]
  rw [kind, nextScene, nextScenery]
  exact linked (sides_unseen _ _ _ _ _ _ sameSides
    (added (placed _ _ _ _ _)) _ _) _ _

end Families

end Attach

end Stagecraft
