import Stagecraft.Proofs.Scene.Staging
import Stagecraft.Stage.Basic

/-!
# Placing a scene

A scene that is attached gets consecutive nodes: one for itself below the root of
its family, and below that one for each actor with a visual and, if markers are
wanted, for each zone and point. Its actors stand where their nodes stand.
-/

namespace Stagecraft

/-! ## Bodies -/

/-- The nodes of the parts of a scene: of its actors, its zones and its points. -/
def Scene.limbs (scene : Scene) : List NodeId :=
  nodesOf scene.actors ++ scene.zones.filterMap Zone.node ++
    scene.points.filterMap Point.node

/-- All nodes of a scene: its own, then those of its parts. -/
def Scene.body (scene : Scene) : List NodeId := scene.node :: scene.limbs

/-- Whether the nodes of a scene hang as they should, and those of its actors show
their actors. -/
structure NodeTree.Carries (root : NodeId) (tree : NodeTree)
    (scene : Scene) : Prop where
  family : scene.root = root
  node : tree.Under root scene.node
  limbs : ∀ id ∈ scene.limbs, tree.Under scene.node id
  actors : ∀ actor ∈ scene.actors, tree.Displays actor

theorem NodeTree.Carries.keeps
    {root : NodeId} {before after : NodeTree} {scene : Scene}
    (carries : before.Carries root scene) (keeps : before.Keeps after) :
    after.Carries root scene :=
  ⟨carries.family, carries.node.keeps keeps,
    fun id limb => (carries.limbs id limb).keeps keeps,
    fun actor member => (carries.actors actor member).keeps keeps⟩

/-- Whether a scene has just the nodes that its content asks for. -/
structure Scene.Embodies (markers : Bool) (loaded : LoadedScene)
    (scene : Scene) : Prop where
  index : scene.index = loaded.index
  actors : scene.actors.map (fun actor => actor.node.isSome) =
    loaded.actors.map fun actor => actor.asset.visual.isSome
  zones : scene.zones.map (fun zone => zone.node.isSome) =
    loaded.zones.map fun _ => markers
  points : scene.points.map (fun point => point.node.isSome) =
    loaded.points.map fun _ => markers

/-! ## Nodes below one parent -/

/-- Whether a tree has new nodes of consecutive ids below one of its nodes. -/
structure NodeTree.Adds (parent : Nat) (ids : List NodeId)
    (before after : NodeTree) : Prop where
  nextId : after.nextId = before.nextId + ids.length
  consecutive : ids = List.range' before.nextId ids.length
  grows : before.Extends after
  under : ∀ id ∈ ids, after.Under parent id
  rooted : ∀ floor root : Nat, before.Rooted floor root → root ≤ parent →
    parent < before.nextId → after.Rooted floor root

namespace NodeTree

theorem Adds.nil (parent : NodeId) (tree : NodeTree) :
    Adds parent [] tree tree :=
  ⟨rfl, rfl, .refl tree, by simp, fun _ _ rooted _ _ => rooted⟩

theorem Adds.append
    {parent : NodeId} {ids others : List NodeId}
    {first second third : NodeTree} (adds : Adds parent ids first second)
    (addsAgain : Adds parent others second third) :
    Adds parent (ids ++ others) first third := by
  refine ⟨?_, ?_, adds.grows.trans addsAgain.grows, ?_, ?_⟩
  · rw [addsAgain.nextId, adds.nextId, List.length_append, Nat.add_assoc]
  · calc
      ids ++ others
        = List.range' first.nextId ids.length ++
            List.range' second.nextId others.length := by
          rw [← adds.consecutive, ← addsAgain.consecutive]
      _ = List.range' first.nextId (ids ++ others).length := by
          rw [adds.nextId, List.range'_append_1, List.length_append]
  · intro id member
    rcases List.mem_append.mp member with early | late
    · exact (adds.under id early).extends addsAgain.grows
    · exact addsAgain.under id late
  · intro floor root rooted from_ before
    have later : parent < second.nextId :=
      Nat.lt_of_lt_of_le before adds.grows.nextId
    exact addsAgain.rooted floor root
      (adds.rooted floor root rooted from_ before) from_ later

theorem adds_addBelow
    {tree : NodeTree} {parent : NodeId} (live : (tree.node? parent).isSome)
    (name : String) (position : Vec3) :
    Adds parent [tree.nextId] tree (tree.addBelow parent name position) := by
  obtain ⟨above, found⟩ := Option.isSome_iff_exists.mp live
  refine ⟨tree.nextId_addBelow parent name position, rfl,
    extends_addBelow live name position, ?_, ?_⟩
  · intro id member
    obtain rfl := List.mem_singleton.mp member
    rw [Under, node?_addBelow found, if_pos rfl]
    rfl
  · intro floor root rooted from_ before
    exact rooted.addBelow from_ before name position

theorem adds_addMarker
    {tree : NodeTree} {parent : NodeId} (live : (tree.node? parent).isSome)
    (wanted : Bool) (name : String) (position : Vec3) :
    Adds parent (tree.addMarker wanted parent name position).1.toList tree
      (tree.addMarker wanted parent name position).2 := by
  cases wanted with
  | true => exact adds_addBelow live name position
  | false => exact .nil parent tree

theorem isSome_addMarker (tree : NodeTree) (wanted : Bool) (parent : NodeId)
    (name : String) (position : Vec3) :
    (tree.addMarker wanted parent name position).1.isSome = wanted := by
  cases wanted <;> rfl

end NodeTree

theorem filterMap_cons_eq {α : Type} (node : α → Option NodeId) (first : α)
    (others : List α) :
    (first :: others).filterMap node =
      (node first).toList ++ others.filterMap node := by
  cases known : node first with
  | none => rw [List.filterMap_cons_none known]; rfl
  | some id => rw [List.filterMap_cons_some known]; rfl

namespace Attach

/-! ## Parts of a scene -/

theorem adds_zones (markers : Bool) (parent : NodeId) (position : Nat)
    (data : List ZoneData) {tree : NodeTree}
    (live : (tree.node? parent).isSome) :
    tree.Adds parent
        ((zones markers parent position data tree).1.filterMap Zone.node)
        (zones markers parent position data tree).2 ∧
      (zones markers parent position data tree).1.map
          (fun zone => zone.node.isSome) =
        data.map fun _ => markers := by
  induction data generalizing position tree with
  | nil => exact ⟨.nil parent tree, rfl⟩
  | cons first rest inductionHypothesis =>
      have added :=
        NodeTree.adds_addMarker live markers
          (numberedName "zone" position first.name) first.low
      have wanted :=
        tree.isSome_addMarker markers parent
          (numberedName "zone" position first.name) first.low
      simp only [zones]
      generalize
        tree.addMarker markers parent
          (numberedName "zone" position first.name) first.low = marked
        at added wanted ⊢
      obtain ⟨others, kinds⟩ :=
        inductionHypothesis (position + 1) (added.grows.isSome live)
      refine ⟨?_, ?_⟩
      · rw [filterMap_cons_eq]
        exact added.append others
      · rw [List.map_cons, List.map_cons, kinds]
        exact congrArg (· :: _) wanted

theorem adds_points (markers : Bool) (parent : NodeId) (position : Nat)
    (data : List PointData) {tree : NodeTree}
    (live : (tree.node? parent).isSome) :
    tree.Adds parent
        ((points markers parent position data tree).1.filterMap Point.node)
        (points markers parent position data tree).2 ∧
      (points markers parent position data tree).1.map
          (fun point => point.node.isSome) =
        data.map fun _ => markers := by
  induction data generalizing position tree with
  | nil => exact ⟨.nil parent tree, rfl⟩
  | cons first rest inductionHypothesis =>
      have added :=
        NodeTree.adds_addMarker live markers
          (numberedName "point" position first.name) first.position
      have wanted :=
        tree.isSome_addMarker markers parent
          (numberedName "point" position first.name) first.position
      simp only [points]
      generalize
        tree.addMarker markers parent
          (numberedName "point" position first.name) first.position = marked
        at added wanted ⊢
      obtain ⟨others, kinds⟩ :=
        inductionHypothesis (position + 1) (added.grows.isSome live)
      refine ⟨?_, ?_⟩
      · rw [filterMap_cons_eq]
        exact added.append others
      · rw [List.map_cons, List.map_cons, kinds]
        exact congrArg (· :: _) wanted

/-- Actors who have been placed below one parent, each with a node if it has a
visual. -/
structure PlacesActors (parent : NodeId) (loaded : List LoadedActor)
    (before : NodeTree) (placed : List Actor) (after : NodeTree) : Prop where
  adds : before.Adds parent (nodesOf placed) after
  visuals : placed.map (fun actor => actor.node.isSome) =
    loaded.map fun actor => actor.asset.visual.isSome
  displays : ∀ actor ∈ placed, after.Displays actor

theorem PlacesActors.cons
    {parent : NodeId} {first : LoadedActor} {rest : List LoadedActor}
    {actor : Actor} {others : List Actor} {before marked after : NodeTree}
    (adds : before.Adds parent actor.node.toList marked)
    (visual : actor.node.isSome = first.asset.visual.isSome)
    (displays : marked.Displays actor)
    (places : PlacesActors parent rest marked others after) :
    PlacesActors parent (first :: rest) before (actor :: others) after := by
  refine ⟨?_, ?_, ?_⟩
  · unfold nodesOf
    rw [filterMap_cons_eq]
    exact adds.append places.adds
  · rw [List.map_cons, List.map_cons, places.visuals, visual]
  · rw [List.forall_mem_cons]
    exact ⟨displays.keeps places.adds.grows.keeps, places.displays⟩

theorem placesActors (parent : NodeId) (position : Nat)
    (loaded : List LoadedActor) {tree : NodeTree}
    (live : (tree.node? parent).isSome) :
    PlacesActors parent loaded tree (actors parent position loaded tree).1
      (actors parent position loaded tree).2 := by
  induction loaded generalizing position tree with
  | nil => exact ⟨.nil parent tree, rfl, by simp [actors]⟩
  | cons first rest inductionHypothesis =>
      simp only [actors]
      cases visual : first.asset.visual with
      | none =>
          refine .cons (.nil parent tree) (by rw [visual]; rfl) ?_
            (inductionHypothesis (position + 1) live)
          intro id known
          have absent : none = some id := known
          simp at absent
      | some shown =>
          have added :=
            NodeTree.adds_addBelow live
              (numberedName "actor" position shown.model)
              first.asset.data.position
          refine .cons added (by rw [visual]; rfl) ?_
            (inductionHypothesis (position + 1) (added.grows.isSome live))
          intro id known
          obtain rfl : tree.nextId = id := Option.some.inj known
          obtain ⟨above, found⟩ := Option.isSome_iff_exists.mp live
          have born :=
            NodeTree.node?_addBelow found
              (numberedName "actor" position shown.model)
              first.asset.data.position tree.nextId
          rw [if_pos rfl] at born
          exact ⟨_, born, rfl, rfl⟩

/-! ## Scenes -/

/-- Whether a tree has the nodes of a scene after all that it had before. -/
structure Places (floor root : Nat) (before : NodeTree) (scene : Scene)
    (after : NodeTree) : Prop where
  nextId : after.nextId = before.nextId + scene.body.length
  consecutive : scene.body = List.range' before.nextId scene.body.length
  keeps : before.Keeps after
  rooted : after.Rooted floor root
  carries : after.Carries root scene

/-- A scene is placed node by node, in the order of its body. -/
theorem places_scene
    {floor root : Nat} {nodes : NodeTree} (rooted : nodes.Rooted floor root)
    (markers : Bool) (scenery : SceneryId) (link : Link)
    (loaded : LoadedScene) :
    Places floor root nodes (scene markers scenery root link loaded nodes).1
        (scene markers scenery root link loaded nodes).2 ∧
      (scene markers scenery root link loaded nodes).1.Embodies markers
        loaded := by
  have rootLive := rooted.isSome (Nat.le_refl root) rooted.root_lt
  have standing :=
    NodeTree.adds_addBelow rootLive
      ("scene_" ++ toString loaded.index.toNat) loaded.offset
  have live :
      ((nodes.addBelow root ("scene_" ++ toString loaded.index.toNat)
        loaded.offset).node? nodes.nextId).isSome := by
    obtain ⟨node, found, _⟩ :=
      Option.bind_eq_some_iff.mp
        (standing.under nodes.nextId (List.mem_singleton.mpr rfl))
    rw [found]
    rfl
  -- Actors, zones and points are added below the node of the scene, one kind after
  -- the other, each in the tree that the one before left.
  have acted := placesActors nodes.nextId 0 loaded.actors live
  obtain ⟨zoned, zoneKinds⟩ :=
    adds_zones markers nodes.nextId 0 loaded.zones
      (acted.adds.grows.isSome live)
  obtain ⟨pointed, pointKinds⟩ :=
    adds_points markers nodes.nextId 0 loaded.points
      (zoned.grows.isSome (acted.adds.grows.isSome live))
  have limbs := (acted.adds.append zoned).append pointed
  have inside :
      nodes.nextId <
        (nodes.addBelow root ("scene_" ++ toString loaded.index.toNat)
          loaded.offset).nextId := by
    rw [standing.nextId]
    exact Nat.lt_succ_self _
  unfold scene
  refine ⟨⟨?nextId, ?consecutive, ?keeps, ?rooted, ?carries⟩,
    ⟨rfl, acted.visuals, zoneKinds, pointKinds⟩⟩
  case nextId =>
    refine limbs.nextId.trans ?_
    rw [standing.nextId, Nat.add_assoc, ← List.length_append]
    rfl
  case consecutive =>
    have first := standing.consecutive
    have others := limbs.consecutive
    rw [standing.nextId] at others
    refine (congrArg (nodes.nextId :: ·) others).trans ?_
    exact List.range'_succ.symm
  case keeps => exact (standing.grows.trans limbs.grows).keeps
  case rooted =>
    have grown :=
      standing.rooted floor root rooted (Nat.le_refl root) rooted.root_lt
    exact limbs.rooted floor root grown (Nat.le_of_lt rooted.root_lt) inside
  case carries =>
    refine ⟨rfl, ?_, limbs.under, ?_⟩
    · exact (standing.under _ (List.mem_singleton.mpr rfl)).extends
        limbs.grows
    · intro actor member
      exact (acted.displays actor member).keeps
        (zoned.grows.trans pointed.grows).keeps

end Attach

/-! ## Changes of one scene -/

/-- Whether a scene and a tree become others without harm to what the tree shows,
all parts of the scene keeping their nodes. -/
structure Scene.Restages (before : Scene) (tree : NodeTree) (after : Scene)
    (treeAfter : NodeTree) : Prop where
  index : after.index = before.index
  root : after.root = before.root
  node : after.node = before.node
  company : Stagecraft.Restages before.actors tree after.actors treeAfter
  zones : after.zones.map Zone.node = before.zones.map Zone.node
  points : after.points = before.points

namespace Scene.Restages

variable {before after : Scene} {tree treeAfter : NodeTree}

theorem limbs (restages : before.Restages tree after treeAfter) :
    after.limbs = before.limbs := by
  unfold Scene.limbs nodesOf
  rw [filterMap_eq_of_map restages.company.nodes,
    filterMap_eq_of_map restages.zones, restages.points]

theorem body (restages : before.Restages tree after treeAfter) :
    after.body = before.body := by
  unfold Scene.body
  rw [restages.node, restages.limbs]

theorem embodies (restages : before.Restages tree after treeAfter)
    {markers : Bool} {loaded : LoadedScene}
    (embodies : before.Embodies markers loaded) :
    after.Embodies markers loaded := by
  have same {α : Type} {node : α → Option NodeId} {first second : List α}
      (nodes : second.map node = first.map node) :
      second.map (fun part => (node part).isSome) =
        first.map fun part => (node part).isSome := by
    have present := congrArg (List.map Option.isSome) nodes
    rwa [List.map_map, List.map_map] at present
  exact ⟨restages.index.trans embodies.index,
    (same restages.company.nodes).trans embodies.actors,
    (same restages.zones).trans embodies.zones,
    restages.points ▸ embodies.points⟩

theorem carries (restages : before.Restages tree after treeAfter)
    {root : NodeId} (carries : tree.Carries root before)
    (distinct : before.body.Nodup) :
    treeAfter.Carries root after := by
  have distinctActors : (nodesOf before.actors).Nodup := by
    have limbs := (List.nodup_cons.mp distinct).2
    unfold Scene.limbs at limbs
    rw [List.append_assoc] at limbs
    exact (List.nodup_append.mp limbs).1
  refine ⟨restages.root.trans carries.family, ?_, fun id limb => ?_,
    restages.company.displays distinctActors carries.actors⟩
  · rw [restages.node]
    exact carries.node.of_sameShape restages.company.shape
  · rw [restages.limbs] at limb
    rw [restages.node]
    exact (carries.limbs id limb).of_sameShape restages.company.shape

/-- A scene that has none of the nodes in question is carried as before. -/
theorem carries_other (restages : before.Restages tree after treeAfter)
    {root : NodeId} {other : Scene} (carries : tree.Carries root other)
    (apart : ∀ id ∈ other.body, id ∉ before.body) :
    treeAfter.Carries root other := by
  refine ⟨carries.family,
    carries.node.of_sameShape restages.company.shape,
    fun id limb => (carries.limbs id limb).of_sameShape
      restages.company.shape, fun actor member => ?_⟩
  refine (carries.actors actor member).of_node? fun id known => ?_
  apply restages.company.others
  intro shared
  have limb {scene : Scene} (listed : id ∈ nodesOf scene.actors) :
      id ∈ scene.body := by
    unfold Scene.body Scene.limbs
    simp [listed]
  exact apart id (limb (mem_nodesOf member known)) (limb shared)

end Scene.Restages

theorem Scene.restages_changeProtagonist (scene : Scene) (tree : NodeTree)
    {change : Actor → NodeTree → Actor × NodeTree}
    (acts : ∀ (actor : Actor) tree,
      actor.Acts tree (change actor tree).1 (change actor tree).2) :
    scene.Restages tree (scene.changeProtagonist change tree).1
      (scene.changeProtagonist change tree).2 := by
  unfold changeProtagonist
  split
  · exact ⟨rfl, rfl, rfl, .refl scene.actors tree, rfl, rfl⟩
  · next actor others known =>
      refine ⟨rfl, rfl, rfl, ?_, rfl, rfl⟩
      rw [known]
      exact .head (acts actor tree) others

theorem Stage.restages_resetScene (scene : Scene) (tree : NodeTree) :
    scene.Restages tree (resetScene scene tree).1 (resetScene scene tree).2 := by
  refine ⟨rfl, rfl, rfl, restages_resetActors scene.actors tree, ?_, rfl⟩
  simp only [resetScene, List.map_map]
  rfl

end Stagecraft
