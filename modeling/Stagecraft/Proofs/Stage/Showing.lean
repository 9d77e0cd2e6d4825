import Stagecraft.Proofs.Slots
import Stagecraft.Proofs.Stage.Placement
import Stagecraft.Proofs.Stage.Recast

/-!
# Showing an arena

A node tree shows the scenes of an arena if its nodes are, in the order of their
ids, one root, one node for the scenery, and the bodies of all scenes. Attaching a
family brings this about, and changes of single scenes keep it up.
-/

namespace Stagecraft

def Arena.bodies (arena : Arena) : List NodeId :=
  arena.scenes.entries.flatMap fun entry => entry.2.body

/-- All that a node tree can show of a scene. -/
def Scene.figure (scene : Scene) :
    SceneIndex × NodeId × NodeId × List Actor × List Zone × List Point :=
  (scene.index, scene.root, scene.node, scene.actors, scene.zones,
    scene.points)

theorem Scene.limbs_of_figure {before after : Scene}
    (same : after.figure = before.figure) :
    after.limbs = before.limbs := by
  simp only [figure, Prod.mk.injEq] at same
  obtain ⟨_, _, _, actors, zones, points⟩ := same
  unfold limbs
  rw [actors, zones, points]

theorem Scene.body_of_figure {before after : Scene}
    (same : after.figure = before.figure) :
    after.body = before.body := by
  unfold body
  rw [limbs_of_figure same]
  simp only [figure, Prod.mk.injEq] at same
  rw [same.2.2.1]

/-- Whether the nodes of a tree from an id on are a root, a node for the scenery
and the bodies of all scenes of an arena, and hang and show as they should. -/
structure NodeTree.Shows (floor root : Nat) (arena : Arena)
    (tree : NodeTree) : Prop where
  rooted : tree.Rooted floor root
  scenery : tree.Under root (root + 1)
  consecutive : root :: (root + 1) :: arena.bodies =
    List.range' root (tree.nextId - root)
  scenes : ∀ id scene, arena.scene? id = some scene →
    tree.Carries root scene

/-- Whether every scene of an arena has just the nodes that its content asks
for. -/
def Arena.Embodies (markers : Bool) (parts : List LoadedScene)
    (arena : Arena) : Prop :=
  ∀ id scene, arena.scene? id = some scene →
    ∃ part ∈ parts, scene.Embodies markers part

namespace Arena

variable {arena changed : Arena}

theorem bodies_congr
    (same : ∀ id, (changed.scene? id).map Scene.body =
      (arena.scene? id).map Scene.body) :
    changed.bodies = arena.bodies := by
  have flatten (arena : Arena) :
      arena.bodies =
        (arena.scenes.entries.map (Prod.map id Scene.body)).flatMap
          Prod.snd := by
    rw [List.flatMap_map]
    rfl
  rw [flatten, flatten, Slots.entries_map_congr same]

theorem bodies_addScene (arena : Arena) (scene : Scene) :
    (arena.addScene scene).bodies = arena.bodies ++ scene.body := by
  unfold bodies addScene
  rw [Slots.entries_insert, List.flatMap_append, List.flatMap_singleton]

theorem bodies_of_isEmpty (empty : ∀ id, arena.scene? id = none) :
    arena.bodies = [] := by
  rw [bodies, List.flatMap_eq_nil_iff]
  rintro ⟨id, scene⟩ listed
  have found := (arena.scenes.mem_entries id scene).mp listed
  have missing : arena.scenes.get? id = none := empty id
  rw [missing] at found
  simp at found

theorem bodies_of_figures
    (same : ∀ id, (changed.scene? id).map Scene.figure =
      (arena.scene? id).map Scene.figure) :
    changed.bodies = arena.bodies := by
  refine bodies_congr fun id => ?_
  have figures := same id
  cases isNow : changed.scene? id with
  | none =>
      rw [isNow, Option.map_none, eq_comm, Option.map_eq_none_iff] at figures
      rw [figures]
  | some scene =>
      rw [isNow, Option.map_some, eq_comm, Option.map_eq_some_iff] at figures
      obtain ⟨before, was, figure⟩ := figures
      rw [was]
      exact congrArg some (Scene.body_of_figure figure.symm)

end Arena

namespace NodeTree.Shows

variable {floor root : Nat} {arena : Arena} {tree : NodeTree}

/-! ## Reading it -/

theorem root_le (shows_ : tree.Shows floor root arena) :
    root ≤ tree.nextId :=
  Nat.le_of_lt shows_.rooted.root_lt

theorem nodup (shows_ : tree.Shows floor root arena) :
    arena.bodies.Nodup := by
  have distinct : (root :: (root + 1) :: arena.bodies).Nodup := by
    rw [shows_.consecutive]
    exact List.nodup_range'
  exact (List.nodup_cons.mp (List.nodup_cons.mp distinct).2).2

/-- Different scenes share no nodes. -/
theorem apart (shows_ : tree.Shows floor root arena)
    {left right : SceneId} {leftScene rightScene : Scene}
    (leftFound : arena.scene? left = some leftScene)
    (rightFound : arena.scene? right = some rightScene)
    (different : left ≠ right) :
    ∀ id ∈ leftScene.body, id ∉ rightScene.body := by
  intro id inLeft inRight
  exact Slots.disjoint_of_nodup_flatMap shows_.nodup leftFound rightFound
    different inLeft inRight

theorem distinct (shows_ : tree.Shows floor root arena) {id : SceneId}
    {scene : Scene} (found : arena.scene? id = some scene) :
    scene.body.Nodup :=
  (List.nodup_flatMap.mp shows_.nodup).1 (id, scene)
    ((arena.scenes.mem_entries id scene).mpr found)

/-- As many nodes were made since the root as there are. -/
theorem nextId_eq (shows_ : tree.Shows floor root arena) :
    tree.nextId = root + (root :: (root + 1) :: arena.bodies).length := by
  rw [shows_.consecutive, List.length_range']
  exact (Nat.add_sub_cancel' shows_.root_le).symm

/-- In a tree that was empty at first there are no other nodes. -/
theorem ids_eq (shows_ : tree.Shows 0 root arena) :
    tree.nodes.entries.map Prod.fst =
      root :: (root + 1) :: arena.bodies := by
  rw [shows_.consecutive]
  refine List.Pairwise.eq_of_mem_iff tree.nodes.ids_ascending
    (List.pairwise_lt_range' ..) fun id => ?_
  have root_le := shows_.root_le
  rw [Slots.mem_ids, List.mem_range'_1]
  refine (shows_.rooted.isSome_iff (Nat.zero_le id)).trans ?_
  omega

/-- What shows is a matter of the nodes alone. -/
theorem of_nodes (shows_ : tree.Shows floor root arena) {after : NodeTree}
    (same : after.nodes = tree.nodes) :
    after.Shows floor root arena := by
  obtain ⟨nodes, activeRoot, props⟩ := tree
  obtain ⟨nodesAfter, activeRootAfter, propsAfter⟩ := after
  obtain rfl : nodesAfter = nodes := same
  have rooted := shows_.rooted
  exact ⟨⟨rooted.floor_le, rooted.top, rooted.live, rooted.below⟩,
    shows_.scenery, shows_.consecutive, fun id scene found =>
      ⟨(shows_.scenes id scene found).family,
        (shows_.scenes id scene found).node,
        (shows_.scenes id scene found).limbs,
        (shows_.scenes id scene found).actors⟩⟩

/-! ## Changing scenes -/

theorem of_figures (shows_ : tree.Shows floor root arena) {changed : Arena}
    (same : ∀ id, (changed.scene? id).map Scene.figure =
      (arena.scene? id).map Scene.figure) :
    tree.Shows floor root changed := by
  refine ⟨shows_.rooted, shows_.scenery, ?_, fun id scene found => ?_⟩
  · rw [Arena.bodies_of_figures same]
    exact shows_.consecutive
  · have figures := same id
    rw [found, Option.map_some, eq_comm, Option.map_eq_some_iff] at figures
    obtain ⟨before, was, figure⟩ := figures
    have carries := shows_.scenes id before was
    have sameLimbs := Scene.limbs_of_figure figure
    simp only [Scene.figure, Prod.mk.injEq] at figure
    obtain ⟨_, sameRoot, sameNode, sameActors, _⟩ := figure
    refine ⟨sameRoot ▸ carries.family, sameNode ▸ carries.node, ?_,
      sameActors ▸ carries.actors⟩
    rw [← sameNode, ← sameLimbs]
    exact carries.limbs

/-- A tree that was changed together with one scene shows the arena with it. -/
theorem restage (shows_ : tree.Shows floor root arena) {id : SceneId}
    {scene changed : Scene} {after : NodeTree}
    (found : arena.scene? id = some scene)
    (restages : scene.Restages tree changed after) :
    after.Shows floor root (arena.modifyScene id fun _ => changed) := by
  have sameShape := restages.company.shape
  refine ⟨shows_.rooted.of_sameShape sameShape,
    shows_.scenery.of_sameShape sameShape, ?_, fun other member isMember => ?_⟩
  · have bodies :
        (arena.modifyScene id fun _ => changed).bodies = arena.bodies := by
      refine Arena.bodies_congr fun other => ?_
      rw [Arena.scene?_modifyScene]
      by_cases own : other = id
      · subst own
        rw [if_pos rfl, found]
        exact congrArg some restages.body
      · rw [if_neg own]
    rw [bodies, sameShape.nextId]
    exact shows_.consecutive
  · rw [Arena.scene?_modifyScene] at isMember
    by_cases own : other = id
    · subst own
      rw [if_pos rfl, found, Option.map_some, Option.some.injEq] at isMember
      subst isMember
      exact restages.carries (shows_.scenes other scene found)
        (shows_.distinct found)
    · rw [if_neg own] at isMember
      exact restages.carries_other (shows_.scenes other member isMember)
        (shows_.apart isMember found own)

/-- A scene that was placed after all the others shows along with them. -/
theorem addScene (shows_ : tree.Shows floor root arena) {scene : Scene}
    {after : NodeTree} (places : Attach.Places floor root tree scene after) :
    after.Shows floor root (arena.addScene scene) := by
  refine ⟨places.rooted, shows_.scenery.keeps places.keeps, ?_,
    fun id member isMember => ?_⟩
  · have root_le := shows_.root_le
    have next : tree.nextId = root + (tree.nextId - root) :=
      (Nat.add_sub_cancel' root_le).symm
    have grown :
        after.nextId - root =
          (tree.nextId - root) + scene.body.length := by
      rw [places.nextId, Nat.sub_add_comm root_le]
    -- The ids of the new nodes go on where those of the older ones end.
    calc
      root :: (root + 1) :: (arena.addScene scene).bodies
        = (root :: (root + 1) :: arena.bodies) ++ scene.body := by
          rw [Arena.bodies_addScene]
          rfl
      _ = List.range' root (tree.nextId - root) ++
            List.range' (root + (tree.nextId - root))
              scene.body.length := by
          rw [shows_.consecutive, ← next, ← places.consecutive]
      _ = List.range' root (after.nextId - root) := by
          rw [List.range'_append_1, grown]
  · rw [Arena.scene?_addScene] at isMember
    by_cases own : id = arena.nextScene
    · rw [if_pos own, Option.some.injEq] at isMember
      subst isMember
      exact places.carries
    · rw [if_neg own] at isMember
      exact (shows_.scenes id member isMember).keeps places.keeps

end NodeTree.Shows

/-! ## Scenes with the nodes that they ask for -/

namespace Arena.Embodies

variable {markers : Bool} {parts : List LoadedScene} {arena : Arena}

theorem of_figures (embodies : arena.Embodies markers parts) {changed : Arena}
    (same : ∀ id, (changed.scene? id).map Scene.figure =
      (arena.scene? id).map Scene.figure) :
    changed.Embodies markers parts := by
  intro id scene found
  have figures := same id
  rw [found, Option.map_some, eq_comm, Option.map_eq_some_iff] at figures
  obtain ⟨before, was, figure⟩ := figures
  obtain ⟨part, member, embodied⟩ := embodies id before was
  simp only [Scene.figure, Prod.mk.injEq] at figure
  obtain ⟨sameIndex, _, _, sameActors, sameZones, samePoints⟩ := figure
  exact ⟨part, member, sameIndex ▸ embodied.index,
    sameActors ▸ embodied.actors, sameZones ▸ embodied.zones,
    samePoints ▸ embodied.points⟩

theorem restage (embodies : arena.Embodies markers parts) {id : SceneId}
    {scene changed : Scene} {tree after : NodeTree}
    (found : arena.scene? id = some scene)
    (restages : scene.Restages tree changed after) :
    (arena.modifyScene id fun _ => changed).Embodies markers parts := by
  intro other member isMember
  rw [Arena.scene?_modifyScene] at isMember
  by_cases own : other = id
  · subst own
    rw [if_pos rfl, found, Option.map_some, Option.some.injEq] at isMember
    subst isMember
    obtain ⟨part, listed, embodied⟩ := embodies other scene found
    exact ⟨part, listed, restages.embodies embodied⟩
  · rw [if_neg own] at isMember
    exact embodies other member isMember

theorem addScene (embodies : arena.Embodies markers parts) {scene : Scene}
    {part : LoadedScene} (listed : part ∈ parts)
    (embodied : scene.Embodies markers part) :
    (arena.addScene scene).Embodies markers parts := by
  intro id member isMember
  rw [Arena.scene?_addScene] at isMember
  by_cases own : id = arena.nextScene
  · rw [if_pos own, Option.some.injEq] at isMember
    subst isMember
    exact ⟨part, listed, embodied⟩
  · rw [if_neg own] at isMember
    exact embodies id member isMember

end Arena.Embodies

namespace Attach

variable {floor root : Nat} {markers : Bool} {parts : List LoadedScene}

/-! ## Attaching -/

/-- What is done to a scene that was just placed does no harm to older nodes. -/
theorem Places.restage
    {before after last : NodeTree} {scene changed : Scene}
    (places : Places floor root before scene after)
    (restages : scene.Restages after changed last) :
    Places floor root before changed last := by
  have sameShape := restages.company.shape
  have distinct : scene.body.Nodup := by
    rw [places.consecutive]
    exact List.nodup_range'
  have newer {id : NodeId} (listed : id ∈ nodesOf scene.actors) :
      before.nextId ≤ id := by
    have member : id ∈ scene.body := by
      unfold Scene.body Scene.limbs
      simp [listed]
    rw [places.consecutive] at member
    exact (List.mem_range'_1.mp member).1
  refine ⟨?_, ?_, ⟨fun id node found => ?_⟩,
    places.rooted.of_sameShape sameShape,
    restages.carries places.carries distinct⟩
  · rw [sameShape.nextId, places.nextId, restages.body]
  · rw [restages.body]
    exact places.consecutive
  · have other : id ∉ nodesOf scene.actors := fun listed =>
      Nat.not_lt_of_le (newer listed) (NodeTree.lt_nextId_of_node? found)
    rw [restages.company.others id other]
    exact places.keeps.nodes id node found

/-- Side scenes show along with what showed before, their protagonists asleep. -/
theorem shows_sides (main : SceneId) (scenery : SceneryId)
    {loaded : List LoadedScene} (given : ∀ side ∈ loaded, side ∈ parts)
    {arena : Arena} {nodes : NodeTree} (shows_ : nodes.Shows floor root arena)
    (embodies : arena.Embodies markers parts) :
    let added := sides markers main scenery root loaded arena nodes
    added.2.2.Shows floor root added.2.1 ∧
      added.2.1.Embodies markers parts := by
  induction loaded generalizing arena nodes with
  | nil => exact ⟨shows_, embodies⟩
  | cons side rest inductionHypothesis =>
      rw [List.forall_mem_cons] at given
      obtain ⟨placed, embodied⟩ :=
        places_scene shows_.rooted markers scenery (.side main) side
      have sleeping :=
        Scene.restages_changeProtagonist
          (scene markers scenery root (.side main) side nodes).1
          (scene markers scenery root (.side main) side nodes).2
          Actor.acts_kill
      exact inductionHypothesis given.2
        (shows_.addScene (placed.restage sleeping))
        (embodies.addScene given.1 (sleeping.embodies embodied))

/-- A root with a scenery below it, and no scenes yet. -/
theorem shows_rooted
    {nodes : NodeTree} (bare : ∀ id : Nat, floor ≤ id → nodes.node? id = none)
    (old : floor ≤ nodes.nextId) {arena : Arena}
    (empty : ∀ id, arena.scene? id = none) (name scenery : String) :
    ((nodes.create name).addBelow nodes.nextId scenery Vec3.zero).Shows
      floor nodes.nextId arena := by
  have rooted := NodeTree.Rooted.create bare old name
  have live := rooted.isSome (Nat.le_refl _) rooted.root_lt
  have added := NodeTree.adds_addBelow live scenery Vec3.zero
  have born : nodes.nextId + 1 = (nodes.create name).nextId :=
    (nodes.nextId_create name).symm
  refine ⟨rooted.addBelow (Nat.le_refl _) rooted.root_lt scenery Vec3.zero,
    ?_, ?_, fun id scene found => by simp [empty id] at found⟩
  · rw [born]
    exact added.under _ (List.mem_singleton.mpr rfl)
  · have count :
        ((nodes.create name).addBelow nodes.nextId scenery
          Vec3.zero).nextId - nodes.nextId = 2 := by
      rw [added.nextId, NodeTree.nextId_create, List.length_singleton,
        Nat.add_assoc, Nat.add_sub_cancel_left]
    rw [Arena.bodies_of_isEmpty empty, count]
    rfl

/-- A family that is attached after everything else has gone is all that shows. -/
theorem shows_family
    {nodes : NodeTree} (bare : ∀ id : Nat, floor ≤ id → nodes.node? id = none)
    (old : floor ≤ nodes.nextId) {arena : Arena}
    (empty : ∀ id, arena.scene? id = none) (loaded : LoadedFamily) :
    let attached := family markers loaded arena nodes
    attached.2.Shows floor nodes.nextId attached.1 ∧
      attached.1.Embodies markers (loaded.main :: loaded.sides) := by
  have stillEmpty (id : SceneId) :
      (arena.addScenery loaded.scenery).scene? id = none :=
    empty id
  have rooted :=
    shows_rooted bare old stillEmpty (rootName loaded.main.kind)
      ("scenery_" ++ loaded.scenery.name)
  have begun :
      (arena.addScenery loaded.scenery).Embodies markers
        (loaded.main :: loaded.sides) := by
    intro id scene found
    rw [stillEmpty] at found
    simp at found
  obtain ⟨placed, embodied⟩ :=
    places_scene rooted.rooted markers arena.nextScenery
      (mainLink loaded.main.kind []) loaded.main
  obtain ⟨shows_, embodies⟩ :=
    shows_sides arena.nextScene arena.nextScenery
      (fun _ member => List.mem_cons_of_mem loaded.main member)
      (rooted.addScene placed)
      (begun.addScene List.mem_cons_self embodied)
  have figures (attached : Arena) (link : Link) (id : SceneId) :
      ((attached.modifyScene arena.nextScene
          (Scene.withLink link)).scene? id).map Scene.figure =
        (attached.scene? id).map Scene.figure := by
    rw [Arena.scene?_modifyScene]
    split
    · rw [Option.map_map]
      rfl
    · rfl
  exact ⟨shows_.of_figures (figures _ _), embodies.of_figures (figures _ _)⟩

end Attach

end Stagecraft
