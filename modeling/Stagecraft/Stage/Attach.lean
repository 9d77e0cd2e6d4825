import Stagecraft.Loading.Family
import Stagecraft.Stage.Arena

/-!
# Attaching a family

A loaded family becomes nodes and scenes. The order fixes the ids: the family
root and the scenery first, then scene by scene the scene itself, its actors, and
markers for its zones and points.
-/

namespace Stagecraft

/-! ## Nodes -/

/-- Adds a node below another one, at a position relative to it. -/
def NodeTree.addBelow (nodes : NodeTree) (parent : NodeId) (name : String)
    (position : Vec3) : NodeTree :=
  let id := nodes.nextId
  ((nodes.create name).addChild parent id).setPosition id position

/-- Adds a node below another one if it is wanted, and gives its id. -/
def NodeTree.addMarker (wanted : Bool) (nodes : NodeTree) (parent : NodeId)
    (name : String) (position : Vec3) : Option NodeId × NodeTree :=
  if wanted then
    (some nodes.nextId, nodes.addBelow parent name position)
  else
    (none, nodes)

/-- A name with a number in front: what it names, the number, the name. -/
def numberedName (what : String) (number : Nat) (name : String) : String :=
  what ++ "_" ++ toString number ++ "_" ++ name

namespace Attach

/-! ## Parts of a scene -/

/-- Places actors counted from a position on; those with a model get a node. -/
def actors (parent : NodeId) :
    Nat → List LoadedActor → NodeTree → List Actor × NodeTree
  | _, [], nodes => ([], nodes)
  | position, loaded :: rest, nodes =>
      let data := loaded.asset.data
      let (node, placed) :=
        match loaded.asset.visual with
        | some visual =>
            nodes.addMarker true parent
              (numberedName "actor" position visual.model) data.position
        | none => (none, nodes)
      let actor := Actor.ofPrograms data node loaded.life loaded.move
      let (others, after) := actors parent (position + 1) rest placed
      (actor :: others, after)

def zones (markers : Bool) (parent : NodeId) :
    Nat → List ZoneData → NodeTree → List Zone × NodeTree
  | _, [], nodes => ([], nodes)
  | position, data :: rest, nodes =>
      let (node, placed) :=
        nodes.addMarker markers parent (numberedName "zone" position data.name)
          data.low
      let (others, after) := zones markers parent (position + 1) rest placed
      (Zone.ofData data node :: others, after)

def points (markers : Bool) (parent : NodeId) :
    Nat → List PointData → NodeTree → List Point × NodeTree
  | _, [], nodes => ([], nodes)
  | position, data :: rest, nodes =>
      let (node, placed) :=
        nodes.addMarker markers parent (numberedName "point" position data.name)
          data.position
      let (others, after) := points markers parent (position + 1) rest placed
      (Point.ofData data node :: others, after)

/-! ## Scenes -/

def scene (markers : Bool) (scenery : SceneryId) (root : NodeId) (link : Link)
    (loaded : LoadedScene) (nodes : NodeTree) : Scene × NodeTree :=
  let node := nodes.nextId
  let placed :=
    nodes.addBelow root ("scene_" ++ toString loaded.index.toNat) loaded.offset
  let (actors, withActors) := actors node 0 loaded.actors placed
  let (zones, withZones) := zones markers node 0 loaded.zones withActors
  let (points, withPoints) := points markers node 0 loaded.points withZones
  ({ index := loaded.index
     kind := loaded.kind
     island := loaded.island
     ambience := loaded.ambience
     environment := loaded.environment
     scenery := scenery
     root := root
     node := node
     actors := actors
     zones := zones
     points := points
     cube := CubeBank.blank loaded.cubeSize
     cubeSize := loaded.cubeSize
     gameReferences := loaded.gameReferences
     link := link
     active := false },
    withPoints)

/-- Places the side scenes of a main scene, their protagonists asleep, and lists
them by ascending number. -/
def sides (markers : Bool) (main : SceneId) (scenery : SceneryId)
    (root : NodeId) :
    List LoadedScene → Arena → NodeTree →
      List (SceneIndex × SceneId) × Arena × NodeTree
  | [], arena, nodes => ([], arena, nodes)
  | loaded :: rest, arena, nodes =>
      let (side, placed) := scene markers scenery root (.side main) loaded nodes
      let (sleeping, hidden) := side.changeProtagonist Actor.kill placed
      let (others, after, nodesAfter) :=
        sides markers main scenery root rest (arena.addScene sleeping) hidden
      (insertSide loaded.index arena.nextScene others, after, nodesAfter)

def rootName (kind : SceneKind) : String :=
  if kind.isIsland then "island_root" else "iso_root"

def mainLink (kind : SceneKind) (sides : List (SceneIndex × SceneId)) : Link :=
  if kind.isIsland then .main sides else .standalone

/-- Places a family. Its main scene gets the next id of the arena, its root the
next id of the node tree. -/
def family (markers : Bool) (loaded : LoadedFamily) (arena : Arena)
    (nodes : NodeTree) : Arena × NodeTree :=
  let root := nodes.nextId
  let rooted :=
    (nodes.create (rootName loaded.main.kind)).addBelow root
      ("scenery_" ++ loaded.scenery.name) Vec3.zero
  let scenery := arena.nextScenery
  let main := arena.nextScene
  let kind := loaded.main.kind
  let (mainScene, placed) :=
    scene markers scenery root (mainLink kind []) loaded.main rooted
  let (sides, attached, nodesAfter) :=
    sides markers main scenery root loaded.sides
      ((arena.addScenery loaded.scenery).addScene mainScene) placed
  (attached.modifyScene main (Scene.withLink (mainLink kind sides)), nodesAfter)

end Attach

end Stagecraft
