import Stagecraft.Scene.Zone
import Stagecraft.Scene.Actor
import Stagecraft.SceneMap.Basic

/-!
# Arena

All loaded scenes and sceneries by id. Scenes of one family refer to each other
by id: the main scene lists its side scenes, each side scene names its parent.
-/

namespace Stagecraft

/-- The id of a loaded scene. -/
abbrev SceneId := Nat

abbrev SceneryId := Nat

/-- The place of a scene in its family: alone, the main scene with its side
scenes by ascending number, or a side scene. -/
inductive Link where
  | standalone
  | main (sides : List (SceneIndex × SceneId))
  | side (parent : SceneId)
deriving DecidableEq, Repr

/-- A loaded scene. -/
structure Scene where
  index : SceneIndex
  kind : SceneKind
  island : Option String
  ambience : Ambience
  environment : Environment
  scenery : SceneryId
  root : NodeId
  node : NodeId
  actors : List Actor
  zones : List Zone
  points : List Point
  cube : CubeBank
  cubeSize : Nat
  gameReferences : List UInt16
  link : Link
  active : Bool

namespace Scene

def sides (scene : Scene) : List (SceneIndex × SceneId) :=
  match scene.link with
  | .main sides => sides
  | _ => []

def side? (scene : Scene) (index : SceneIndex) : Option SceneId :=
  scene.sides.lookup index

/-- The main scene of the family of a side scene. -/
def parent? (scene : Scene) : Option SceneId :=
  match scene.link with
  | .side parent => some parent
  | _ => none

def protagonist? (scene : Scene) : Option Actor :=
  scene.actors[protagonist]?

def withLink (link : Link) (scene : Scene) : Scene := { scene with link := link }

def withActive (active : Bool) (scene : Scene) : Scene :=
  { scene with active := active }

def changeProtagonist (change : Actor → NodeTree → Actor × NodeTree)
    (scene : Scene) (nodes : NodeTree) : Scene × NodeTree :=
  match scene.actors with
  | [] => (scene, nodes)
  | actor :: others =>
      let (changed, after) := change actor nodes
      ({ scene with actors := changed :: others }, after)

end Scene

/-- Puts a side scene into a list by ascending number, over an earlier one of
the same number. -/
def insertSide (index : SceneIndex) (id : SceneId) :
    List (SceneIndex × SceneId) → List (SceneIndex × SceneId)
  | [] => [(index, id)]
  | (other, otherId) :: rest =>
      if index < other then
        (index, id) :: (other, otherId) :: rest
      else if index == other then
        (index, id) :: rest
      else
        (other, otherId) :: insertSide index id rest

/-- Loaded scenes and sceneries. -/
structure Arena where
  scenes : Slots Scene
  sceneries : Slots Scenery

namespace Arena

def empty : Arena := ⟨Slots.empty, Slots.empty⟩

instance : Inhabited Arena := ⟨empty⟩

def scene? (arena : Arena) (id : SceneId) : Option Scene := arena.scenes.get? id

def scenery? (arena : Arena) (id : SceneryId) : Option Scenery :=
  arena.sceneries.get? id

def nextScene (arena : Arena) : SceneId := arena.scenes.nextId

def nextScenery (arena : Arena) : SceneryId := arena.sceneries.nextId

def addScene (arena : Arena) (scene : Scene) : Arena :=
  { arena with scenes := arena.scenes.insert scene }

def addScenery (arena : Arena) (scenery : Scenery) : Arena :=
  { arena with sceneries := arena.sceneries.insert scenery }

def modifyScene (arena : Arena) (id : SceneId) (change : Scene → Scene) :
    Arena :=
  { arena with scenes := arena.scenes.modify id change }

/-! ## What an operation does to a look-up -/

theorem scene?_addScene (arena : Arena) (scene : Scene) (id : SceneId) :
    (arena.addScene scene).scene? id =
      if id = arena.nextScene then some scene else arena.scene? id :=
  arena.scenes.get?_insert scene id

theorem scenery?_addScenery (arena : Arena) (scenery : Scenery)
    (id : SceneryId) :
    (arena.addScenery scenery).scenery? id =
      if id = arena.nextScenery then some scenery else arena.scenery? id :=
  arena.sceneries.get?_insert scenery id

theorem scene?_modifyScene (arena : Arena) (changed : SceneId)
    (change : Scene → Scene) (id : SceneId) :
    (arena.modifyScene changed change).scene? id =
      if id = changed then (arena.scene? id).map change
      else arena.scene? id :=
  arena.scenes.get?_modify changed id change

theorem isSome_scene?_modifyScene (arena : Arena) (changed : SceneId)
    (change : Scene → Scene) (id : SceneId) :
    ((arena.modifyScene changed change).scene? id).isSome =
      (arena.scene? id).isSome := by
  rw [scene?_modifyScene]
  split
  · exact Option.isSome_map
  · rfl

@[simp]
theorem nextScene_addScene (arena : Arena) (scene : Scene) :
    (arena.addScene scene).nextScene = arena.nextScene + 1 :=
  arena.scenes.nextId_insert scene

@[simp]
theorem nextScene_addScenery (arena : Arena) (scenery : Scenery) :
    (arena.addScenery scenery).nextScene = arena.nextScene :=
  rfl

/-- There are no scenes under ids that were not handed out yet. -/
theorem scene?_of_nextScene_le (arena : Arena) {id : SceneId}
    (later : arena.nextScene ≤ id) :
    arena.scene? id = none :=
  arena.scenes.get?_of_nextId_le later

/-! ## Families -/

def mainOf (arena : Arena) (id : SceneId) : SceneId :=
  ((arena.scene? id).bind Scene.parent?).getD id

/-- The main scene of a family, then its side scenes by ascending number. -/
def familyOf (arena : Arena) (id : SceneId) : List SceneId :=
  let main := arena.mainOf id
  match arena.scene? main with
  | some scene => main :: scene.sides.map Prod.snd
  | none => [main]

def findInFamily (arena : Arena) (id : SceneId) (index : SceneIndex) :
    Option SceneId :=
  (arena.familyOf id).find? fun member =>
    (arena.scene? member).any fun scene => scene.index == index

/-- Makes a side scene the main scene of its family. It takes over the list of
side scenes, with the scene that was the main one in its own stead. -/
def promote (arena : Arena) (outgoing incoming : SceneId) : Arena :=
  match arena.scene? outgoing with
  | none => arena
  | some scene =>
      if scene.sides.any fun side => side.2 == incoming then
        let sides :=
          insertSide scene.index outgoing
            (scene.sides.filter fun side => side.2 != incoming)
        let demoted :=
          sides.foldl
            (fun arena side =>
              arena.modifyScene side.2 (Scene.withLink (.side incoming)))
            arena
        demoted.modifyScene incoming (Scene.withLink (.main sides))
      else
        arena

def isUsed (arena : Arena) (scenery : SceneryId) : Bool :=
  arena.scenes.entries.any fun entry => entry.2.scenery == scenery

/-- Takes the family of a scene out of the arena, its nodes out of the node
tree, and the sceneries on which no scene stands any more out of the arena. -/
def removeFamily (arena : Arena) (id : SceneId) (nodes : NodeTree) :
    Arena × NodeTree :=
  let family := arena.familyOf id
  let root? :=
    (family.filterMap fun member => (arena.scene? member).map Scene.root).getLast?
  let left : Arena :=
    { arena with scenes := family.foldl Slots.erase arena.scenes }
  let remaining : Arena :=
    { left with
      sceneries := left.sceneries.filter fun scenery _ => left.isUsed scenery }
  match root? with
  | some root => (remaining, nodes.remove root)
  | none => (remaining, nodes)

end Arena

end Stagecraft
