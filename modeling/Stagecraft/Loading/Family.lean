import Stagecraft.Loading.Task
import Stagecraft.Script.References

/-!
# Loading a family

A family is a scene with everything that is loaded along with it: its scenery
and, on an island, the other scenes of the island in the same variant.
-/

namespace Stagecraft

/-- An actor with its compiled programs. -/
structure LoadedActor where
  asset : ActorAsset
  life : Program
  move : Program

/-- A scene ready to be attached. -/
structure LoadedScene where
  index : SceneIndex
  kind : SceneKind
  island : Option String
  ambience : Ambience
  environment : Environment
  offset : Vec3
  actors : List LoadedActor
  zones : List ZoneData
  points : List PointData
  cubeSize : Nat
  gameReferences : List UInt16

structure LoadedFamily where
  main : LoadedScene
  scenery : Scenery
  sides : List LoadedScene

/-- What a load depends on besides the content source. -/
structure LoadContext where
  map : SceneMap
  language : String
  game : GameBank

namespace LoadContext

/-! ## Parts of a load -/

def islandOf (context : LoadContext) : SceneKind → Option String
  | .island slot => some (context.map.resolveIsland slot.island context.game)
  | .isometric _ => none

/-- The environment of a scene: that of its island with the changes of its
ambience, or a plain one. -/
def environmentOf (context : LoadContext) (island : Option String)
    (ambience : Ambience) : Environment :=
  match island with
  | some name => (context.map.environment (some name)).under ambience
  | none => Environment.plain

/-- The scenery that a scene asks for when it is the main scene of a family. -/
def sceneryKey (context : LoadContext) : SceneKind → SceneryKey
  | .island slot =>
      .island (context.map.resolveIsland slot.island context.game)
  | .isometric index => .isometric index

/-- Compiles the scripts of actors counted from a position on: for each actor
the life script, then the move script. -/
def compileActors (scene : SceneIndex) :
    Nat → List ActorAsset → Except LoadError (List LoadedActor)
  | _, [] => .ok []
  | position, asset :: rest =>
      let bad := LoadError.badScript scene position asset.data.name
      match Program.compile asset.data.life with
      | .error jump => .error (bad jump)
      | .ok life =>
          match Program.compile asset.data.move with
          | .error jump => .error (bad jump)
          | .ok move =>
              match compileActors scene (position + 1) rest with
              | .error error => .error error
              | .ok others => .ok (⟨asset, life, move⟩ :: others)

/-- Where a scene stands on its scenery; a scene on an island needs its
section. -/
def offsetOf (index : SceneIndex) (kind : SceneKind) (scenery : Scenery) :
    Except LoadError Vec3 :=
  match kind with
  | .isometric _ => .ok Vec3.zero
  | .island slot =>
      match scenery.sections[slot.place.toNat]? with
      | some place => .ok place.offset
      | none =>
          .error (.missingSection index scenery.name slot.place.toNat
            scenery.sections.length)

def programsOf (actors : List LoadedActor) : List Program :=
  actors.flatMap fun actor => [actor.life, actor.move]

def assemble (context : LoadContext) (index : SceneIndex) (kind : SceneKind)
    (data : SceneData) (actors : List LoadedActor) (offset : Vec3) :
    LoadedScene where
  index := index
  kind := kind
  island := context.islandOf kind
  ambience := data.ambience
  environment :=
    context.environmentOf (context.islandOf kind) data.ambience
  offset := offset
  actors := actors
  zones := data.zones
  points := data.points
  cubeSize := cubeSize (programsOf actors)
  gameReferences := gameReferences (programsOf actors)

def actorRequests (context : LoadContext) (kind : SceneKind)
    (data : SceneData) : List (Errand ActorAsset) :=
  let environment :=
    context.environmentOf (context.islandOf kind) data.ambience
  data.actors.map fun actor =>
    Errand.ofRequest (.actor environment data.ambience actor)

/-- The scenery of a scene: the one that it shares, or one of its own. -/
def sceneryFor (context : LoadContext) (kind : SceneKind)
    (ambience : Ambience) : Option Scenery → Task Scenery
  | some scenery => .done scenery
  | none => Task.ask (.scenery (context.sceneryKey kind) ambience)

/-! ## Loads -/

/-- Loads one scene: its data, its actors side by side, its scenery unless it
shares one. The scripts are compiled before the scenery is asked for, and the
section is looked up at the end. -/
def scene (context : LoadContext) (index : SceneIndex)
    (shared : Option Scenery) : Task (LoadedScene × Scenery) :=
  match context.map.kind? index with
  | none => .failed (.unknownScene index)
  | some kind => do
      let data ← Task.ask (.scene context.language index)
      let assets ← Task.runErrands (context.actorRequests kind data)
      let actors ← Task.ofExcept (compileActors index 0 assets)
      let scenery ← context.sceneryFor kind data.ambience shared
      let offset ← Task.ofExcept (offsetOf index kind scenery)
      return (context.assemble index kind data actors offset, scenery)

/-- Loads a family: its main scene, then all side scenes side by side on the
same scenery. A poll reaches every side scene that has not come to its end, also
where they are more than `Task.groupLimit`. They do not take turns as errands do:
which poll asks for what, and which of several failures a load ends with, can be
different for a queue, but not what a load without failures ends with. -/
def family (context : LoadContext) (index : SceneIndex) :
    Task LoadedFamily := do
  let (main, scenery) ← context.scene index none
  let sides ← Task.together <|
    (context.map.sideScenes index).map fun side =>
      context.scene side (some scenery)
  return ⟨main, scenery, sides.map Prod.fst⟩

end LoadContext

end Stagecraft
