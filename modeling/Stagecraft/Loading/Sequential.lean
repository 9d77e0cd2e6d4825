import Stagecraft.Loading.Family

/-!
# Loading one after the other

The plain way to load a family: every fetch is answered before the next one is
asked for. It needs no tasks.
-/

namespace Stagecraft

namespace LoadContext

def assetsInOrder (source : Source) (environment : Environment)
    (ambience : Ambience) :
    List ActorData → Except LoadError (List ActorAsset)
  | [] => .ok []
  | data :: rest =>
      match source.answer (.actor environment ambience data) with
      | .error error => .error error
      | .ok asset =>
          match assetsInOrder source environment ambience rest with
          | .error error => .error error
          | .ok others => .ok (asset :: others)

def sceneInOrder (source : Source) (context : LoadContext)
    (index : SceneIndex) (shared : Option Scenery) :
    Except LoadError (LoadedScene × Scenery) := do
  match context.map.kind? index with
  | none => .error (.unknownScene index)
  | some kind =>
      let data ← source.answer (.scene context.language index)
      let environment :=
        context.environmentOf (context.islandOf kind) data.ambience
      let assets ←
        assetsInOrder source environment data.ambience data.actors
      let actors ← compileActors index 0 assets
      let scenery ←
        match shared with
        | some scenery => .ok scenery
        | none =>
            source.answer (.scenery (context.sceneryKey kind) data.ambience)
      let offset ← offsetOf index kind scenery
      return (context.assemble index kind data actors offset, scenery)

def sidesInOrder (source : Source) (context : LoadContext)
    (scenery : Scenery) : List SceneIndex → Except LoadError (List LoadedScene)
  | [] => .ok []
  | index :: rest => do
      let (side, _) ← sceneInOrder source context index (some scenery)
      return side :: (← sidesInOrder source context scenery rest)

def familyInOrder (source : Source) (context : LoadContext)
    (index : SceneIndex) : Except LoadError LoadedFamily := do
  let (main, scenery) ← sceneInOrder source context index none
  let sides ←
    sidesInOrder source context scenery (context.map.sideScenes index)
  return ⟨main, scenery, sides⟩

end LoadContext

end Stagecraft
