import Stagecraft.Content.Scene

/-!
# Fetches

What a load asks of the content source, and what each request is answered with.
-/

namespace Stagecraft

inductive SceneryKey where
  | island (name : String)
  | isometric (index : UInt32)
deriving DecidableEq, Repr

structure Visual where
  model : String
  environment : Environment
deriving DecidableEq

/-- An actor ready to be placed; one without a visual is never shown. -/
structure ActorAsset where
  data : ActorData
  visual : Option Visual
deriving DecidableEq

inductive Fetch where
  | scene (language : String) (index : SceneIndex)
  | actor (environment : Environment) (ambience : Ambience) (data : ActorData)
  | scenery (key : SceneryKey) (ambience : Ambience)
deriving DecidableEq

def Fetch.Answer : Fetch → Type
  | .scene _ _ => SceneData
  | .actor _ _ _ => ActorAsset
  | .scenery _ _ => Scenery

end Stagecraft
