import Stagecraft.Files.Basic
import Stagecraft.SceneMap.Reader
import Stagecraft.Script.Program

/-!
# Load errors

Why a scene cannot be loaded.
-/

namespace Stagecraft

inductive LoadError where
  | unreadable (path : String) (fault : ReadFault)
  | refused (path : String) (refusal : Refusal)
  | badSceneMap (error : SceneMapError)
  | unknownScene (index : SceneIndex)
  | missingSection (scene : SceneIndex) (scenery : String) (place available : Nat)
  | badScript (scene : SceneIndex) (actor : Nat) (name : String)
      (jump : JumpOutOfRange)
  | unavailable (what reason : String)
deriving DecidableEq, Repr

namespace LoadError

def place : Refusal → String
  | .unfit path => Refusal.pathText path
  | .unreadable _ => "."

def message : LoadError → String
  | .unreadable path fault => "read '" ++ path ++ "': " ++ fault.name
  | .refused path refusal =>
      "parse '" ++ path ++ "' at " ++ place refusal ++ ": " ++
        refusal.category
  | .badSceneMap error => "scene map: " ++ error.text
  | .unknownScene index =>
      "scene " ++ toString index.toNat ++ " is not in the scene map"
  | .missingSection scene scenery place available =>
      "scene " ++ toString scene.toNat ++ " sits on section " ++
        toString place ++ " but scenery '" ++ scenery ++ "' has " ++
        toString available ++ " sections"
  | .badScript scene actor name jump =>
      "scene " ++ toString scene.toNat ++ " actor " ++ toString actor ++
        " ('" ++ name ++ "') has an invalid script: " ++ jump.message
  | .unavailable what reason => what ++ " is unavailable: " ++ reason

end LoadError

end Stagecraft
