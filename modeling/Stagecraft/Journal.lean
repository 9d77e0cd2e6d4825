import Stagecraft.Content.Failure
import Stagecraft.Content.Fetch
import Stagecraft.Session.Store
import Stagecraft.Stage.Arena

/-!
# Journal

What happens while the program runs, in the order in which it happens: executed
instructions, script events, warnings, calls to the host and started fetches.
-/

namespace Stagecraft

structure TraceStep where
  actor : Nat
  kind : ScriptKind
  position : Nat
deriving DecidableEq, Repr

/-- Something that a tick tells its caller, with the actor that caused it. -/
inductive Event where
  | killed (actor cause : Nat)
  | revived (actor cause : Nat)
  | changeScene (target : SceneIndex) (cause : Nat)
deriving DecidableEq, Repr

/-- Something odd that does not stop the program, with what it is about. Warnings of
scripts tell the scene and the actor whose script it was. -/
inductive Warning where
  | cubeVariableGrown (index : UInt16) (size : Nat)
  | gameVariableGrown (index : UInt16) (size : Nat)
  | stepBudgetExhausted (scene : SceneIndex) (actor : Nat) (script : ScriptKind)
      (position budget : Nat)
  | zoneMissing (scene : SceneIndex) (actor zone : Nat)
  | actorMissing (scene : SceneIndex) (actor target : Nat) (command : String)
  | pointMissing (scene : SceneIndex) (actor point : Nat)
  | sceneLoadFailed (scene : SceneIndex) (error : LoadError)
  | previousSceneNotRestored (scene : SceneId)
  | sceneChangeFailed (scene : SceneIndex) (error : LoadError)
  | checkpointFailed (path : String) (error : SessionError)
  | restoreFailed (path : String) (error : SessionError)
  | invalidSetting (name value : String) (fault : Option Text.NaturalFault)
deriving DecidableEq, Repr

def Warning.name : Warning → String
  | .cubeVariableGrown .. => "scene_variable_grown"
  | .gameVariableGrown .. => "game_variable_grown"
  | .stepBudgetExhausted .. => "script_step_budget_exhausted"
  | .zoneMissing .. => "script_zone_missing"
  | .actorMissing .. => "script_actor_missing"
  | .pointMissing .. => "script_point_missing"
  | .sceneLoadFailed .. => "scene_load_failed"
  | .previousSceneNotRestored .. => "previous_scene_not_restored"
  | .sceneChangeFailed .. => "scene_change_failed"
  | .checkpointFailed .. => "session_checkpoint_failed"
  | .restoreFailed .. => "session_restore_failed"
  | .invalidSetting .. => "invalid_env_value"

namespace Warning

def isExhaustion : Warning → Bool
  | .stepBudgetExhausted .. => true
  | _ => false

def isGameGrowth : Warning → Bool
  | .gameVariableGrown .. => true
  | _ => false

end Warning

/-- An audio channel. -/
inductive Channel where
  | music
  | menu
deriving DecidableEq, Repr

inductive HostCall where
  | load (channel : Channel) (track : UInt16)
  | play (channel : Channel)
  | stop (channel : Channel)
  | camera (scene : SceneIndex) (focus : Option Vec3)
  | animate (scene : SceneIndex) (actor : Nat) (animation : UInt16)
  | behave (scene : SceneIndex) (actor : Nat) (behaviour : UInt8)
deriving DecidableEq

inductive Note where
  | executed (step : TraceStep)
  | event (event : Event)
  | warning (warning : Warning)
  | call (call : HostCall)
  | fetched (fetch : Fetch)
deriving DecidableEq

namespace Note

def executed? : Note → Option TraceStep
  | .executed value => some value
  | _ => none

def event? : Note → Option Event
  | .event value => some value
  | _ => none

def warning? : Note → Option Warning
  | .warning value => some value
  | _ => none

def isExhaustion (entry : Note) : Bool := entry.warning?.any Warning.isExhaustion

def isGameGrowth (entry : Note) : Bool := entry.warning?.any Warning.isGameGrowth

def call? : Note → Option HostCall
  | .call value => some value
  | _ => none

end Note

abbrev Journal := Array Note

namespace Journal

def trace (journal : Journal) : List TraceStep :=
  journal.toList.filterMap Note.executed?

def events (journal : Journal) : List Event :=
  journal.toList.filterMap Note.event?

def warnings (journal : Journal) : List Warning :=
  journal.toList.filterMap Note.warning?

def calls (journal : Journal) : List HostCall :=
  journal.toList.filterMap Note.call?

end Journal

end Stagecraft
