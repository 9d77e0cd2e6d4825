import Stagecraft.Content.Library
import Stagecraft.Installation
import Stagecraft.Loop.Plan
import Stagecraft.Loop.Settings
import Stagecraft.Session.Store
import Stagecraft.Stage.Basic

/-!
# Runs

A run opens a scene, ticks, follows the scene changes that ticks ask for, saves
after each of them and saves at its end. Frames only slice a run into ticks.
-/

namespace Stagecraft

/-- One more on a counter of 64 bits, which stops at its largest value. -/
def countUp64 (counter : UInt64) : UInt64 :=
  if counter.toNat + 1 < UInt64.size then counter + 1 else counter

/-- One more on a counter of 32 bits, which stops at its largest value. -/
def countUp32 (counter : UInt32) : UInt32 :=
  if counter.toNat + 1 < UInt32.size then counter + 1 else counter

structure Run where
  content : String
  savePath : String
  stage : Stage
  game : GameBank
  files : Files
  ticks : UInt64
  sceneChanges : UInt32

structure Summary where
  ticks : UInt64
  sceneChanges : UInt32
  finalScene : Option SceneIndex
deriving DecidableEq, Repr

inductive RunError where
  | load (error : LoadError)
  | session (error : SessionError)
deriving DecidableEq, Repr

def RunError.message (savePath : String) : RunError → String
  | .load error => "failed to load scene content: " ++ error.message
  | .session error =>
      "failed to persist session: " ++ error.message savePath

structure Ended where
  result : Except RunError Summary
  files : Files
  journal : Journal

namespace Run

/-! ## One tick -/

def source (run : Run) : Source :=
  ⟨Library.answer ⟨run.files, run.content⟩, fun _ _ => 0⟩

def save (run : Run) : Save :=
  .ofSession run.game run.stage.activeIndex? run.stage.gameReferences

/-- Saves after a scene change; a failure is only noted. -/
def checkpoint (run : Run) : Run :=
  let (files, saved) := run.save.store run.files run.savePath
  { run with
    files := files
    stage :=
      if saved then run.stage
      else run.stage.warn (.checkpointFailed run.savePath .unwritten) }

/-- Follows a request to change the scene. -/
def follow (target : SceneIndex) (run : Run) : Run :=
  match run.stage.goto run.source run.game target false with
  | (.ok .ignored, stage) => { run with stage := stage }
  | (.ok _, stage) =>
      checkpoint
        { run with
          stage := stage
          sceneChanges := countUp32 run.sceneChanges }
  | (.error error, stage) =>
      { run with stage := stage.warn (.sceneChangeFailed target error) }

/-- One tick, and the first scene change that it asks for. -/
def step (run : Run) : Run :=
  let (report, game, stage) := run.stage.tick run.game
  let ticked :=
    { run with game := game, stage := stage, ticks := countUp64 run.ticks }
  match requestedScene report.events with
  | some target => ticked.follow target
  | none => ticked

/-! ## Beginning and end -/

/-- Restores the saved session, if there is a save file: the game variables,
the saved scene and the warnings: one for each variable that made the bank grow,
or one if the file is of no use. -/
def restore (files : Files) (path : String) :
    GameBank × Option SceneIndex × List Warning :=
  if files.isFile path then
    match Save.load files path with
    | .ok save =>
        (save.restore GameBank.fresh, save.scene,
          (save.growths GameBank.fresh).map fun (index, size) =>
            .gameVariableGrown index size)
    | .error error => (GameBank.fresh, none, [.restoreFailed path error])
  else
    (GameBank.fresh, none, [])

/-- How a run starts: it has opened its first scene, or it is over already. -/
inductive Opening where
  | running (run : Run)
  | over (ended : Ended)

/-- Starts a run: restores the session, reads the scene map and opens the first
scene. -/
def start (settings : Settings) (installation : Installation) (host : Host)
    (files : Files) : Opening :=
  let savePath := Path.join installation.cache settings.saveFile
  let (game, saved, warnings) := restore files savePath
  let journal : Journal := (warnings.map Note.warning).toArray
  let library : Library := ⟨files, installation.content⟩
  match library.sceneMap with
  | .error error => .over ⟨.error (.load error), files, journal⟩
  | .ok map =>
      let bare :=
        Stage.bare map
          ⟨settings.language, settings.editorMarkers,
            max settings.stepBudget 1⟩ host
      let run : Run :=
        { content := installation.content
          savePath := savePath
          stage := { bare with journal := journal }
          game := game
          files := files
          ticks := 0
          sceneChanges := 0 }
      match run.stage.goto run.source game
          (startScene settings.startScene saved) false with
      | (.ok _, stage) => .running { run with stage := stage }
      | (.error error, stage) =>
          .over ⟨.error (.load error), files, stage.journal⟩

def finish (run : Run) : Ended :=
  let (files, saved) := run.save.store run.files run.savePath
  { result :=
      if saved then
        .ok ⟨run.ticks, run.sceneChanges, run.stage.activeIndex?⟩
      else
        .error (.session .unwritten)
    files := files
    journal := run.stage.journal }

/-! ## Plain repetition -/

def steps : Nat → Run → Run
  | 0, run => run
  | count + 1, run => steps count run.step

def plain (settings : Settings) (installation : Installation) (host : Host)
    (files : Files) (count : Nat) : Ended :=
  match start settings installation host files with
  | .over ended => ended
  | .running run => (run.steps (max count 1)).finish

/-! ## Frames -/

/-- Whether a run has counted all its ticks. -/
def isDone (limit : Option UInt64) (run : Run) : Bool :=
  limit.any fun limit => limit ≤ run.ticks

/-- The ticks of a frame; they stop as soon as the run is done. -/
def frameTicks (limit : Option UInt64) : Nat → Run → Run
  | 0, run => run
  | count + 1, run =>
      let next := run.step
      if next.isDone limit then next else frameTicks limit count next

/-- The pace of a run: the length of a tick, the longest frame, and the most
ticks in a frame. -/
structure Pace where
  tick : Nat
  longestFrame : Nat
  ticksPerFrame : Nat
deriving DecidableEq, Repr

/-- The pace that settings ask for; values that make no sense are replaced. -/
def Pace.ofSettings (settings : Settings) : Pace where
  tick := tickLength (max settings.ticksPerSecond 1)
  longestFrame := nonZeroTime settings.longestFrame 250000000
  ticksPerFrame := max settings.ticksPerFrame 1

/-- The moment of the last frame and the time carried over from it. -/
structure Clock where
  last : Nat
  carried : Nat
deriving DecidableEq, Repr

/-- The clock of a run that starts at a moment. The first frame runs a tick at
once. -/
def Clock.starting (pace : Pace) (now : Nat) : Clock := ⟨now, pace.tick⟩

/-- The plan of a frame at a moment, and the clock after it. -/
def Clock.frame (pace : Pace) (clock : Clock) (now : Nat) :
    StepPlan × Clock :=
  let elapsed := clampFrame (now - clock.last) pace.longestFrame
  let plan :=
    StepPlan.ofTime (clock.carried + elapsed) pace.tick pace.ticksPerFrame
  (plan, ⟨now, plan.remaining⟩)

/-- Runs frames at the given moments until the run is done; `none` if the
moments run out before that. -/
def frames (pace : Pace) (limit : Option UInt64) :
    List Nat → Clock → Run → Option Run
  | [], _, _ => none
  | now :: later, clock, run =>
      let (plan, next) := clock.frame pace now
      let after := frameTicks limit plan.ticks run
      if after.isDone limit then
        some after
      else
        frames pace limit later next after

/-- The whole run with frames at the given moments, its clock set at the moment at
which it `began`; `none` if the moments run out. -/
def clocked (settings : Settings) (installation : Installation) (host : Host)
    (files : Files) (began : Nat) (moments : List Nat) : Option Ended :=
  match start settings installation host files with
  | .over ended => some ended
  | .running run =>
      let pace := Pace.ofSettings settings
      let clock := Clock.starting pace began
      (frames pace settings.maxTicks moments clock run).map finish

/-- The whole run with frames at the given moments, the first of which is its
start; `none` if the moments run out. -/
def timed (settings : Settings) (installation : Installation) (host : Host)
    (files : Files) (moments : List Nat) : Option Ended :=
  clocked settings installation host files (moments.headD 0) moments

/-- Moments for frames that have time for one tick each; there is always a first
frame. -/
def steadyMoments (pace : Pace) (count : Nat) : List Nat :=
  (List.range (max count 1)).map fun frame => frame * pace.tick

end Run

end Stagecraft
