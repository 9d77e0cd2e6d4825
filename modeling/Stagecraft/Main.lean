import Stagecraft.Loop.Run

/-!
# Main

The program itself: it runs the project that the environment names, without
picture or sound, at the pace of the clock. What a run can look at is read from
the disk before it starts, and what it saves is written after each frame.
-/

namespace Stagecraft.Console

/-! ## The disk -/

def probe (path : String) : IO (Option FileEntry) := do
  try
    return some (.file (← IO.FS.readBinFile path))
  catch _ =>
    try
      let _ ← IO.FS.realPath (path ++ "/.")
      return some .folder
    catch _ =>
      return none

def gather (root : String) (paths : List String) (files : Files) : IO Files :=
  paths.foldlM
    (fun files path => do
      match ← probe (Path.join root path) with
      | some entry => return files.plant path entry
      | none => return files)
    files

def markers : List String := Installation.manifest :: Installation.folders

/-- All that a run of a project can look at. -/
def survey (root : String) (settings : Settings) : IO Files := do
  let installation := Installation.ofRoot ""
  let savePath := Path.join installation.cache settings.saveFile
  let paths :=
    markers ++ [installation.cache, savePath, Path.staging savePath,
      Library.mapPath installation.content]
  let files ← gather root paths Files.empty
  match Library.sceneMap ⟨files, installation.content⟩ with
  | .ok map =>
      gather root
        (Library.loadablePaths installation.content settings.language map) files
  | .error _ => return files

def writeSave (root savePath : String) (content : ByteArray) : IO Bool := do
  let staging := Path.join root (Path.staging savePath)
  try
    IO.FS.createDirAll (Path.join root (Path.parent savePath))
    IO.FS.writeBinFile staging content
    IO.FS.rename staging (Path.join root savePath)
    return true
  catch _ =>
    try IO.FS.removeFile staging catch _ => pure ()
    return false

def keep (root savePath : String) (before after : Files) : IO Bool := do
  match before.read savePath, after.read savePath with
  | .ok old, .ok new =>
      if old.data = new.data then return true else writeSave root savePath new
  | .error _, .ok new => writeSave root savePath new
  | _, .error _ => return true

/-! ## The run -/

def tell (warnings : List Warning) : IO Unit :=
  warnings.forM fun warning => IO.eprintln warning.name

def fail (message : String) : IO UInt32 := do
  IO.eprintln message
  return 1

def conclude (root savePath : String) (before : Files) (ended : Ended) :
    IO UInt32 := do
  tell ended.journal.warnings
  match ended.result with
  | .error error => fail (error.message savePath)
  | .ok _ =>
      if ← keep root savePath before ended.files then
        return 0
      else
        fail (RunError.message savePath (.session .unwritten))

/-- Plays frames until the run is done. -/
partial def play (root : String) (pace : Run.Pace) (limit : Option UInt64)
    (clock : Run.Clock) (run : Run) : IO UInt32 := do
  let (plan, next) := clock.frame pace (← IO.monoNanosNow)
  let after := Run.frameTicks limit plan.ticks run
  if after.isDone limit then
    conclude root run.savePath run.files after.finish
  else
    tell after.stage.journal.warnings
    unless ← keep root run.savePath run.files after.files do
      tell [.checkpointFailed run.savePath .unwritten]
    IO.sleep ((pace.tick - next.carried) / 1000000).toUInt32
    play root pace limit next
      { after with stage := { after.stage with journal := #[] } }

/-! ## The start -/

/-- Where the project is: at the path that the environment names, or else in the
nearest folder above the program that looks like one. -/
def findRoot : IO (Except StartupError String) := do
  match ← IO.getEnv rootVariable with
  | some path =>
      try
        return .ok (← IO.FS.realPath path).toString
      catch _ =>
        return .ok path
  | none =>
      let program := (← IO.appPath).toString
      let folders := (Path.ancestors program).drop 1
      let found ← folders.findM? fun folder => do
        return Installation.isProject (← gather folder markers Files.empty) ""
      match found with
      | some folder => return .ok folder
      | none => return .error (.rootNotFound (folders.headD "/"))

def readSettings : IO (Settings × List Warning) := do
  let values ← Settings.variableNames.mapM fun name => do
    return (name, ← IO.getEnv name)
  return Settings.ofEnvironment fun name => (values.lookup name).join

def runProject (root : String) (settings : Settings) : IO UInt32 := do
  let files ← survey root settings
  match Installation.atPath root files root with
  | .error error => fail error.message
  | .ok (installation, ready) =>
      try
        IO.FS.createDirAll (Path.join root installation.cache)
      catch _ =>
        return ← fail (StartupError.message (.cacheNotMade installation.cache))
      match Run.start settings installation Host.headless ready with
      | .over ended =>
          conclude root (Path.join installation.cache settings.saveFile) ready
            ended
      | .running run =>
          let pace := Run.Pace.ofSettings settings
          let clock := Run.Clock.starting pace (← IO.monoNanosNow)
          play root pace settings.maxTicks clock run

end Stagecraft.Console

def main : IO UInt32 := do
  let (settings, invalid) ← Stagecraft.Console.readSettings
  Stagecraft.Console.tell invalid
  match ← Stagecraft.Console.findRoot with
  | .error error => Stagecraft.Console.fail error.message
  | .ok root => Stagecraft.Console.runProject root settings
