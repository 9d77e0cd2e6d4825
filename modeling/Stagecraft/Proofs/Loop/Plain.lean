import Stagecraft.Proofs.Files.Rewriting
import Stagecraft.Proofs.Loop.Contents
import Stagecraft.Proofs.Loop.Frames
import Stagecraft.Proofs.Loop.Rallies

/-!
# Runs on a clock

A run that is limited and ends is a plain iteration of turns, whatever its clock
says. What it saves at its end is what the next run starts from.
-/

namespace Stagecraft

namespace Run

/-! ## Clocks -/

section Clocks

variable {settings : Settings} {installation : Installation} {host : Host}
  {files : Files} {run : Run}

/-- A run on a clock that ends has made the steps up to its limit. -/
theorem eq_finish_of_clocked {limit : UInt64} {began : Nat}
    {moments : List Nat} {ended : Ended} (bounded : settings.maxTicks = some limit)
    (opened : start settings installation host files = .running run)
    (ends : clocked settings installation host files began moments =
      some ended) :
    ended = (run.steps (max limit.toNat 1)).finish := by
  obtain ⟨opens, sound⟩ := opens_of_start opened
  unfold clocked at ends
  rw [opened, bounded] at ends
  obtain ⟨after, framed, rfl⟩ := Option.map_eq_some_iff.mp ends
  have ready := ticks_frame_starting settings began
  rw [frames_eq_steps sound (.inr ready) framed, left, opens.ticks]
  rfl

/-- A run ends with its first frame if that has time for all ticks. -/
theorem clocked_of_ample {limit : UInt64} {began now : Nat} (later : List Nat)
    (bounded : settings.maxTicks = some limit)
    (opened : start settings installation host files = .running run)
    (ample : max limit.toNat 1 ≤
      ((Clock.starting (Pace.ofSettings settings) began).frame
        (Pace.ofSettings settings) now).1.ticks) :
    clocked settings installation host files began (now :: later) =
      some (run.steps (max limit.toNat 1)).finish := by
  obtain ⟨opens, sound⟩ := opens_of_start opened
  have all : run.left limit = max limit.toNat 1 := by
    rw [left, opens.ticks]
    rfl
  unfold clocked
  rw [opened, bounded]
  dsimp only
  rw [frames_of_ample sound (by rwa [all]), all]
  rfl

/-- A run that is limited ends on some clock, if a frame has time for a tick. -/
theorem exists_clocked {limit : UInt64} (bounded : settings.maxTicks = some limit)
    (opened : start settings installation host files = .running run)
    (long : (Pace.ofSettings settings).tick ≤
      (Pace.ofSettings settings).longestFrame) (began : Nat) :
    ∃ moments,
      clocked settings installation host files began moments =
        some (run.steps (max limit.toNat 1)).finish := by
  obtain ⟨_, sound⟩ := opens_of_start opened
  have allowed : 0 < (Pace.ofSettings settings).ticksPerFrame :=
    Nat.lt_of_lt_of_le Nat.zero_lt_one (Nat.le_max_right _ 1)
  obtain ⟨moments, after, framed⟩ :=
    @exists_frames_eq_some run limit (Pace.ofSettings settings)
      (Clock.starting (Pace.ofSettings settings) began) sound long allowed
  have ends : clocked settings installation host files began moments =
      some after.finish := by
    unfold clocked
    rw [opened, bounded]
    exact congrArg (Option.map finish) framed
  exact ⟨moments, ends.trans
    (congrArg some (eq_finish_of_clocked bounded opened ends))⟩

end Clocks

/-! ## Ends -/

section End

variable {run : Run} {summary : Summary}

theorem summary_of_finish (ended : run.finish.result = .ok summary) :
    summary =
      ⟨run.ticks, run.sceneChanges, run.stage.activeIndex?⟩ := by
  unfold finish at ended
  generalize run.save.store run.files run.savePath = written at ended
  obtain ⟨files, saved⟩ := written
  cases saved with
  | true => exact (Except.ok.inj ended).symm
  | false => cases ended

/-- Whether a summary tells of a number of ticks, of a number of scene changes as far
as its counter goes, and of a scene. -/
structure Tells (summary : Summary) (ticks changes : Nat)
    (scene : SceneIndex) : Prop where
  ticks : summary.ticks.toNat = ticks
  changes : summary.sceneChanges.toNat = min changes (UInt32.size - 1)
  scene : summary.finalScene = some scene

/-- The summary of a run that was opened and has made its steps. -/
theorem tells_of_finish {settings : Settings} {installation : Installation}
    {files : Files} (opens : run.Opens settings installation files)
    (sound : run.Sound) {count : Nat} (counts : count < UInt64.size)
    {scene : SceneIndex}
    (active : (run.steps count).stage.activeIndex? = some scene)
    (ended : (run.steps count).finish.result = .ok summary) :
    Tells summary count ((List.range count).countP run.movesAt) scene := by
  have ticks := ticks_steps sound count
  have changes := sceneChanges_steps sound count
  rw [opens.ticks, UInt64.toNat_zero, Nat.zero_add] at ticks
  rw [opens.sceneChanges, UInt32.toNat_zero, Nat.zero_add] at changes
  rw [summary_of_finish ended]
  exact ⟨ticks.trans (Nat.min_eq_left (Nat.le_sub_one_of_lt counts)), changes,
    active⟩

/-- What a run that ended well has saved can be loaded. -/
theorem load_of_finish (tidy : run.game.Tidy)
    (ended : run.finish.result = .ok summary) :
    Save.load run.finish.files run.savePath = .ok run.save := by
  unfold finish at ended ⊢
  cases written : run.save.store run.files run.savePath with
  | mk files saved =>
      cases saved with
      | true =>
          have ascends : run.save.Ascends :=
            Save.ascends_ofSession tidy _ _
          exact Save.load_of_store rfl ascends written
      | false =>
          rw [written] at ended
          cases ended

end End

/-! ## Saves of a run -/

section Saves

variable {run : Run}

theorem files_finish (run : Run) :
    run.finish.files =
      (run.files.writeAtomic run.savePath run.save.text).1 := by
  unfold finish Save.store
  generalize run.files.writeAtomic run.savePath run.save.text = written
  obtain ⟨files, saved⟩ := written
  rfl

theorem result_finish_of_takesWrites (takes : run.files.TakesWrites run.savePath) :
    run.finish.result =
      .ok ⟨run.ticks, run.sceneChanges, run.stage.activeIndex?⟩ := by
  have saved : (run.save.store run.files run.savePath).2 = true :=
    takes run.save.text
  unfold finish
  generalize run.save.store run.files run.savePath = written at saved ⊢
  obtain ⟨files, done⟩ := written
  obtain rfl : done = true := saved
  rfl

/-- A run whose save file can be written can go on writing it. -/
theorem takesWrites_steps (sound : run.Sound)
    (takes : run.files.TakesWrites run.savePath) (count : Nat) :
    (run.steps count).files.TakesWrites (run.steps count).savePath := by
  induction count with
  | zero => exact takes
  | succ count inductionHypothesis =>
      have turns := turnsInto_steps sound count
      rw [turns.savePath]
      cases succeeds : (run.steps count).turn.succeeds with
      | true =>
          rw [(turns.succeeds succeeds).2.2.1]
          exact inductionHypothesis.writeAtomic _
      | false =>
          rw [(turns.stays succeeds).2.2.1]
          exact inductionHypothesis

/-- A run through scenes that send everybody on tells of fewer moves than it has made
if they are more than its counter holds. -/
theorem tells_of_rallies {settings : Settings} {installation : Installation}
    {host : Host} {files : Files} {following : SceneIndex → SceneIndex}
    (opened : start settings installation host files = .running run)
    (rallies : run.stage.Rallies following)
    (takes : run.files.TakesWrites run.savePath) {count : Nat}
    (counts : count < UInt64.size) :
    (List.range count).countP run.movesAt = count ∧
      ∃ summary, (run.steps count).finish.result = .ok summary ∧
        summary.ticks.toNat = count ∧
        summary.sceneChanges.toNat = min count (UInt32.size - 1) := by
  obtain ⟨opens, sound⟩ := opens_of_start opened
  have moves := countP_movesAt_of_rallies sound rallies count
  have ended := result_finish_of_takesWrites (takesWrites_steps sound takes count)
  obtain ⟨scene, shows⟩ := (sound.steps count).shows
  have tells := tells_of_finish opens sound counts shows.activeIndex? ended
  rw [moves] at tells
  exact ⟨moves, _, ended, tells.ticks, tells.changes⟩

end Saves

/-! ## A relay -/

def relayMap : String :=
  "<SceneMap><Scene index=\"0\" kind=\"iso\" isoIndex=\"0\"/>" ++
    "<Scene index=\"1\" kind=\"iso\" isoIndex=\"0\"/></SceneMap>"

/-- A scene whose only actor asks for the second scene. -/
def relayScene : String :=
  "\x7b\"ambience\":\x7b\"music_track\":1\x7d,\"actors\":[\x7b" ++
    "\"name\":\"hero\"," ++
    "\"life\":[\x7b\"op\":\"CHANGE_SCENE\",\"index\":1\x7d]\x7d]\x7d"

def relayScenery : String := "\x7b\"name\":\"iso_000\"\x7d"

/-- The content of a relay, without a save. The second scene is like the first, so
it asks for itself. -/
def relayFiles : Files :=
  ⟨[(["a"], .folder), (["a", "scene_map.xml"], .file relayMap.toUTF8),
    (["a", "scenes"], .folder), (["a", "scenes", "en"], .folder),
    (["a", "scenes", "en", "scene_000.json"], .file relayScene.toUTF8),
    (["a", "scenes", "en", "scene_001.json"], .file relayScene.toUTF8),
    (["a", "sceneries"], .folder),
    (["a", "sceneries", "iso_000.json"], .file relayScenery.toUTF8)]⟩

def relayTexts : List (String × String) :=
  [("a/scene_map.xml", relayMap), ("a/scenes/en/scene_000.json", relayScene),
    ("a/sceneries/iso_000.json", relayScenery)]

theorem holds_relay : Library.Holds ⟨relayFiles, "a"⟩ relayTexts :=
  .cons ["a", "scene_map.xml"] (by decide) rfl
      (by decide) <|
  .cons ["a", "scenes", "en", "scene_000.json"] (by decide) rfl
      (by decide) <|
  .cons ["a", "sceneries", "iso_000.json"] (by decide) rfl
      (by decide) <|
  Library.holds_nil _

def relaySettings : Settings := { Settings.default with maxTicks := some 3 }

theorem restore_relay :
    restore relayFiles (Path.join "c" relaySettings.saveFile) =
      (GameBank.fresh, none, []) :=
  restore_of_not_isFile (by decide)

theorem opening_relay :
    (Library.opening ⟨relayFiles, "a"⟩ relayTexts relaySettings.language
      GameBank.fresh (startScene relaySettings.startScene none)
      fun _ _ => ()).toOption = some () := by
  decide +kernel

theorem firstSceneLoads_relay :
    FirstSceneLoads relaySettings ⟨"", "a", "c"⟩ relayFiles := by
  obtain ⟨map, family, mapped, loads, _⟩ :=
    Library.exists_of_opening holds_relay opening_relay
  unfold FirstSceneLoads
  dsimp only
  rw [restore_relay]
  exact ⟨map, family, mapped, loads⟩

/-! ## A rally -/

/-- A map of two scenes on one island. -/
def rallyMap : String :=
  "<SceneMap><Scene index=\"0\" kind=\"island\" island=\"dawn\" " ++
    "section=\"0\" variant=\"0\"/><Scene index=\"1\" kind=\"island\" " ++
    "island=\"dawn\" section=\"0\" variant=\"0\"/></SceneMap>"

/-- A scene whose second actor asks for a scene in every tick. -/
def rallyScene (other : String) : String :=
  "\x7b\"ambience\":\x7b\"music_track\":1\x7d,\"actors\":[\x7b" ++
    "\"name\":\"hero\"\x7d,\x7b\"name\":\"rival\",\"life\":[\x7b" ++
    "\"op\":\"CHANGE_SCENE\",\"index\":" ++ other ++ "\x7d,\x7b" ++
    "\"op\":\"JUMP\",\"target\":0\x7d]\x7d]\x7d"

def dawnScenery : String :=
  "\x7b\"name\":\"dawn\",\"sections\":[\x7b\"x\":0,\"z\":0\x7d]\x7d"

def rallyFiles : Files :=
  ⟨[(["a"], .folder), (["a", "scene_map.xml"], .file rallyMap.toUTF8),
    (["a", "scenes"], .folder), (["a", "scenes", "en"], .folder),
    (["a", "scenes", "en", "scene_000.json"], .file (rallyScene "1").toUTF8),
    (["a", "scenes", "en", "scene_001.json"], .file (rallyScene "0").toUTF8),
    (["a", "sceneries"], .folder),
    (["a", "sceneries", "island_dawn.json"], .file dawnScenery.toUTF8)]⟩

def rallyTexts : List (String × String) :=
  [("a/scene_map.xml", rallyMap),
    ("a/scenes/en/scene_000.json", rallyScene "1"),
    ("a/scenes/en/scene_001.json", rallyScene "0"),
    ("a/sceneries/island_dawn.json", dawnScenery)]

theorem holds_rally : Library.Holds ⟨rallyFiles, "a"⟩ rallyTexts :=
  .cons ["a", "scene_map.xml"] (by decide) rfl
      (by decide) <|
  .cons ["a", "scenes", "en", "scene_000.json"] (by decide) rfl
      (by decide) <|
  .cons ["a", "scenes", "en", "scene_001.json"] (by decide) rfl
      (by decide) <|
  .cons ["a", "sceneries", "island_dawn.json"] (by decide) rfl
      (by decide) <|
  Library.holds_nil _

/-- The settings of a run of as many ticks as there are words of 32 bits. -/
def rallySettings : Settings :=
  { Settings.default with maxTicks := some 4294967296 }

def otherScene (index : SceneIndex) : SceneIndex := 1 - index

/-- Whether a loaded scene is to send everybody to the other one. -/
def sendsOver (scene : LoadedScene) : Bool :=
  decide (scene.zones = [] ∧
    scene.actors.map
        (fun actor => (actor.life.commands, actor.move.commands)) =
      [([], []), ([.changeScene (otherScene scene.index), .jump 0], [])])

theorem opening_rally :
    (Library.opening ⟨rallyFiles, "a"⟩ rallyTexts rallySettings.language
      GameBank.fresh (startScene rallySettings.startScene none)
      fun map family =>
        (map.scenes, (family.main :: family.sides).all sendsOver)).toOption =
      some ([.island ⟨"dawn", 0, 0⟩, .island ⟨"dawn", 0, 0⟩], true) := by
  decide +kernel

theorem mem_sideScenes_rally {map : SceneMap}
    (scenes : map.scenes = [.island ⟨"dawn", 0, 0⟩, .island ⟨"dawn", 0, 0⟩])
    {index : SceneIndex} {kind : SceneKind} (known : map.kind? index = some kind) :
    otherScene index ∈ map.sideScenes index := by
  rw [SceneMap.kind?, scenes] at known
  have inside : index.toNat < 2 := (List.getElem?_eq_some_iff.mp known).1
  obtain rfl | rfl : index = 0 ∨ index = 1 := by
    rw [← UInt32.toNat_inj, ← UInt32.toNat_inj, UInt32.toNat_zero,
      UInt32.toNat_one]
    omega
  · simp only [SceneMap.sideScenes, SceneMap.kind?, SceneMap.entries, scenes]
    decide
  · simp only [SceneMap.sideScenes, SceneMap.kind?, SceneMap.entries, scenes]
    decide

theorem exists_start_rally :
    ∃ run,
      start rallySettings ⟨"", "a", "c"⟩ Host.quiet rallyFiles = .running run ∧
        run.stage.Rallies otherScene ∧
        run.files.TakesWrites run.savePath := by
  have absent :
      rallyFiles.isFile (Path.join "c" rallySettings.saveFile) = false := by
    decide
  have saves :
      (rallyFiles.writeAtomic (Path.join "c" rallySettings.saveFile) "").2 =
        true := by
    decide
  obtain ⟨run, map, family, opened, -, files, -, same, -, checked⟩ :=
    @exists_start_of_opening _ rallySettings ⟨"", "a", "c"⟩ Host.quiet _ _ _ _
      absent holds_rally opening_rally
  obtain ⟨scenes, sends⟩ := Prod.mk.inj checked
  obtain ⟨opens, sound⟩ := opens_of_start opened
  refine ⟨run, opened, ?_, ?_⟩
  · refine Stage.rallies_of_unlogged same sound.shows (fun part listed => ?_)
      (by decide) fun index kind known => mem_sideScenes_rally scenes known
    obtain ⟨zones, commands⟩ :=
      of_decide_eq_true (List.all_eq_true.mp sends part listed)
    exact ⟨zones, commands⟩
  · rw [files, opens.savePath]
    exact Files.takesWrites_of_done saves

/-! ## Dusk -/

/-- A map of one scene, whose island gives way to another one as soon as a variable is
set. -/
def duskMap : String :=
  "<SceneMap><Scene index=\"0\" kind=\"island\" island=\"dawn\" " ++
    "section=\"0\" variant=\"0\"/><IslandOverride gameVar=\"0\" " ++
    "from=\"dawn\" to=\"dusk\"/></SceneMap>"

/-- A scene whose actor sets that variable. -/
def duskScene : String :=
  "\x7b\"ambience\":\x7b\"music_track\":1\x7d,\"actors\":[\x7b" ++
    "\"name\":\"hero\",\"life\":[\x7b\"op\":\"SET_VAR_GAME\"," ++
    "\"index\":0,\"value\":1\x7d]\x7d]\x7d"

/-- The content of the scene, without a save. The other island has no scenery. -/
def duskFiles : Files :=
  ⟨[(["a"], .folder), (["a", "scene_map.xml"], .file duskMap.toUTF8),
    (["a", "scenes"], .folder), (["a", "scenes", "en"], .folder),
    (["a", "scenes", "en", "scene_000.json"], .file duskScene.toUTF8),
    (["a", "sceneries"], .folder),
    (["a", "sceneries", "island_dawn.json"], .file dawnScenery.toUTF8)]⟩

def duskTexts : List (String × String) :=
  [("a/scene_map.xml", duskMap), ("a/scenes/en/scene_000.json", duskScene),
    ("a/sceneries/island_dawn.json", dawnScenery)]

theorem holds_dusk : Library.Holds ⟨duskFiles, "a"⟩ duskTexts :=
  .cons ["a", "scene_map.xml"] (by decide) rfl
      (by decide) <|
  .cons ["a", "scenes", "en", "scene_000.json"] (by decide) rfl
      (by decide) <|
  .cons ["a", "sceneries", "island_dawn.json"] (by decide) rfl
      (by decide) <|
  Library.holds_nil _

def duskSettings : Settings := { Settings.default with maxTicks := some 1 }

/-- What the first tick of a stage asks for, and the first variable after it. -/
def firstTick (stage : Stage) : Option SceneIndex × Int32 :=
  let (report, game, _) := stage.tick GameBank.fresh
  (requestedScene report.events, game.value 0)

theorem firstTick_unlogged (stage : Stage) :
    firstTick stage.unlogged = firstTick stage := by
  obtain ⟨report, game⟩ := stage.tick_unlogged GameBank.fresh
  unfold firstTick
  dsimp only
  rw [report, game]

def duskStage (map : SceneMap) (family : LoadedFamily) : Stage :=
  (Stage.bare map
    ⟨duskSettings.language, duskSettings.editorMarkers,
      max duskSettings.stepBudget 1⟩ Host.quiet).replace none family

theorem opening_dusk :
    (Library.opening ⟨duskFiles, "a"⟩ duskTexts duskSettings.language
      GameBank.fresh (startScene duskSettings.startScene none)
      fun map family =>
        (map.kind? 0, map.overrides, firstTick (duskStage map family))).toOption =
      some (some (.island ⟨"dawn", 0, 0⟩), [⟨0, "dawn", "dusk"⟩], none, 1) := by
  decide +kernel

def duskPath : String := Path.join "c" duskSettings.saveFile

theorem takesWrites_dusk : duskFiles.TakesWrites duskPath :=
  Files.takesWrites_of_done
    (show (duskFiles.writeAtomic duskPath "").2 = true by decide)

/-- The run leaves its content alone, sets the variable and stays where it is. -/
theorem exists_start_dusk :
    ∃ run,
      start duskSettings ⟨"", "a", "c"⟩ Host.quiet duskFiles = .running run ∧
        run.step.files = duskFiles ∧ run.step.savePath = duskPath ∧
        run.step.game.value 0 = 1 ∧ run.step.stage.activeIndex? = some 0 ∧
        ∃ map, Library.sceneMap ⟨duskFiles, "a"⟩ = .ok map ∧
          map.kind? 0 = some (.island ⟨"dawn", 0, 0⟩) ∧
          map.overrides = [⟨0, "dawn", "dusk"⟩] := by
  have absent : duskFiles.isFile duskPath = false := by decide
  obtain ⟨run, map, family, opened, -, files, fresh, same, mapped, checked⟩ :=
    @exists_start_of_opening _ duskSettings ⟨"", "a", "c"⟩ Host.quiet _ _ _ _
      absent holds_dusk opening_dusk
  obtain ⟨kind, rules⟩ := Prod.mk.inj checked
  obtain ⟨overrides, first⟩ := Prod.mk.inj rules
  have first : firstTick run.stage = (none, 1) := by
    rw [← firstTick_unlogged, same, firstTick_unlogged]
    exact first
  obtain ⟨opens, sound⟩ := opens_of_start opened
  obtain ⟨index, shows⟩ := sound.shows
  have active : run.stage.activeIndex? = some 0 := by
    rw [opens.scene, opens.savePath]
    exact congrArg (fun session => some (startScene none session.2.1))
      (restore_of_not_isFile absent)
  have still := (Stage.shows_tick shows run.game).activeIndex?
  rw [← shows.activeIndex?, active] at still
  unfold firstTick at first
  rw [← fresh] at first
  refine ⟨run, opened, ?_⟩
  unfold step
  generalize run.stage.tick run.game = played at first still ⊢
  obtain ⟨report, game, ticked⟩ := played
  obtain ⟨quiet, value⟩ := Prod.mk.inj first
  simp only [quiet]
  exact ⟨files, opens.savePath, value, still, map, mapped, kind, overrides⟩

theorem readText_duskMap :
    duskFiles.readText "a/scene_map.xml" = .ok duskMap :=
  holds_dusk ("a/scene_map.xml", duskMap) List.mem_cons_self

/-- A save leaves the map. -/
theorem sceneMap_dusk (text : String) :
    Library.sceneMap ⟨(duskFiles.writeAtomic duskPath text).1, "a"⟩ =
      Library.sceneMap ⟨duskFiles, "a"⟩ := by
  have path : Library.mapPath "a" = "a/scene_map.xml" := by decide
  have elsewhere : Place.ofPath "a/scene_map.xml" ≠ Place.ofPath duskPath := by
    decide
  have beside : Place.ofPath "a/scene_map.xml" ≠
      Place.ofPath (Path.staging duskPath) := by
    decide
  have still :=
    takesWrites_dusk.readText text elsewhere beside readText_duskMap
  simp only [Library.sceneMap, Library.textOf, path, still, readText_duskMap]

/-- The scenery of the other island is nowhere, before and after a save. -/
theorem not_loads_duskScenery (text : String) (ambience : Ambience)
    (scenery : Scenery) :
    Library.answer ⟨(duskFiles.writeAtomic duskPath text).1, "a"⟩
      (.scenery (.island "dusk") ambience) ≠ .ok scenery := by
  intro answered
  have loads : Library.load ⟨(duskFiles.writeAtomic duskPath text).1, "a"⟩
      Scenery.reader (Library.sceneryPath "a" (.island "dusk")) = .ok scenery :=
    answered
  obtain ⟨content, found⟩ :
      ∃ content, (duskFiles.writeAtomic duskPath text).1.readText
        (Library.sceneryPath "a" (.island "dusk")) = .ok content :=
    Library.readText_of_load loads
  have elsewhere : Place.ofPath (Library.sceneryPath "a" (.island "dusk")) ≠
      Place.ofPath duskPath := by
    decide
  have beside : Place.ofPath (Library.sceneryPath "a" (.island "dusk")) ≠
      Place.ofPath (Path.staging duskPath) := by
    decide
  have missing : (duskFiles.content?
      (Place.ofPath (Library.sceneryPath "a" (.island "dusk")))).isSome =
        false := by
    decide
  have stood := Files.content?_of_readText_writeAtomic elsewhere beside found
  exact absurd (missing.symm.trans stood) Bool.false_ne_true

/-- With the variable set, the scene does not load any more. -/
theorem not_firstSceneLoads_dusk {map : SceneMap}
    (mapped : Library.sceneMap ⟨duskFiles, "a"⟩ = .ok map)
    (kind : map.kind? 0 = some (.island ⟨"dawn", 0, 0⟩))
    (overrides : map.overrides = [⟨0, "dawn", "dusk"⟩]) (text : String)
    (scene :
      (restore (duskFiles.writeAtomic duskPath text).1 duskPath).2.1 = some 0)
    (value :
      (restore (duskFiles.writeAtomic duskPath text).1 duskPath).1.value 0 = 1) :
    ¬ FirstSceneLoads duskSettings ⟨"", "a", "c"⟩
      (duskFiles.writeAtomic duskPath text).1 := by
  have same := sceneMap_dusk text
  have missing := not_loads_duskScenery text
  generalize (duskFiles.writeAtomic duskPath text).1 = files at *
  rintro ⟨other, family, read, loads⟩
  change LoadContext.familyInOrder _
    ⟨other, _, (restore files duskPath).1⟩
    (startScene duskSettings.startScene (restore files duskPath).2.1) = _ at loads
  rw [scene] at loads
  generalize (restore files duskPath).1 = game at value loads
  obtain rfl : map = other :=
    Except.ok.inj ((same.trans mapped).symm.trans read)
  have key : LoadContext.sceneryKey ⟨map, duskSettings.language, game⟩
      (.island ⟨"dawn", 0, 0⟩) = .island "dusk" := by
    have applies : IslandOverride.applies ⟨0, "dawn", "dusk"⟩ "dawn" game =
        true := by
      have one : (game.get? 0).getD 0 = 1 := value
      simp [IslandOverride.applies, one]
    simp [LoadContext.sceneryKey, SceneMap.resolveIsland, overrides, applies]
  obtain ⟨ambience, scenery, answered⟩ :=
    LoadContext.scenery_of_familyInOrder loads kind
  rw [key] at answered
  exact missing ambience scenery answered

/-! ## Whole runs -/

/-- A limited run whose first scene loads is a plain iteration of turns, as many as
the limit asks for and at least one, whatever its clock says. If it ends well, it
has counted the turns that moved to another scene, as far as its counter goes, and its
save leads a later run to where it left off, unless that asks for a scene itself: the
later run restores the scene and all values, and opens the scene if it loads with
them. -/
theorem clocked_run_is_plain {settings : Settings}
    {installation : Installation} (host : Host) {files : Files}
    {limit : UInt64} (bounded : settings.maxTicks = some limit)
    (loads : FirstSceneLoads settings installation files) :
    ∃ run, start settings installation host files = .running run ∧
      run.Opens settings installation files ∧
      let count := max limit.toNat 1
      let last := run.steps count
      (∀ turn < count, (run.steps turn).TurnsInto (run.steps (turn + 1))) ∧
        (∀ began moments ended,
          clocked settings installation host files began moments =
              some ended →
            ended = last.finish) ∧
        ∀ summary, last.finish.result = .ok summary →
          ∃ scene, last.stage.activeIndex? = some scene ∧
            Tells summary count ((List.range count).countP run.movesAt)
              scene ∧
            Save.load last.finish.files run.savePath =
              .ok (.ofSession last.game scene last.stage.gameReferences) ∧
            last.Restores scene last.finish.files ∧
            ∀ (settings : Settings) (installation : Installation)
                (host : Host),
              settings.startScene = none →
              Path.join installation.cache settings.saveFile =
                  run.savePath →
              FirstSceneLoads settings installation last.finish.files →
                ∃ next,
                  start settings installation host last.finish.files =
                      .running next ∧
                    last.Continues next := by
  obtain ⟨run, opened⟩ :
      ∃ run, start settings installation host files = .running run :=
    start_eq_running_iff.mpr loads
  obtain ⟨opens, sound⟩ := opens_of_start opened
  refine ⟨run, opened, opens, ?_⟩
  intro count last
  have soundLast : last.Sound := sound.steps count
  refine ⟨fun turn _ => turnsInto_steps sound turn, ?_, ?_⟩
  · intro began moments ended ends
    exact eq_finish_of_clocked bounded opened ends
  intro summary ok
  obtain ⟨scene, shows⟩ := soundLast.shows
  have active := shows.activeIndex?
  have path : last.savePath = run.savePath := savePath_steps sound count
  have loaded := load_of_finish soundLast.tidy ok
  refine ⟨scene, active, tells_of_finish opens sound ?_ active ok, ?_,
    restores_of_load soundLast active loaded, ?_⟩
  · exact max_lt limit.toNat_lt_size (by decide)
  · rw [← path, loaded, ← active]
    rfl
  · intro settings installation host free place again
    obtain ⟨next, started⟩ := start_eq_running_iff.mpr again
    have continues :=
      continues_of_load soundLast loaded free (place.trans path.symm) started
    exact ⟨next, started, continues⟩

/-- A run of a relay plays three turns, also if a single frame has time for five
ticks. -/
theorem clocked_run_is_plain_relay :
    ∃ run,
      start relaySettings ⟨"", "a", "c"⟩ Host.quiet relayFiles =
          .running run ∧
        run.stage.activeIndex? = some 0 ∧
        (∀ turn < 3, (run.steps turn).TurnsInto (run.steps (turn + 1))) ∧
        clocked relaySettings ⟨"", "a", "c"⟩ Host.quiet relayFiles 0
            [1000000000] =
          some (run.steps 3).finish := by
  obtain ⟨run, opened, opens, turns, plain, _⟩ :=
    clocked_run_is_plain Host.quiet rfl firstSceneLoads_relay
  have begins : run.stage.activeIndex? = some 0 := by
    rw [opens.scene, opens.savePath, restore_relay]
    rfl
  have bounded : relaySettings.maxTicks = some 3 := rfl
  have ample : max 3 1 ≤
      ((Clock.starting (Pace.ofSettings relaySettings) 0).frame
        (Pace.ofSettings relaySettings) 1000000000).1.ticks := by
    decide
  have ends := clocked_of_ample [] bounded opened ample
  exact ⟨run, opened, begins, turns, ends⟩

/-- Not every move is told of, and not every save can be opened. A run of as many turns
as there are words of 32 bits, each of which leads to another scene, tells of one
scene change less. And a run that sets a variable by which its scene changes to an
island without a scenery ends well, but a run cannot start from its save. -/
theorem untold_moves_and_unopened_saves :
    (∃ run moments ended summary,
      start rallySettings ⟨"", "a", "c"⟩ Host.quiet rallyFiles =
          .running run ∧
        clocked rallySettings ⟨"", "a", "c"⟩ Host.quiet rallyFiles 0 moments =
          some ended ∧
        ended.result = .ok summary ∧
        summary.ticks.toNat = 4294967296 ∧
        (List.range 4294967296).countP run.movesAt = 4294967296 ∧
        summary.sceneChanges.toNat = 4294967295) ∧
    ∃ moments ended summary,
      clocked duskSettings ⟨"", "a", "c"⟩ Host.quiet duskFiles 0 moments =
          some ended ∧
        ended.result = .ok summary ∧ summary.finalScene = some 0 ∧
        ∀ next, start duskSettings ⟨"", "a", "c"⟩ Host.quiet ended.files ≠
          .running next := by
  constructor
  · obtain ⟨run, opened, rallies, takes⟩ := exists_start_rally
    have bounded : rallySettings.maxTicks = some 4294967296 := rfl
    obtain ⟨moments, ends⟩ := exists_clocked bounded opened (by decide) 0
    obtain ⟨moves, summary, told, ticks, changes⟩ :=
      tells_of_rallies opened rallies takes
        (show max (4294967296 : UInt64).toNat 1 < UInt64.size by decide)
    exact ⟨run, moments, _, summary, opened, ends, told, ticks, moves, changes⟩
  · obtain ⟨run, opened, files, path, value, active, map, mapped, kind,
      overrides⟩ := exists_start_dusk
    have bounded : duskSettings.maxTicks = some 1 := rfl
    obtain ⟨moments, ends⟩ := exists_clocked bounded opened (by decide) 0
    rw [show max (1 : UInt64).toNat 1 = 1 from rfl,
      show run.steps 1 = run.step from rfl] at ends
    have sound : run.step.Sound := (opens_of_start opened).2.step
    have takes : run.step.files.TakesWrites run.step.savePath := by
      rw [files, path]
      exact takesWrites_dusk
    have told := result_finish_of_takesWrites takes
    have loaded := load_of_finish sound.tidy told
    have restores := restores_of_load sound active loaded
    have written := run.step.files_finish
    rw [files, path] at written
    have scene := restores.scene
    have values := restores.values 0
    rw [path, written] at scene values
    refine ⟨moments, _, _, ends, told, active, fun next started => ?_⟩
    refine not_firstSceneLoads_dusk mapped kind overrides _ scene
      (values.trans value) ?_
    rw [← written, ← start_eq_running_iff]
    exact ⟨next, started⟩

end Run

end Stagecraft
