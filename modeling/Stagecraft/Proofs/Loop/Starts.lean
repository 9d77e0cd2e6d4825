import Stagecraft.Proofs.Loop.Turns

/-!
# Starts of runs

A run starts exactly if its first scene loads, with that scene active and with the
restored session. A start from a save that can be loaded goes on in the saved
scene.
-/

namespace Stagecraft

namespace Run

/-! ## Restored sessions -/

theorem tidy_restore (files : Files) (path : String) :
    (restore files path).1.Tidy := by
  unfold restore
  split
  · cases Save.load files path with
    | ok save => exact GameBank.tidy_fresh.restore save
    | error error => exact GameBank.tidy_fresh
  · exact GameBank.tidy_fresh

/-- A save that can be loaded is restored. -/
theorem restore_of_load {files : Files} {path : String} {save : Save}
    (loaded : Save.load files path = .ok save) :
    restore files path =
      (save.restore GameBank.fresh, save.scene,
        (save.growths GameBank.fresh).map fun (index, size) =>
          .gameVariableGrown index size) := by
  have present : files.isFile path = true := by
    cases found : files.readText path with
    | ok text => exact Files.isFile_of_readText found
    | error fault =>
        rw [Save.load, found] at loaded
        cases loaded
  simp only [restore, present, loaded, if_true]

/-! ## First scenes -/

/-- Whether the scene loads that a run opens first: the scene that its settings ask
for, else the saved one, else the first. -/
def FirstSceneLoads (settings : Settings) (installation : Installation)
    (files : Files) : Prop :=
  let (game, saved, _) :=
    restore files (Path.join installation.cache settings.saveFile)
  let library : Library := ⟨files, installation.content⟩
  ∃ map family,
    library.sceneMap = .ok map ∧
      LoadContext.familyInOrder ⟨library.answer, fun _ _ => 0⟩
        ⟨map, settings.language, game⟩
        (startScene settings.startScene saved) = .ok family

/-- Whether a run has just opened its first scene. Nothing is counted or written
yet. -/
structure Opens (settings : Settings) (installation : Installation)
    (files : Files) (run : Run) : Prop where
  content : run.content = installation.content
  savePath : run.savePath = Path.join installation.cache settings.saveFile
  scene : run.stage.activeIndex? =
    some (startScene settings.startScene (restore files run.savePath).2.1)
  game : run.game = (restore files run.savePath).1
  files : run.files = files
  ticks : run.ticks = 0
  sceneChanges : run.sceneChanges = 0

/-- Whether a run goes on where another one left off: in its scene and with all
its values. -/
structure Continues (last next : Run) : Prop where
  scene : next.stage.activeIndex? = last.stage.activeIndex?
  values (index : UInt16) : next.game.value index = last.game.value index

/-- Whether a session that is restored from files is that of a run in a scene: the
scene and all values. -/
structure Restores (last : Run) (scene : SceneIndex) (files : Files) :
    Prop where
  scene : (restore files last.savePath).2.1 = some scene
  values (index : UInt16) :
    (restore files last.savePath).1.value index = last.game.value index

section Start

variable {settings : Settings} {installation : Installation} {host : Host}
  {files : Files} {run : Run}

theorem opens_of_start
    (opened : start settings installation host files = .running run) :
    run.Opens settings installation files ∧ run.Sound := by
  have tidy :=
    tidy_restore files (Path.join installation.cache settings.saveFile)
  unfold start at opened
  dsimp only at opened
  split at opened
  · cases opened
  · next map mapped =>
      split at opened
      · next outcome stage went =>
          have is := Opening.running.inj opened
          have empty := Stage.houses_bare map
            ⟨settings.language, settings.editorMarkers,
              max settings.stepBudget 1⟩ host
          have shows :=
            Stage.shows_of_goto_empty went (empty.of_same rfl rfl rfl) rfl
          have found := shows.activeIndex?
          subst is
          exact ⟨⟨rfl, rfl, found, rfl, rfl, rfl, rfl⟩, tidy, _, shows⟩
      · cases opened

/-- A run starts if its first scene loads, and only then. -/
theorem start_eq_running_iff :
    (∃ run, start settings installation host files = .running run) ↔
      FirstSceneLoads settings installation files := by
  unfold start FirstSceneLoads
  dsimp only
  generalize restore files (Path.join installation.cache settings.saveFile) =
    session
  obtain ⟨game, saved, warnings⟩ := session
  cases mapped : Library.sceneMap ⟨files, installation.content⟩ with
  | error error => simp
  | ok map =>
      -- Nothing is on the stage yet, so the transition is a load of its own.
      have empty := Stage.houses_bare map
        ⟨settings.language, settings.editorMarkers,
          max settings.stepBudget 1⟩ host
      let source : Source :=
        ⟨Library.answer ⟨files, installation.content⟩, fun _ _ => 0⟩
      let target := startScene settings.startScene saved
      let loaded := LoadContext.familyInOrder source
        ⟨map, settings.language, game⟩ target
      let told : Except LoadError Outcome :=
        loaded.map fun _ => .loaded target
      dsimp only
      split
      · next outcome stage went =>
          have opened : .ok outcome = told :=
            Stage.opens_of_goto_empty went (empty.of_same rfl rfl rfl) rfl
              fun _ _ => rfl
          refine ⟨fun _ => ?_, fun _ => ⟨_, rfl⟩⟩
          cases loads : loaded with
          | error error =>
              simp only [told, loads] at opened
              cases opened
          | ok family => exact ⟨map, family, rfl, loads⟩
      · next error stage failed =>
          have opened : .error error = told :=
            Stage.opens_of_goto_empty failed (empty.of_same rfl rfl rfl) rfl
              fun _ _ => rfl
          constructor
          · rintro ⟨run, running⟩
            cases running
          · rintro ⟨other, family, same, loads⟩
            cases same
            have loads : loaded = .ok family := loads
            simp only [told, loads] at opened
            cases opened

/-- What a run has saved is restored. -/
theorem restores_of_load (sound : run.Sound) {scene : SceneIndex}
    (active : run.stage.activeIndex? = some scene)
    (loaded : Save.load files run.savePath = .ok run.save) :
    run.Restores scene files := by
  have restored := restore_of_load loaded
  constructor
  · rw [restored, ← active]
    rfl
  · intro index
    rw [restored]
    exact Save.value_restore_ofSession sound.tidy _ _ index

/-- A run that starts from the save of another one continues it. -/
theorem continues_of_load {next : Run} (sound : run.Sound)
    (loaded : Save.load files run.savePath = .ok run.save)
    (free : settings.startScene = none)
    (place : Path.join installation.cache settings.saveFile = run.savePath)
    (opened : start settings installation host files = .running next) :
    run.Continues next := by
  obtain ⟨opens, _⟩ := opens_of_start opened
  obtain ⟨scene, shows⟩ := sound.shows
  have active := shows.activeIndex?
  have restores := restores_of_load sound active loaded
  have samePath := opens.savePath.trans place
  constructor
  · rw [opens.scene, samePath, restores.scene, free, active]
    rfl
  · intro index
    rw [opens.game, samePath]
    exact restores.values index

end Start

end Run

end Stagecraft
