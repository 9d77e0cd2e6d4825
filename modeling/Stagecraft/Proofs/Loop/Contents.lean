import Stagecraft.Proofs.Files.Writing
import Stagecraft.Proofs.Loop.Entrances

/-!
# Known content

Where the texts of a content folder are known, what a run finds in it can be worked
out from them, without any bytes.
-/

namespace Stagecraft

namespace Library

/-! ## Texts -/

/-- Whether files hold texts, by their paths. -/
def Holds (library : Library) (texts : List (String × String)) : Prop :=
  ∀ entry ∈ texts, library.files.readText entry.1 = .ok entry.2

def knownText (library : Library) (texts : List (String × String))
    (path : String) : Except LoadError String :=
  match texts.find? fun entry => entry.1 == path with
  | some entry => .ok entry.2
  | none => library.textOf path

def mapOf (root : String) (textOf : String → Except LoadError String) :
    Except LoadError SceneMap := do
  let path := mapPath root
  let text ← textOf path
  (SceneMap.ofText path text).mapError .badSceneMap

def answerOf (root : String) (textOf : String → Except LoadError String) :
    (fetch : Fetch) → Except LoadError fetch.Answer
  | .scene language index => do
      let path := scenePath root language index
      decode SceneData.reader path (← textOf path)
  | .actor environment _ data => .ok (assetOf environment data)
  | .scenery key _ => do
      let path := sceneryPath root key
      decode Scenery.reader path (← textOf path)

variable {library : Library} {texts : List (String × String)}

theorem holds_nil (library : Library) : library.Holds [] :=
  fun _ member => absurd member List.not_mem_nil

theorem Holds.cons {path text : String} (place : Place)
    (located : library.files.locate path = .ok place)
    (held : library.files.at? place = some (.file text.toUTF8))
    (namesFile : Path.endsInSlash path = false) (rest : library.Holds texts) :
    library.Holds ((path, text) :: texts) :=
  List.forall_mem_cons.mpr
    ⟨Files.readText_of_locate located held namesFile, rest⟩

theorem knownText_eq (holds : library.Holds texts) :
    library.knownText texts = library.textOf := by
  funext path
  unfold knownText
  split
  · next entry listed =>
      have same : entry.1 = path := by simpa using List.find?_some listed
      rw [← same, textOf, holds entry (List.mem_of_find?_eq_some listed)]
      rfl
  · rfl

theorem mapOf_eq (holds : library.Holds texts) :
    mapOf library.root (library.knownText texts) = library.sceneMap := by
  rw [knownText_eq holds]
  rfl

theorem answerOf_eq (holds : library.Holds texts) :
    answerOf library.root (library.knownText texts) = library.answer := by
  rw [knownText_eq holds]
  funext fetch
  cases fetch <;> rfl

/-- What a file describes stands in it. -/
theorem readText_of_load {α : Type} {reader : Reader α} {path : String}
    {value : α} (loads : library.load reader path = .ok value) :
    ∃ text, library.files.readText path = .ok text := by
  obtain ⟨text, read, _⟩ := exists_of_bind_eq_ok loads
  unfold textOf at read
  cases found : library.files.readText path with
  | error fault =>
      rw [found] at read
      cases read
  | ok text => exact ⟨text, rfl⟩

/-! ## Openings -/

/-- What a test finds out about the map and the family of a scene that is loaded with
a session. -/
def opening {α : Type} (library : Library) (texts : List (String × String))
    (language : String) (game : GameBank) (index : SceneIndex)
    (test : SceneMap → LoadedFamily → α) : Except LoadError α := do
  let map ← mapOf library.root (library.knownText texts)
  let family ←
    LoadContext.familyInOrder
      ⟨answerOf library.root (library.knownText texts), fun _ _ => 0⟩
      ⟨map, language, game⟩ index
  return test map family

theorem exists_of_opening {α : Type} {language : String} {game : GameBank}
    {index : SceneIndex} {test : SceneMap → LoadedFamily → α} {found : α}
    (holds : library.Holds texts)
    (opens : (library.opening texts language game index test).toOption =
      some found) :
    ∃ map family, library.sceneMap = .ok map ∧
      LoadContext.familyInOrder ⟨library.answer, fun _ _ => 0⟩
        ⟨map, language, game⟩ index = .ok family ∧
      test map family = found := by
  unfold opening at opens
  rw [mapOf_eq holds, answerOf_eq holds] at opens
  cases mapped : library.sceneMap with
  | error error =>
      rw [mapped] at opens
      cases opens
  | ok map =>
      rw [mapped] at opens
      cases loads : LoadContext.familyInOrder ⟨library.answer, fun _ _ => 0⟩
          ⟨map, language, game⟩ index with
      | error error => simp [bind, Except.bind, Except.toOption, loads] at opens
      | ok family =>
          simp [bind, Except.bind, pure, Except.pure, Except.toOption, loads] at opens
          exact ⟨map, family, rfl, loads, opens⟩

end Library

namespace Run

theorem restore_of_not_isFile {files : Files} {path : String}
    (absent : files.isFile path = false) :
    restore files path = (GameBank.fresh, none, []) := by
  simp only [restore, absent]
  rfl

/-- A run without a save starts with what an opening has found out about its content. -/
theorem exists_start_of_opening {α : Type} {settings : Settings}
    {installation : Installation} (host : Host) {files : Files}
    {texts : List (String × String)} {test : SceneMap → LoadedFamily → α} {found : α}
    (absent : files.isFile (Path.join installation.cache settings.saveFile) = false)
    (holds : Library.Holds ⟨files, installation.content⟩ texts)
    (opens : (Library.opening ⟨files, installation.content⟩ texts settings.language
        GameBank.fresh (startScene settings.startScene none) test).toOption =
      some found) :
    ∃ run map family,
      start settings installation host files = .running run ∧
        run.content = installation.content ∧ run.files = files ∧
        run.game = GameBank.fresh ∧
        run.stage.unlogged =
          ((Stage.bare map
            ⟨settings.language, settings.editorMarkers,
              max settings.stepBudget 1⟩ host).replace none
            family).unlogged ∧
        Library.sceneMap ⟨files, installation.content⟩ = .ok map ∧
        test map family = found := by
  obtain ⟨map, family, mapped, loads, is⟩ := Library.exists_of_opening holds opens
  obtain ⟨run, opened, content, same, game, shows⟩ :=
    start_of_familyInOrder host (restore_of_not_isFile absent) mapped loads
  exact ⟨run, map, family, opened, content, same, game, shows, mapped, is⟩

end Run

end Stagecraft
