import Stagecraft.Proofs.Loop.Entrances
import Stagecraft.Proofs.Loop.Plain

/-!
# Requests for other scenes

One tick can ask for several scenes, through zones and through any number of
scripts, but a run follows the first request and no other. So a request that could
be followed is lost where another one stands in front of it, even one that leads
nowhere.
-/

namespace Stagecraft

def requestedScenes (events : List Event) : List SceneIndex :=
  events.filterMap Event.target?

theorem requestedScene_eq_head? (events : List Event) :
    requestedScene events = (requestedScenes events).head? :=
  List.head?_filterMap.symm

namespace Run

/-! ## Rivals -/

/-- A scene with two actors: the first one asks for the scene that is active, the
second one asks for the other scene. -/
def rivalScene : String :=
  "\x7b\"ambience\":\x7b\"music_track\":1\x7d,\"actors\":[" ++
    "\x7b\"name\":\"hero\"," ++
    "\"life\":[\x7b\"op\":\"CHANGE_SCENE\",\"index\":0\x7d]\x7d," ++
    "\x7b\"name\":\"rival\"," ++
    "\"life\":[\x7b\"op\":\"CHANGE_SCENE\",\"index\":1\x7d]\x7d]\x7d"

/-- The content of a relay, with rivals in the first scene. -/
def rivalFiles : Files :=
  ⟨[(["a"], .folder), (["a", "scene_map.xml"], .file relayMap.toUTF8),
    (["a", "scenes"], .folder), (["a", "scenes", "en"], .folder),
    (["a", "scenes", "en", "scene_000.json"], .file rivalScene.toUTF8),
    (["a", "scenes", "en", "scene_001.json"], .file relayScene.toUTF8),
    (["a", "sceneries"], .folder),
    (["a", "sceneries", "iso_000.json"], .file relayScenery.toUTF8)]⟩

def rivalTexts : List (String × String) :=
  [("a/scene_map.xml", relayMap), ("a/scenes/en/scene_000.json", rivalScene),
    ("a/scenes/en/scene_001.json", relayScene),
    ("a/sceneries/iso_000.json", relayScenery)]

theorem holds_rivals : Library.Holds ⟨rivalFiles, "a"⟩ rivalTexts :=
  .cons ["a", "scene_map.xml"] (by decide) rfl
      (by decide) <|
  .cons ["a", "scenes", "en", "scene_000.json"] (by decide) rfl
      (by decide) <|
  .cons ["a", "scenes", "en", "scene_001.json"] (by decide) rfl
      (by decide) <|
  .cons ["a", "sceneries", "iso_000.json"] (by decide) rfl
      (by decide) <|
  Library.holds_nil _

def rivalSource : Source :=
  ⟨Library.answerOf "a" (Library.knownText ⟨rivalFiles, "a"⟩ rivalTexts),
    fun _ _ => 0⟩

/-- What the first tick of a stage asks for, and whether the second scene loads
after it. -/
def firstRequests (stage : Stage) : List SceneIndex × Bool :=
  let (report, game, _) := stage.tick GameBank.fresh
  (requestedScenes report.events,
    (LoadContext.familyInOrder rivalSource
      ⟨stage.map, stage.settings.language, game⟩ 1).toOption.isSome)

theorem firstRequests_unlogged (stage : Stage) :
    firstRequests stage.unlogged = firstRequests stage := by
  obtain ⟨report, game⟩ := stage.tick_unlogged GameBank.fresh
  unfold firstRequests
  dsimp only
  rw [report, game]
  rfl

def rivalStage (map : SceneMap) (family : LoadedFamily) : Stage :=
  (Stage.bare map
    ⟨Settings.default.language, Settings.default.editorMarkers,
      max Settings.default.stepBudget 1⟩ Host.quiet).replace none family

theorem opening_rivals :
    (Library.opening ⟨rivalFiles, "a"⟩ rivalTexts Settings.default.language
      GameBank.fresh (startScene Settings.default.startScene none)
      fun map family => firstRequests (rivalStage map family)).toOption =
        some ([0, 1], true) := by
  decide +kernel

/-- Where the second scene loads after a first tick that asks for both scenes, it
can be entered, and the first one cannot. -/
theorem canEnter_of_firstRequests {run : Run} (shows : run.stage.Shows 0)
    (fresh : run.game = GameBank.fresh) (source : run.source = rivalSource)
    (asks : firstRequests run.stage = ([0, 1], true)) :
    let (report, game, ticked) := run.stage.tick run.game
    requestedScenes report.events = [0, 1] ∧
      ¬ ticked.CanEnter run.source game 0 ∧
      ticked.CanEnter run.source game 1 := by
  have still := (Stage.shows_tick shows run.game).activeIndex?
  have same := (Stage.sameSetting_tick run.stage run.game).1
  unfold firstRequests at asks
  rw [← fresh] at asks
  rw [source]
  generalize run.stage.tick run.game = played at still same asks ⊢
  obtain ⟨report, game, ticked⟩ := played
  obtain ⟨asked, loads⟩ := Prod.mk.inj asks
  refine ⟨asked, fun enters => enters.elsewhere still, ?_⟩
  cases comes : LoadContext.familyInOrder rivalSource
      ⟨run.stage.map, run.stage.settings.language, game⟩ 1 with
  | error error =>
      rw [comes] at loads
      cases loads
  | ok next =>
      rw [← same.map, ← same.settings] at comes
      refine ⟨LoadContext.kind?_of_familyInOrder comes, ?_, .inr ⟨next, comes⟩⟩
      rw [still]
      decide

/-- In the first tick of the rivals, a request that leads nowhere stands before one
that can be followed. -/
theorem exists_start_rivals :
    ∃ first,
      start Settings.default ⟨"", "a", "c"⟩ Host.quiet rivalFiles =
          .running first ∧
        first.stage.Shows 0 ∧
        let (report, game, ticked) := first.stage.tick first.game
        requestedScenes report.events = [0, 1] ∧
          ¬ ticked.CanEnter first.source game 0 ∧
          ticked.CanEnter first.source game 1 := by
  have absent :
      rivalFiles.isFile (Path.join "c" Settings.default.saveFile) = false := by
    decide
  obtain ⟨first, map, family, opened, content, files, game, shows, -, asks⟩ :=
    @exists_start_of_opening _ Settings.default ⟨"", "a", "c"⟩ Host.quiet _ _ _ _
      absent holds_rivals opening_rivals
  have source : first.source = rivalSource := by
    unfold Run.source rivalSource
    rw [content, files, ← Library.answerOf_eq holds_rivals]
  have asks : firstRequests first.stage = ([0, 1], true) := by
    rw [← firstRequests_unlogged, shows, firstRequests_unlogged]
    exact asks
  obtain ⟨opens, sound⟩ := opens_of_start opened
  have active : first.stage.activeIndex? = some 0 := by
    rw [opens.scene, opens.savePath, restore_of_not_isFile absent]
    rfl
  obtain ⟨index, shown⟩ := sound.shows
  obtain rfl : index = 0 :=
    Option.some.inj (shown.activeIndex?.symm.trans active)
  exact ⟨first, opened, shown,
    canEnter_of_firstRequests shown game source asks⟩

/-! ## Requests in a run -/

/-- In every state of a run, the first request of a tick that can be followed is
followed if no other request stands before it. Behind another one, which leads
nowhere, it is lost and the scene stays. The scene also stays if no request can be
followed. -/
theorem request_followed_iff_first {settings : Settings}
    {installation : Installation} {host : Host} {files : Files} {first : Run}
    (opened : start settings installation host files = .running first)
    (count : Nat) :
    let run := first.steps count
    let (report, game, ticked) := run.stage.tick run.game
    let asked := requestedScenes report.events
    ∃ index, run.stage.activeIndex? = some index ∧
      ((∀ other ∈ asked, ¬ ticked.CanEnter run.source game other) →
        run.step.stage.activeIndex? = some index) ∧
      ∀ passed target later, asked = passed ++ target :: later →
        (∀ other ∈ passed, ¬ ticked.CanEnter run.source game other) →
          ticked.CanEnter run.source game target →
            index ≠ target ∧
              run.step.stage.activeIndex? =
                some (if passed = [] then target else index) := by
  intro run
  obtain ⟨index, shows⟩ := ((opens_of_start opened).2.steps count).shows
  have shows : run.stage.Shows index := shows
  have still := Stage.shows_tick shows run.game
  cases ticks : run.stage.tick run.game with
  | mk report rest =>
      obtain ⟨game, ticked⟩ := rest
      rw [ticks] at still
      have head := requestedScene_eq_head? report.events
      refine ⟨index, shows.activeIndex?, ?_, ?_⟩
      · intro refused
        refine activeIndex?_step_of_refused shows ticks ?_
        intro target asks
        rw [head] at asks
        exact refused target (List.mem_of_head? asks)
      · intro passed target later split refused enters
        refine ⟨fun same => enters.elsewhere ?_, ?_⟩
        · rw [← same]
          exact still.activeIndex?
        rw [split] at head
        cases passed with
        | nil => exact activeIndex?_step_of_canEnter shows ticks head enters
        | cons other others =>
            refine activeIndex?_step_of_refused shows ticks ?_
            intro requested asks
            obtain rfl : other = requested :=
              Option.some.inj (head.symm.trans asks)
            exact refused other List.mem_cons_self

/-- The hero of the rivals asks for the scene that is active already, so nobody
goes to the other scene. -/
theorem request_followed_iff_first_rivals :
    ∃ first,
      start Settings.default ⟨"", "a", "c"⟩ Host.quiet rivalFiles =
          .running first ∧
        let (report, game, ticked) := first.stage.tick first.game
        requestedScenes report.events = [0, 1] ∧
          ¬ ticked.CanEnter first.source game 0 ∧
          ticked.CanEnter first.source game 1 ∧
          first.step.stage.activeIndex? = some 0 := by
  obtain ⟨first, opened, shows, asked, refused, enters⟩ :=
    exists_start_rivals
  obtain ⟨index, active, -, follows⟩ := request_followed_iff_first opened 0
  obtain ⟨-, stays⟩ :=
    follows [0] 1 [] asked (List.forall_mem_singleton.mpr refused) enters
  obtain rfl : index = 0 :=
    Option.some.inj (active.symm.trans shows.activeIndex?)
  exact ⟨first, opened, asked, refused, enters, stays⟩

/-- Not every request is followed that can be followed and is the first such
request of its tick. -/
theorem not_every_request_followed :
    ¬ ∀ (settings : Settings) (installation : Installation) (host : Host)
        (files : Files) (first : Run),
      start settings installation host files = .running first →
        ∀ count,
          let run := first.steps count
          let (report, game, ticked) := run.stage.tick run.game
          ∀ passed target later,
            requestedScenes report.events = passed ++ target :: later →
              (∀ other ∈ passed, ¬ ticked.CanEnter run.source game other) →
                ticked.CanEnter run.source game target →
                  run.step.stage.activeIndex? = some target := by
  intro followed
  obtain ⟨first, opened, shows, asked, refused, enters⟩ :=
    exists_start_rivals
  have arrives :=
    followed _ _ _ _ first opened 0 [0] 1 [] asked
      (List.forall_mem_singleton.mpr refused) enters
  have stays : first.step.stage.activeIndex? = some 0 :=
    activeIndex?_step_of_refused shows rfl fun target asks => by
      rw [requestedScene_eq_head?, asked] at asks
      obtain rfl : 0 = target := Option.some.inj asks
      exact refused
  exact absurd (stays.symm.trans arrives) (by decide)

end Run

end Stagecraft
