import Stagecraft.Proofs.Stage.Reachable
import Stagecraft.Proofs.Stage.Swaps
import Stagecraft.Proofs.Stage.Timing

/-!
# Where transitions arrive

A transition that is run to its end on an idle stage either makes its target the
active scene or leaves the active scene as it is, and its outcome tells which of
the two. A tick never changes which scene is active.
-/

namespace Stagecraft

namespace Stage

def changes : Except LoadError Outcome → Bool
  | .ok .ignored => false
  | .ok _ => true
  | .error _ => false

/-- Whether an idle stage has the family of a scene on it, with that scene as the
active one. -/
structure Shows (index : SceneIndex) (stage : Stage) : Prop where
  idle : stage.flight = none
  leads : ∃ cast, stage.Houses (some cast) ∧ (index, cast.main) ∈ cast.roster

variable {stage : Stage} {index : SceneIndex}

theorem Shows.activeIndex? (shows : stage.Shows index) :
    stage.activeIndex? = some index := by
  obtain ⟨cast, houses, listed⟩ := shows.leads
  cases houses with
  | family active fills asleep =>
      obtain ⟨scene, found, sameIndex⟩ := fills.sceneOf listed
      rw [activeIndex?_eq active found, sameIndex]

theorem shows_tick (shows : stage.Shows index) (game : GameBank) :
    (stage.tick game).2.2.Shows index := by
  obtain ⟨cast, houses, listed⟩ := shows.leads
  have idle : (stage.tick game).2.2.flight = none :=
    (tick_flight stage game).trans shows.idle
  exact ⟨idle, cast, houses_tick houses game, listed⟩

theorem shows_warn (shows : stage.Shows index) (warning : Warning) :
    (stage.warn warning).Shows index := by
  obtain ⟨cast, houses, listed⟩ := shows.leads
  exact ⟨shows.idle, cast, houses.of_sameScenes (sameScenes_note _ _), listed⟩

/-! ## Transitions -/

section Transitions

variable {cast? : Option Cast} (source : Source) (game : GameBank)
  (target : SceneIndex) (force : Bool)

/-- A family that was loaded is led by the scene that it was loaded for. -/
theorem shows_replace (houses : stage.Houses cast?)
    (idle : stage.flight = none) {loaded : LoadedFamily}
    (fits : loaded.Fits stage.map target) :
    (stage.replace stage.active loaded).Shows target := by
  have fills := fills_attach houses fits
  have activated := houses_activate fills (asleepBut_attach houses fits)
  rw [Attach.castOf_main] at activated
  have same := sameSetting_replace stage stage.active loaded
  have sameMap := (sameSetting_clear stage stage.active).map
  refine ⟨same.flight.trans idle, _, activated, ?_⟩
  exact (Attach.mem_castOf (sameMap ▸ fits) _).mpr
    (.inl (by rw [Attach.castOf_main, fits.mainIndex]))

/-- What becomes of an idle stage in a transition. -/
structure Arrives (stage : Stage) (cast? : Option Cast)
    (target : SceneIndex) (landing : Except LoadError Outcome × Stage) :
    Prop where
  idle : landing.2.flight = none
  changed : changes landing.1 = true →
    landing.2.Shows target ∧ stage.activeIndex? ≠ some target
  kept : changes landing.1 = false → landing.2.Houses cast?
  ignored : landing.1 = .ok .ignored → stage.activeIndex? = some target

/-- A load that is run to its end arrives at its target, or the company
stays. -/
theorem arrives_settle (houses : stage.Houses cast?) {flight : Flight}
    (suits : flight.Suits stage) (source : Source) :
    let settled := flight.task.settle source stage.journal
    let ended :=
      { stage with journal := settled.2 }.conclude flight settled.1
    ended.2.flight = none ∧
      (changes ended.1 = true → ended.2.Shows flight.target) ∧
      (changes ended.1 = false → ended.2.Houses cast?) := by
  cases settled : flight.task.settle source stage.journal with
  | mk result journal =>
      have same :=
        sameSetting_conclude { stage with journal := journal } flight result
      refine ⟨same.flight, fun changed => ?_, fun kept => ?_⟩
      · cases result with
        | error error => exact absurd changed Bool.false_ne_true
        | ok loaded =>
            have fits : loaded.Fits stage.map flight.target :=
              Task.holds_of_settle suits.returns settled
            have landed :
                Houses { stage with journal := journal, flight := none }
                  cast? :=
              houses.of_same rfl rfl rfl
            have shows := shows_replace flight.target landed rfl fits
            show ({ stage with journal := journal, flight := none }.replace
              flight.previous loaded).Shows flight.target
            rw [suits.previous]
            exact shows
      · cases result with
        | error error =>
            refine Sound.houses (sound_release rfl ?_ ?_ false)
            · exact houses.of_same rfl rfl rfl
            · exact ⟨suits.previous, suits.returns⟩
        | ok loaded => exact absurd kept.symm Bool.false_ne_true

theorem arrives_goto (houses : stage.Houses cast?)
    (idle : stage.flight = none) :
    stage.Arrives cast? target (stage.goto source game target false) := by
  have departs := stage.departs game target false
  unfold goto
  generalize stage.depart game target false = course at departs
  cases departs with
  | ignored busy =>
      have already : stage.activeIndex? = some target := by
        rcases busy with loading | ⟨_, already⟩
        · simp [isLoading, idle] at loading
        · exact already
      exact ⟨idle, fun changed => absurd changed Bool.false_ne_true,
        fun _ => houses, fun _ => already⟩
  | unknown _ wanted missing =>
      exact ⟨idle, fun changed => absurd changed Bool.false_ne_true,
        fun _ => houses, fun ignored => by cases ignored⟩
  | @swapped _ wanted kind known outgoing incoming side =>
      obtain ⟨cast, rfl, rfl, listed, apart⟩ :=
        houses.member_of_sideTarget side
      have same := sameSetting_swap stage cast.main incoming
      have swapped := houses_swap houses listed apart
      have elsewhere : stage.activeIndex? ≠ some target :=
        wanted.resolve_left Bool.false_ne_true
      generalize stage.swap cast.main incoming = after at same swapped ⊢
      have stillIdle : after.flight = none := same.flight.trans idle
      exact ⟨stillIdle, fun _ => ⟨⟨stillIdle, _, swapped, listed⟩, elsewhere⟩,
        fun kept => absurd kept.symm Bool.false_ne_true,
        fun ignored => by cases ignored⟩
  | away _ wanted known apart =>
      have elsewhere : stage.activeIndex? ≠ some target :=
        wanted.resolve_left Bool.false_ne_true
      have same := sameSetting_setActivity stage stage.active false
      have sameActive := setActivity_active stage stage.active false
      have asleep := houses.setActivity false
      generalize stage.setActivity stage.active false = rested at *
      have suits :
          Flight.Suits ⟨target, stage.active, stage.loadOf game target⟩
            rested := by
        refine ⟨sameActive.symm, ?_⟩
        rw [same.map]
        exact LoadContext.returns_family _ target
      obtain ⟨nowIdle, arrived, stayed⟩ := arrives_settle asleep suits source
      refine ⟨nowIdle, fun changed => ⟨arrived changed, elsewhere⟩, stayed,
        fun ignored => ?_⟩
      dsimp only at ignored
      rw [told_of_conclude] at ignored
      generalize Task.settle _ _ _ = settled at ignored
      cases told : settled.1 <;> simp [told, Except.map] at ignored

/-- A stage goes on showing a scene: its target after a transition that changed
something, and else the same one. -/
theorem shows_goto (shows : stage.Shows index) :
    let went := stage.goto source game target false
    (changes went.1 = true → went.2.Shows target ∧ target ≠ index) ∧
      (changes went.1 = false → went.2.Shows index) := by
  obtain ⟨cast, houses, listed⟩ := shows.leads
  have arrives := arrives_goto source game target houses shows.idle
  refine ⟨fun changed => ?_, fun kept => ?_⟩
  · obtain ⟨arrived, elsewhere⟩ := arrives.changed changed
    refine ⟨arrived, fun same => elsewhere ?_⟩
    rw [shows.activeIndex?, same]
  · exact ⟨arrives.idle, cast, arrives.kept kept, listed⟩

theorem activeIndex?_of_nothing (houses : stage.Houses none) :
    stage.activeIndex? = none := by
  cases houses with
  | nothing inactive empty => simp [activeIndex?, activeScene?, inactive]

variable {source game target}

/-- A scene that was opened on an empty stage is there. -/
theorem shows_of_goto_empty {outcome : Outcome} {landed : Stage}
    (went : stage.goto source game target false = (.ok outcome, landed))
    (houses : stage.Houses none) (idle : stage.flight = none) :
    landed.Shows target := by
  have arrives := arrives_goto source game target houses idle
  rw [went] at arrives
  cases outcome with
  | ignored =>
      have already := arrives.ignored rfl
      rw [activeIndex?_of_nothing houses] at already
      cases already
  | swapped scene => exact (arrives.changed rfl).1
  | loaded scene => exact (arrives.changed rfl).1

/-- On an empty stage a scene can be opened if its family loads in order. -/
theorem opens_of_goto_empty
    {result : Except LoadError Outcome} {landed : Stage}
    (went : stage.goto source game target false = (result, landed))
    (houses : stage.Houses none) (idle : stage.flight = none)
    (prompt : ∀ ticket request, source.pauses ticket request = 0) :
    result =
      (LoadContext.familyInOrder source
        ⟨stage.map, stage.settings.language, game⟩ target).map
        fun _ => .loaded target := by
  have departs := stage.departs game target false
  have told : (stage.goto source game target false).1 = result :=
    congrArg Prod.fst went
  rw [← told]
  unfold goto
  generalize stage.depart game target false = course at departs
  cases departs with
  | ignored busy =>
      rcases busy with loading | ⟨_, already⟩
      · simp [isLoading, idle] at loading
      · rw [activeIndex?_of_nothing houses] at already
        cases already
  | unknown _ wanted missing =>
      simp [LoadContext.familyInOrder, LoadContext.sceneInOrder, missing,
        bind, Except.bind, Except.map]
  | swapped _ wanted known side =>
      obtain ⟨cast, none, _⟩ := houses.member_of_sideTarget side
      cases none
  | away _ wanted known apart =>
      have unbegun : (stage.loadOf game target).Unbegun :=
        LoadContext.unbegun_family _ target
      dsimp only
      rw [told_of_conclude, Task.settle_prompt unbegun prompt]
      rw [loadOf, LoadContext.run_family]

end Transitions

end Stage

end Stagecraft
