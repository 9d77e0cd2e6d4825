import Stagecraft.Proofs.Script.Sessions
import Stagecraft.Proofs.Session.Restoring
import Stagecraft.Proofs.Stage.Twins

/-!
# Playing on with a restored session

A session that was saved and restored has the values that it had, so whatever is
done next goes the same way as with the original one: every transition, every tick
and every value. Only how long the bank is, and when it grows, may differ.
-/

namespace Stagecraft

/-! ## What transitions see of a session -/

section Values

variable {extra : UInt16 → Prop} {left right : GameBank}

theorem SceneMap.resolveIsland_of_agree (agree : left.Agree extra right)
    (map : SceneMap) (island : String) :
    map.resolveIsland island right = map.resolveIsland island left := by
  have sameRule (rule : IslandOverride) :
      rule.applies island right = rule.applies island left :=
    congrArg (fun value => rule.source == island && value != 0)
      (agree.value rule.trigger)
  unfold resolveIsland
  simp only [sameRule]

/-- A session shows in a load only by the island and the scenery of each scene. -/
theorem LoadContext.scene_congr {first second : LoadContext}
    (map : second.map = first.map) (language : second.language = first.language)
    (island : second.islandOf = first.islandOf)
    (key : second.sceneryKey = first.sceneryKey) :
    second.scene = first.scene := by
  have sameEnvironment : second.environmentOf = first.environmentOf := by
    funext place ambience
    cases place with
    | none => rfl
    | some name => rw [environmentOf, environmentOf, map]
  have sameRequests : second.actorRequests = first.actorRequests := by
    funext kind data
    rw [actorRequests, actorRequests, island, sameEnvironment]
  have sameScenery : second.sceneryFor = first.sceneryFor := by
    funext kind ambience shared
    cases shared with
    | none => rw [sceneryFor, sceneryFor, key]
    | some scenery => rfl
  have sameAssembly : second.assemble = first.assemble := by
    funext index kind data actors offset
    rw [assemble, assemble, island, sameEnvironment]
  funext index shared
  unfold scene
  rw [map, language, sameRequests, sameScenery, sameAssembly]

theorem LoadContext.family_of_agree (agree : left.Agree extra right)
    (map : SceneMap) (language : String) (index : SceneIndex) :
    (LoadContext.mk map language right).family index =
      (LoadContext.mk map language left).family index := by
  have sameScene :
      (LoadContext.mk map language right).scene =
        (LoadContext.mk map language left).scene := by
    refine scene_congr rfl rfl ?island ?key
    case island =>
      funext kind
      cases kind with
      | island slot =>
          exact congrArg some (map.resolveIsland_of_agree agree slot.island)
      | isometric index => rfl
    case key =>
      funext kind
      cases kind with
      | island slot =>
          exact congrArg SceneryKey.island
            (map.resolveIsland_of_agree agree slot.island)
      | isometric index => rfl
  unfold family
  rw [sameScene]

theorem Order.depart_of_agree (agree : left.Agree extra right)
    (order : Order) (stage : Stage) :
    order.depart right stage = order.depart left stage := by
  have sameLoad (target : SceneIndex) :
      stage.loadOf right target = stage.loadOf left target :=
    LoadContext.family_of_agree agree stage.map stage.settings.language target
  unfold Order.depart
  cases order.target? stage with
  | none => rfl
  | some aim => simp only [Stage.depart, sameLoad]

end Values

/-! ## Ticks in two sessions -/

section Ticks

variable {extra : UInt16 → Prop} {left right : GameBank}

theorem Journal.steady_tickNotes {play other : Play} (scene : Scene)
    (same : other.journal.steady = play.journal.steady) :
    (Stage.tickNotes other scene).steady =
      (Stage.tickNotes play scene).steady := by
  simp only [Stage.tickNotes, Journal.steady_append, same]

/-- A tick goes the same way in two sessions that agree, but for notes that the
game bank grew. -/
theorem Stage.tick_agree (agree : left.Agree extra right) (stage : Stage) :
    let leftTicked := stage.tick left
    let rightTicked := stage.tick right
    rightTicked.1 = leftTicked.1 ∧
      leftTicked.2.1.Agree extra rightTicked.2.1 ∧
      rightTicked.2.2 =
        { leftTicked.2.2 with journal := rightTicked.2.2.journal } ∧
      rightTicked.2.2.journal.steady = leftTicked.2.2.journal.steady := by
  unfold tick
  split
  · exact ⟨rfl, agree, rfl, rfl⟩
  · split
    · next id scene _ _ =>
        have ticked :
            ((playOf scene left stage.host.nodes).tick
              stage.settings.stepBudget).Agree extra
            ((playOf scene right stage.host.nodes).tick
              stage.settings.stepBudget) :=
          Play.Agree.tick (.intro agree rfl) _
        unfold tickScene
        generalize (playOf scene left stage.host.nodes).tick
          stage.settings.stepBudget = leftAfter at ticked ⊢
        generalize (playOf scene right stage.host.nodes).tick
          stage.settings.stepBudget = rightAfter at ticked ⊢
        cases ticked with
        | @intro game journal banks notes =>
            have sameCalls := Journal.calls_of_steady notes
            have sameNotes :
                (tickNotes { leftAfter with game := game, journal := journal }
                    scene).steady =
                  (tickNotes leftAfter scene).steady :=
              Journal.steady_tickNotes scene notes
            dsimp only
            rw [Journal.trace_of_steady sameNotes,
              Journal.events_of_steady sameNotes, sameCalls]
            refine ⟨rfl, banks, rfl, ?_⟩
            rw [Journal.steady_append, Journal.steady_append, sameNotes]
    · exact ⟨rfl, agree, rfl, rfl⟩

end Ticks

/-! ## Theatres -/

/-- Whether two theatres differ at most in the marks of active scenes, in the
sessions, which agree, and in notes that the game bank grew. -/
structure Theatre.Agree (extra : UInt16 → Prop) (left right : Theatre) :
    Prop where
  stage : left.stage.Alike left.stage.journal right.stage.journal right.stage
  game : left.game.Agree extra right.game
  notes : right.stage.journal.steady = left.stage.journal.steady

namespace Theatre

variable {extra : UInt16 → Prop} {left right : Theatre}

/-- An act goes the same way in two sessions that agree. -/
theorem perform_of_agree {first second : GameBank}
    (agree : first.Agree extra second) (stage : Stage) (act : Act) :
    let performed := (Theatre.mk stage first).perform act
    let again := (Theatre.mk stage second).perform act
    again.1 = performed.1 ∧
      performed.2.game.Agree extra again.2.game ∧
      again.2.stage =
        { performed.2.stage with journal := again.2.stage.journal } ∧
      again.2.stage.journal.steady = performed.2.stage.journal.steady := by
  cases act with
  | go source order =>
      simp only [perform, Order.carryOut_eq, sourceNow,
        order.depart_of_agree agree]
      exact ⟨trivial, agree, trivial, trivial⟩
  | begin source order =>
      simp only [perform, Order.begin_eq, sourceNow,
        order.depart_of_agree agree]
      exact ⟨trivial, agree, trivial, trivial⟩
  | ask order => exact ⟨rfl, agree, rfl, rfl⟩
  | poll held source => exact ⟨rfl, agree, rfl, rfl⟩
  | abandon held => exact ⟨rfl, agree, rfl, rfl⟩
  | tick =>
      obtain ⟨sameReport, banks, sameStage, notes⟩ := stage.tick_agree agree
      exact ⟨congrArg Answer.ticked sameReport, banks, sameStage, notes⟩
  | reset => exact ⟨rfl, agree, rfl, rfl⟩
  | unload => exact ⟨rfl, agree, rfl, rfl⟩
  | change game => exact ⟨rfl, .refl game, rfl, rfl⟩

theorem Agree.perform (agree : left.Agree extra right) (act : Act) :
    (right.perform act).1 = (left.perform act).1 ∧
      (left.perform act).2.Agree extra (right.perform act).2 := by
  -- In between stands the second stage with the first session.
  have alike : left.Alike ⟨right.stage, left.game⟩ := ⟨rfl, agree.stage⟩
  obtain ⟨sameAnswer, sameGame, sameStage⟩ := perform_alike alike act
  obtain ⟨answerAgain, banks, stageAgain, notesAgain⟩ :=
    perform_of_agree agree.game right.stage act
  generalize (Theatre.mk right.stage left.game).perform act = between at *
  refine ⟨answerAgain.trans sameAnswer.symm, ?_, ?_, ?_⟩
  · rw [stageAgain]
    exact ⟨sameStage.map, sameStage.settings, sameStage.arena, sameStage.host,
      sameStage.active, sameStage.flight, #[], by simp, by simp⟩
  · rw [sameGame]
    exact banks
  · obtain ⟨notes, leftNotes, betweenNotes⟩ := sameStage.notes
    rw [notesAgain, betweenNotes, leftNotes, Journal.steady_append,
      Journal.steady_append, agree.notes]

theorem Agree.run (agree : left.Agree extra right) (acts : List Act) :
    right.answers acts = left.answers acts ∧
      (left.run acts).Agree extra (right.run acts) := by
  induction acts generalizing left right with
  | nil => exact ⟨rfl, agree⟩
  | cons act rest inductionHypothesis =>
      obtain ⟨sameAnswer, agreeAfter⟩ := agree.perform act
      obtain ⟨sameRest, agreeEnd⟩ := inductionHypothesis agreeAfter
      exact ⟨congrArg₂ List.cons sameAnswer sameRest, agreeEnd⟩

/-- A session that was saved and restored into a new one is the original one for
all that follows. Its scene, all values, what was accessed and the next save are
those of the original, and from the same stage every series of acts has the same
answers and leads to the same stage, the same values and the same notes, besides
those that the game bank grew. -/
theorem restored_session_plays_on (accesses : List GameBank.Access)
    (scene : Option SceneIndex) (references : List UInt16) :
    let game := GameBank.played accesses
    let save := Save.ofSession game scene references
    let restored := save.restore GameBank.fresh
    save.scene = scene ∧
      (∀ index, restored.value index = game.value index) ∧
      (∀ index, index ∈ restored.touched ↔
        index ∈ game.touched ∨ index ∈ references) ∧
      Save.ofSession restored scene references = save ∧
      ∀ stage acts,
        (Theatre.mk stage restored).answers acts =
            (Theatre.mk stage game).answers acts ∧
          ((Theatre.mk stage game).run acts).Agree (· ∈ references)
            ((Theatre.mk stage restored).run acts) := by
  intro game save restored
  have tidy : game.Tidy := GameBank.tidy_played accesses
  have values := Save.value_restore_ofSession tidy scene references
  have touched := Save.mem_touched_restore_ofSession game scene references
  refine ⟨rfl, values, touched,
    Save.ofSession_restore_ofSession tidy scene references, ?_⟩
  intro stage acts
  have banks : game.Agree (· ∈ references) restored :=
    ⟨values, fun index listed => (touched index).mpr (.inl listed),
      fun index => (touched index).mp⟩
  have started :
      (Theatre.mk stage game).Agree (· ∈ references)
        (Theatre.mk stage restored) :=
    ⟨(Alike.refl (Theatre.mk stage game)).stage, banks, rfl⟩
  exact started.run acts

end Theatre

end Stagecraft
