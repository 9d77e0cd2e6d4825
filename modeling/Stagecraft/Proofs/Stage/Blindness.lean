import Stagecraft.Proofs.Stage.Counterparts
import Stagecraft.Proofs.Stage.Frozen

/-!
# The game does not see nodes

Models and markers decide which nodes there are, and nothing else. Two theatres
that differ in them alone, and whose callers do the same, answer the same and show
the same scenes after every act.
-/

namespace Stagecraft

/-! ## Acts -/

inductive Act.Matches : Act → Act → Prop
  | go {source other : Source} (sources : source.Matches other)
      (order : Order) : Matches (.go source order) (.go other order)
  | begin {source other : Source} (sources : source.Matches other)
      (order : Order) : Matches (.begin source order) (.begin other order)
  | ask (order : Order) : Matches (.ask order) (.ask order)
  | poll (held : Bool) {source other : Source}
      (sources : source.Matches other) :
      Matches (.poll held source) (.poll held other)
  | abandon (held : Bool) : Matches (.abandon held) (.abandon held)
  | tick : Matches .tick .tick
  | reset : Matches .reset .reset
  | unload : Matches .unload .unload
  | change (game : GameBank) : Matches (.change game) (.change game)

/-- Whether two theatres have the same session and stages that match. -/
structure Theatre.Matches (left right : Theatre) : Prop where
  game : left.game = right.game
  stage : left.stage.Matches right.stage

/-- Setting out adds nothing to the journal. -/
theorem Order.journal_of_away {order : Order} {game : GameBank}
    {stage after : Stage} {flight : Flight}
    (leaves : order.depart game stage = .away flight after) :
    after.journal = stage.journal := by
  have departs := order.departs game stage
  rw [leaves] at departs
  cases departs with
  | towards aim departs =>
      cases departs with
      | away idle wanted known apart => cases stage.active <;> rfl

/-- Stages that match are done with an order alike, or set out on loads that match,
with their journals as they were. -/
theorem Stage.Matches.departs {left right : Stage} (same : left.Matches right)
    (order : Order) (game : GameBank) :
    (∃ result after otherAfter,
      order.depart game left = .done result after ∧
      order.depart game right = .done result otherAfter ∧
      after.Matches otherAfter) ∨
    ∃ flight otherFlight after otherAfter,
      order.depart game left = .away flight after ∧
      order.depart game right = .away otherFlight otherAfter ∧
      flight.Matches otherFlight ∧ after.Matches otherAfter ∧
      after.journal = left.journal ∧ otherAfter.journal = right.journal := by
  have departures := same.departOrder order game
  generalize leaves : order.depart game left = departure at departures
  generalize otherLeaves : order.depart game right = other at departures
  cases departures with
  | done result sameAfter =>
      exact .inl ⟨result, _, _, rfl, rfl, sameAfter⟩
  | away flights sameAfter =>
      exact .inr ⟨_, _, _, _, rfl, rfl, flights, sameAfter,
        order.journal_of_away leaves, order.journal_of_away otherLeaves⟩

namespace Theatre

variable {left right : Theatre}

/-- Acts that match are answered alike. -/
theorem perform_matches (same : left.Matches right) {act other : Act}
    (acts : act.Matches other) :
    (left.perform act).1 = (right.perform other).1 ∧
      (left.perform act).2.Matches (right.perform other).2 := by
  -- The two sides set out, poll and land together, and what each load finds differs
  -- in models at most.
  cases acts with
  | @go source otherSource sources order =>
      simp only [perform, order.carryOut_eq, sourceNow, ← same.game]
      rcases same.stage.departs order left.game with
        ⟨result, after, otherAfter, leaves, otherLeaves, sameAfter⟩ |
        ⟨flight, otherFlight, after, otherAfter, leaves, otherLeaves, flights,
          sameAfter, journal, otherJournal⟩
      · rw [leaves, otherLeaves]
        exact ⟨rfl, rfl, sameAfter⟩
      · rw [leaves, otherLeaves, ← journal, ← otherJournal]
        obtain ⟨results, ended⟩ := sameAfter.settle flights sources
        exact ⟨congrArg Answer.settled results, rfl, ended⟩
  | @begin source otherSource sources order =>
      simp only [perform, order.begin_eq, sourceNow, ← same.game]
      rcases same.stage.departs order left.game with
        ⟨result, after, otherAfter, leaves, otherLeaves, sameAfter⟩ |
        ⟨flight, otherFlight, after, otherAfter, leaves, otherLeaves, flights,
          sameAfter, journal, otherJournal⟩
      · rw [leaves, otherLeaves]
        exact ⟨rfl, rfl, sameAfter⟩
      · rw [leaves, otherLeaves, ← journal, ← otherJournal]
        obtain ⟨transitions, sameStage⟩ :=
          (sameAfter.fly flights sources false).transition
        exact ⟨congrArg Answer.begun transitions, rfl, sameStage⟩
  | ask order => exact ⟨congrArg Answer.begun (same.stage.ask order), same⟩
  | poll held sources =>
      have flights := same.stage.flight
      simp only [perform, Stage.poll, sourceNow]
      cases under : left.stage.flight with
      | none =>
          rw [under] at flights
          generalize right.stage.flight = otherUnder at flights ⊢
          cases flights with
          | none => exact ⟨rfl, same⟩
      | some flight =>
          rw [under] at flights
          generalize right.stage.flight = otherUnder at flights ⊢
          cases flights with
          | some flights =>
              obtain ⟨transitions, sameAfter⟩ :=
                (same.stage.fly flights sources held).transition
              exact ⟨congrArg (fun transition => Answer.polled (some transition))
                transitions, same.game, sameAfter⟩
  | abandon held =>
      have flights := same.stage.flight
      simp only [perform, Stage.abandon]
      generalize left.stage.flight = under at flights ⊢
      generalize right.stage.flight = otherUnder at flights ⊢
      cases flights with
      | none => exact ⟨rfl, same⟩
      | some flights => exact ⟨rfl, same.game, same.stage.release held flights⟩
  | tick =>
      obtain ⟨reports, games, ticked⟩ := same.stage.tick left.game
      simp only [perform, ← same.game, reports, games]
      exact ⟨trivial, rfl, ticked⟩
  | reset =>
      obtain ⟨answers, restored⟩ := same.stage.reset
      exact ⟨congrArg Answer.reset answers, same.game, restored⟩
  | unload =>
      obtain ⟨answers, cleared⟩ := same.stage.unload
      exact ⟨congrArg Answer.unloaded answers, same.game, cleared⟩
  | change game => exact ⟨rfl, rfl, same.stage⟩

/-! ## Runs -/

theorem opening_matches (map : SceneMap) (settings : StageSettings)
    (markers : Bool) (host other : Host) (game : GameBank) :
    (opening map settings host game).Matches
      (opening map { settings with editorMarkers := markers } other game) :=
  ⟨rfl, rfl, rfl, rfl, rfl, rfl, .none, rfl⟩

theorem run_matches (same : left.Matches right) {acts others : List Act}
    (sameActs : List.Forall₂ Act.Matches acts others) :
    (left.run acts).Matches (right.run others) := by
  induction sameActs generalizing left right with
  | nil => exact same
  | cons first _ inductionHypothesis =>
      exact inductionHypothesis (perform_matches same first).2

theorem answers_match (same : left.Matches right) {acts others : List Act}
    (sameActs : List.Forall₂ Act.Matches acts others) :
    left.answers acts = right.answers others := by
  induction sameActs generalizing left right with
  | nil => rfl
  | cons first _ inductionHypothesis =>
      obtain ⟨answer, sameNext⟩ := perform_matches same first
      rw [answers, answers, answer, inductionHypothesis sameNext]

/-- Take two theatres with the same map, session and settings, but with markers in
one of them or not, and let their callers do the same, with content that differs at
most in which actors have a model. All answers are the same, and after any number
of acts so are the session, the warnings so far, the active scene, whether a load is
under way, and all scenes and sceneries, apart from the nodes of the scenes. -/
theorem nodes_never_matter (map : SceneMap) (settings : StageSettings)
    (markers : Bool) (host other : Host) (game : GameBank)
    {acts others : List Act} (sameActs : List.Forall₂ Act.Matches acts others) :
    let opened := opening map settings host game
    let otherOpened :=
      opening map { settings with editorMarkers := markers } other game
    opened.answers acts = otherOpened.answers others ∧
      ∀ count,
        let left := opened.run (acts.take count)
        let right := otherOpened.run (others.take count)
        left.game = right.game ∧
          left.stage.journal.warnings = right.stage.journal.warnings ∧
          left.stage.active = right.stage.active ∧
          left.stage.activeIndex? = right.stage.activeIndex? ∧
          left.stage.isLoading = right.stage.isLoading ∧
          (∀ id, (left.stage.arena.scene? id).map Scene.unseen =
            (right.stage.arena.scene? id).map Scene.unseen) ∧
          left.stage.arena.sceneries = right.stage.arena.sceneries := by
  intro opened otherOpened
  have start : opened.Matches otherOpened :=
    opening_matches map settings markers host other game
  refine ⟨answers_match start sameActs, fun count => ?_⟩
  intro left right
  have reached : left.Matches right :=
    run_matches start (List.forall₂_take count sameActs)
  have sceneries : left.stage.arena.sceneries = right.stage.arena.sceneries :=
    (congrArg Arena.sceneries reached.stage.arena :)
  refine ⟨reached.game, reached.stage.warnings, reached.stage.active,
    reached.stage.activeIndex?, reached.stage.isLoading, fun id => ?_,
    sceneries⟩
  rw [← Arena.scene?_unseen, reached.stage.arena, Arena.scene?_unseen]

/-- A source of scenes with one actor, who has a model or not, and who kills
himself. -/
def mortalSource (pauses : Nat) (model : Option String) : Source where
  answer
    | .scene _ _ =>
        .ok (⟨⟨0, none, none⟩,
          [⟨"", model, Vec3.zero, 0, 0, [.kill .self], []⟩], [], []⟩ :
            SceneData)
    | .actor environment _ data =>
        .ok (⟨data, data.model.map fun model => ⟨model, environment⟩⟩ :
          ActorAsset)
    | .scenery _ _ => .ok (⟨"", [⟨0, 0⟩], []⟩ : Scenery)
  pauses _ _ := pauses

theorem mortalSource_matches (pauses : Nat) (model other : Option String) :
    (mortalSource pauses model).Matches (mortalSource pauses other) := by
  refine ⟨fun _ _ _ _ => rfl, fun {request otherRequest} same => .inl ?_⟩
  cases request with
  | scene language index =>
      cases otherRequest with
      | scene _ _ => exact ⟨_, _, rfl, rfl, rfl⟩
      | actor _ _ _ => exact same.elim
      | scenery _ _ => exact same.elim
  | actor environment ambience data =>
      cases otherRequest with
      | scene _ _ => exact same.elim
      | actor _ _ _ =>
          exact ⟨_, _, rfl, rfl,
            congrArg (fun data => (⟨data, none⟩ : ActorAsset)) same.2.2⟩
      | scenery _ _ => exact same.elim
  | scenery key ambience =>
      cases otherRequest with
      | scene _ _ => exact same.elim
      | actor _ _ _ => exact same.elim
      | scenery _ _ => exact ⟨_, _, rfl, rfl, rfl⟩

/-- A family that is begun and dropped, then loaded, ticked, left and reset. -/
def mortalActs (model : Option String) : List Act :=
  [.begin (mortalSource 1 model) (.goto 0 false), .abandon false,
    .begin (mortalSource 1 model) (.goto 0 false),
    .poll false (mortalSource 0 model), .tick,
    .begin (mortalSource 0 model) .next, .reset]

/-- An actor with a model gets a node and loses his life just as one without. -/
theorem nodes_never_matter_pair :
    List.Forall₂ Act.Matches (mortalActs (some "")) (mortalActs none) ∧
      (opening pairMap ⟨"", true, 9⟩ Host.quiet ⟨#[], []⟩).answers
          (mortalActs (some "")) =
        (opening pairMap ⟨"", false, 9⟩ Host.quiet ⟨#[], []⟩).answers
          (mortalActs none) ∧
      ((opening pairMap ⟨"", true, 9⟩ Host.quiet ⟨#[], []⟩).run
          (mortalActs (some ""))).stage.host.nodes.nextId ≠
        ((opening pairMap ⟨"", false, 9⟩ Host.quiet ⟨#[], []⟩).run
          (mortalActs none)).stage.host.nodes.nextId := by
  have sources (pauses : Nat) := mortalSource_matches pauses (some "") none
  have sameActs : List.Forall₂ Act.Matches (mortalActs (some ""))
      (mortalActs none) :=
    .cons (.begin (sources 1) _) <| .cons (.abandon false) <|
      .cons (.begin (sources 1) _) <| .cons (.poll false (sources 0)) <|
        .cons .tick <| .cons (.begin (sources 0) _) <| .cons .reset .nil
  exact ⟨sameActs,
    (nodes_never_matter pairMap ⟨"", true, 9⟩ false Host.quiet Host.quiet
      ⟨#[], []⟩ sameActs).1, by decide⟩

end Theatre

end Stagecraft
