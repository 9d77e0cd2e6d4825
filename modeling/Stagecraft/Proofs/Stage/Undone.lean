import Stagecraft.Proofs.Loading.Tickets
import Stagecraft.Proofs.Stage.Marks

/-!
# What fruitless transitions leave

A transition that fails, or whose load is dropped, leaves the stage as it was: only
the mark of the active scene may have changed, and the journal has grown.
-/

namespace Stagecraft

namespace Stage

/-- The last mark counts. -/
theorem setActivity_setActivity (stage : Stage) (id : Option SceneId)
    (first second : Bool) :
    (stage.setActivity id first).setActivity id second =
      stage.setActivity id second := by
  cases id with
  | none => rfl
  | some id =>
      simp only [setActivity, Arena.modifyScene, Slots.modify_modify]
      rfl

/-- The stage with another journal and another load under way. -/
def proceed (journal : Journal) (under : Option Flight) (stage : Stage) :
    Stage :=
  { stage with journal := journal, flight := under }

theorem setActivity_proceed (stage : Stage) (id : Option SceneId)
    (active : Bool) (journal : Journal) (under : Option Flight) :
    (stage.proceed journal under).setActivity id active =
      (stage.setActivity id active).proceed journal under := by
  cases id <;> rfl

/-- Whether a stage is an idle one with a mark on its active scene and with more
notes. -/
def Marked (active : Bool) (before after : Stage) : Prop :=
  ∃ notes : Journal,
    after =
      (before.setActivity before.active active).proceed
        (before.journal ++ notes) none

/-- Whether a stage is an idle one that has set out for a load since. -/
def Waits (under : Option Flight) (before after : Stage) : Prop :=
  ∃ notes : Journal,
    after =
      (before.setActivity before.active false).proceed
        (before.journal ++ notes) under

end Stage

/-! ## Loads -/

theorem Task.poll_grows
    {α : Type} {source : Source} {task : Task α} {start after : Journal}
    {progress : Progress α}
    (polled : task.poll (source.since start.size) start =
      (progress, after)) :
    ∃ notes : Journal, after = start ++ notes := by
  have grown := task.poll_since source start #[]
  rw [Array.append_empty, polled] at grown
  exact ⟨_, congrArg Prod.snd grown⟩

theorem Task.settle_grows
    {α : Type} {source : Source} {task : Task α} {start after : Journal}
    {result : Except LoadError α}
    (settled : task.settle (source.since start.size) start =
      (result, after)) :
    ∃ notes : Journal, after = start ++ notes := by
  have grown := task.settle_since source start #[]
  rw [Array.append_empty, settled] at grown
  exact ⟨_, congrArg Prod.snd grown⟩

namespace Stage

variable {before stage after : Stage} {flight : Flight}
  {under : Option Flight} {source : Source}

/-- What is left behind by a load that is let go of: the active scene is marked again,
unless somebody holds on to the state. -/
theorem marked_of_release
    (waits : Waits under before stage)
    (previous : flight.previous = before.active) {journal : Journal}
    (grown : ∃ notes : Journal, journal = stage.journal ++ notes)
    (held : Bool) :
    Marked (!held) before
      ({ stage with journal := journal }.release held flight) := by
  obtain ⟨notes, rfl⟩ := waits
  obtain ⟨later, rfl⟩ := grown
  unfold release
  cases held with
  | true =>
      cases active : before.active with
      | none =>
          rw [previous, active]
          exact ⟨notes ++ later, by
            rw [active]
            simp only [proceed, Array.append_assoc, if_true, Bool.not_true]⟩
      | some id =>
          rw [previous, active]
          refine ⟨(notes ++ later).push (.warning (.previousSceneNotRestored id)),
            ?_⟩
          rw [active]
          simp only [warn, note, proceed, Bool.not_true, if_true,
            Array.push_append, Array.append_assoc]
  | false =>
      refine ⟨notes ++ later, ?_⟩
      have proceeds (stage : Stage) (journal : Journal) :
          setActivity { stage with journal := journal, flight := none }
              flight.previous true =
            (stage.setActivity before.active true).proceed journal none := by
        rw [previous]
        exact setActivity_proceed stage before.active true journal none
      simp only [Bool.false_eq_true, if_false, proceeds, Bool.not_false]
      rw [setActivity_proceed, setActivity_setActivity]
      simp only [proceed, Array.append_assoc]

/-- What a failed load leaves behind. -/
theorem marked_of_miss
    (waits : Waits under before stage)
    (previous : flight.previous = before.active) {journal : Journal}
    (grown : ∃ notes : Journal, journal = stage.journal ++ notes)
    (held : Bool) (error : LoadError) :
    Marked (!held) before
      ({ stage with journal := journal }.miss held flight error) := by
  obtain ⟨notes, rfl⟩ := grown
  exact marked_of_release waits previous
    ⟨notes.push (.warning (.sceneLoadFailed flight.target error)),
      Array.push_append⟩ held

theorem waits_of_fly
    (waits : Waits under before stage)
    (previous : flight.previous = before.active) {held : Bool}
    (flown : (stage.fly held (source.since stage.journal.size)
      flight).transition = (.pending, after)) :
    ∃ rest, rest.previous = before.active ∧
      Waits (some rest) before after := by
  have flies := stage.flies held (source.since stage.journal.size) flight
  generalize stage.fly held (source.since stage.journal.size) flight = course
    at flies flown
  cases flies with
  | @waits rest journal polled =>
      obtain ⟨later, rfl⟩ := Task.poll_grows polled
      obtain ⟨notes, rfl⟩ := waits
      simp only [Course.transition, Prod.mk.injEq, true_and] at flown
      subst flown
      refine ⟨{ flight with task := rest }, previous, notes ++ later, ?_⟩
      simp only [proceed, Array.append_assoc]
  | lands | fails | panics => simp [Course.transition] at flown

/-- What a load leaves behind that comes to nothing when it is polled. -/
theorem marked_of_fly
    (waits : Waits under before stage)
    (previous : flight.previous = before.active) {held : Bool}
    (missed : (stage.fly held (source.since stage.journal.size)
      flight).misses = true) :
    Marked (!held) before
      (stage.fly held (source.since stage.journal.size) flight).stage := by
  have flies := stage.flies held (source.since stage.journal.size) flight
  generalize stage.fly held (source.since stage.journal.size) flight = course
    at flies missed ⊢
  cases flies with
  | waits | lands => simp [Course.misses] at missed
  | @fails error _ polled =>
      exact marked_of_miss waits previous (Task.poll_grows polled) held error
  | panics grip polled =>
      exact marked_of_release waits previous (Task.poll_grows polled) held

end Stage

/-! ## Setting out -/

namespace Order

variable {order : Order} {game : GameBank} {before after : Stage}

/-- An order that needs a load has a known target, and the active scene comes to
rest. -/
theorem waits_of_depart
    {flight : Flight}
    (leaves : order.depart game before = .away flight after) :
    flight.previous = before.active ∧ Stage.Waits none before after ∧
      after.journal = before.journal ∧
        ∃ target force kind, order.target? before = some (target, force) ∧
          before.map.kind? target = some kind := by
  have departs := order.departs game before
  rw [leaves] at departs
  cases departs with
  | @towards target force _ aim departs =>
      cases departs with
      | @away idle wanted kind known apart =>
          have sameJournal :
              (before.setActivity before.active false).journal =
                before.journal := by
            cases before.active <;> rfl
          refine ⟨rfl, ⟨#[], ?_⟩, sameJournal, target, force, kind, aim,
            known⟩
          rw [Array.append_empty, ← idle]
          cases before.active <;> rfl

end Order

/-! ## Fruitless calls -/

namespace Theatre

/-- Whether acts see a load under way to an end without success: it is polled
until it comes to nothing, or it is dropped. The flag tells whether the previous scene
gets its mark back, which happens unless somebody holds on to the state then. -/
inductive Loses : Theatre → List Act → Bool → Prop where
  | misses {theatre : Theatre} {held : Bool} {source : Source}
      (answered : (theatre.perform (.poll held source)).1.misses = true) :
      Loses theatre [.poll held source] (!held)
  | drops {theatre : Theatre} (held : Bool) :
      Loses theatre [.abandon held] (!held)
  | waits {theatre : Theatre} {held : Bool} {source : Source}
      {rest : List Act} {restored : Bool}
      (answered : (theatre.perform (.poll held source)).1 =
        .polled (some .pending))
      (loses : Loses (theatre.perform (.poll held source)).2 rest restored) :
      Loses theatre (.poll held source :: rest) restored

/-- Whether acts are a transition that comes to nothing: it fails, at once or
after any number of polls, or its load is dropped. -/
inductive Fruitless (order : Order) (theatre : Theatre) :
    List Act → Bool → Prop where
  | refused {source : Source} {error : LoadError}
      (answered : (theatre.perform (.go source order)).1 =
        .settled (.error error)) :
      Fruitless order theatre [.go source order] true
  | failed {source : Source} {error : LoadError}
      (answered : (theatre.perform (.begin source order)).1 =
        .begun (.over (.error error))) :
      Fruitless order theatre [.begin source order] true
  | denied {error : LoadError}
      (answered : (theatre.perform (.ask order)).1 =
        .begun (.over (.error error))) :
      Fruitless order theatre [.ask order] true
  | lost {source : Source} {rest : List Act} {restored : Bool}
      (answered : (theatre.perform (.begin source order)).1 =
        .begun .pending)
      (loses : Loses (theatre.perform (.begin source order)).2 rest
        restored) :
      Fruitless order theatre (.begin source order :: rest) restored

variable {theatre : Theatre} {before : Stage}

theorem perform_poll
    {flight : Flight} (under : theatre.stage.flight = some flight)
    (held : Bool) (source : Source) :
    theatre.perform (.poll held source) =
      (.polled (some
          (theatre.stage.fly held (theatre.sourceNow source)
            flight).transition.1),
        { theatre with
          stage :=
            (theatre.stage.fly held (theatre.sourceNow source)
              flight).transition.2 }) := by
  simp only [perform, Stage.poll, under]

theorem flight_of_waits
    {under : Option Flight} {stage : Stage}
    (waits : Stage.Waits under before stage) :
    stage.flight = under := by
  obtain ⟨notes, rfl⟩ := waits
  rfl

/-- A load that is lost leaves no more than a mark behind. -/
theorem marked_of_loses
    {acts : List Act} {restored : Bool}
    (loses : theatre.Loses acts restored) {flight : Flight}
    (previous : flight.previous = before.active)
    (waits : Stage.Waits (some flight) before theatre.stage) :
    (theatre.run acts).game = theatre.game ∧
      Stage.Marked restored before (theatre.run acts).stage := by
  induction loses generalizing flight with
  | @misses theatre held source answered =>
      have under := flight_of_waits waits
      rw [perform_poll under, Answer.misses_polled] at answered
      rw [run_cons, run_nil, perform_poll under, Stage.Course.transition_stage]
      exact ⟨rfl, Stage.marked_of_fly waits previous answered⟩
  | @drops theatre held =>
      have under := flight_of_waits waits
      have dropped :
          theatre.perform (.abandon held) =
            (.abandoned true,
              { theatre with stage := theatre.stage.release held flight }) := by
        simp only [perform, Stage.abandon, under]
      rw [run_cons, run_nil, dropped]
      exact ⟨rfl, Stage.marked_of_release waits previous ⟨#[], by simp⟩ held⟩
  | @waits theatre held source rest restored answered loses
      inductionHypothesis =>
      have under := flight_of_waits waits
      rw [perform_poll under] at answered inductionHypothesis
      have pending :
          (theatre.stage.fly held (theatre.sourceNow source)
            flight).transition.1 = .pending :=
        Option.some.inj (Answer.polled.inj answered)
      obtain ⟨later, stillPrevious, stillWaits⟩ :=
        Stage.waits_of_fly waits previous (Prod.ext pending rfl)
      rw [run_cons, perform_poll under]
      exact inductionHypothesis stillPrevious stillWaits

/-- How a stage stands after an order that came to nothing: nothing was touched,
as the target is unknown, or no more than the mark of the active scene. -/
inductive Undone (order : Order) (restored : Bool)
    (before after : Stage) : Prop where
  | untouched {target : SceneIndex} {force : Bool}
      (wanted : order.target? before = some (target, force))
      (unknown : before.map.kind? target = none)
      (same : after = before)
  | marked {target : SceneIndex} {force : Bool} {kind : SceneKind}
      (wanted : order.target? before = some (target, force))
      (known : before.map.kind? target = some kind)
      (marked : Stage.Marked restored before after)

section Calls

variable {order : Order} {source : Source}

/-- An order that is refused at once has an unknown target, and nothing is
touched. -/
theorem undone_of_depart
    {game : GameBank} {after : Stage} {error : LoadError} {restored : Bool}
    (refused : order.depart game before = .done (.error error) after) :
    Undone order restored before after := by
  have departs := order.departs game before
  rw [refused] at departs
  cases departs with
  | towards aim departs =>
      cases departs with
      | unknown idle wanted missing => exact .untouched aim missing rfl

theorem undone_of_refused
    {error : LoadError}
    (answered : (theatre.perform (.go source order)).1 =
      .settled (.error error)) :
    (theatre.perform (.go source order)).2.game = theatre.game ∧
      Undone order true theatre.stage
        (theatre.perform (.go source order)).2.stage := by
  refine ⟨rfl, ?_⟩
  simp only [perform, Order.carryOut_eq, sourceNow] at answered ⊢
  cases left : order.depart theatre.game theatre.stage with
  | done result after =>
      rw [left] at answered
      have failed : result = .error error := Answer.settled.inj answered
      rw [failed] at left
      exact undone_of_depart left
  | away flight after =>
      rw [left] at answered
      obtain ⟨previous, waits, sameJournal, target, force, kind, wanted,
        known⟩ := Order.waits_of_depart left
      refine .marked wanted known ?_
      dsimp only at answered ⊢
      rw [← sameJournal] at answered ⊢
      cases settled :
          flight.task.settle (source.since after.journal.size)
            after.journal with
      | mk result journal =>
          rw [settled] at answered
          cases result with
          | ok loaded =>
              simp [Stage.conclude] at answered
          | error failure =>
              exact Stage.marked_of_miss waits previous
                (Task.settle_grows settled) false failure

theorem undone_of_failed
    {error : LoadError}
    (answered : (theatre.perform (.begin source order)).1 =
      .begun (.over (.error error))) :
    (theatre.perform (.begin source order)).2.game = theatre.game ∧
      Undone order true theatre.stage
        (theatre.perform (.begin source order)).2.stage := by
  refine ⟨rfl, ?_⟩
  simp only [perform, Order.begin_eq, sourceNow] at answered ⊢
  cases left : order.depart theatre.game theatre.stage with
  | done result after =>
      rw [left] at answered
      have failed : result = .error error :=
        Transition.over.inj (Answer.begun.inj answered)
      rw [failed] at left
      exact undone_of_depart left
  | away flight after =>
      rw [left] at answered
      obtain ⟨previous, waits, sameJournal, target, force, kind, wanted,
        known⟩ := Order.waits_of_depart left
      refine .marked wanted known ?_
      dsimp only at answered ⊢
      rw [← sameJournal] at answered ⊢
      rw [Stage.Course.transition_stage]
      refine Stage.marked_of_fly waits previous ?_
      exact Stage.Course.misses_of_transition (Answer.begun.inj answered)

theorem undone_of_denied
    {error : LoadError}
    (answered : (theatre.perform (.ask order)).1 =
      .begun (.over (.error error))) :
    Undone order true theatre.stage theatre.stage := by
  have asks := order.asks theatre.stage
  have told : order.ask theatre.stage = .over (.error error) :=
    Answer.begun.inj answered
  rw [told] at asks
  cases asks with
  | unknown aim missing => exact .untouched aim missing rfl

theorem waits_of_begun
    (answered : (theatre.perform (.begin source order)).1 =
      .begun .pending) :
    (theatre.perform (.begin source order)).2.game = theatre.game ∧
      (∃ flight, flight.previous = theatre.stage.active ∧
        Stage.Waits (some flight) theatre.stage
          (theatre.perform (.begin source order)).2.stage) ∧
      ∃ target force kind,
        order.target? theatre.stage = some (target, force) ∧
          theatre.stage.map.kind? target = some kind := by
  refine ⟨rfl, ?_⟩
  simp only [perform, Order.begin_eq, sourceNow] at answered ⊢
  cases left : order.depart theatre.game theatre.stage with
  | done result after =>
      rw [left] at answered
      simp at answered
  | away flight after =>
      rw [left] at answered
      obtain ⟨previous, waits, sameJournal, target, force, kind, wanted,
        known⟩ := Order.waits_of_depart left
      refine ⟨?_, target, force, kind, wanted, known⟩
      dsimp only at answered ⊢
      rw [← sameJournal] at answered ⊢
      exact Stage.waits_of_fly waits previous
        (Prod.ext (Answer.begun.inj answered) rfl)

/-- A transition that comes to nothing leaves the session alone, and the stage as
it was but for a mark. -/
theorem undone_of_fruitless
    {acts : List Act} {restored : Bool}
    (fruitless : Fruitless order theatre acts restored) :
    (theatre.run acts).game = theatre.game ∧
      Undone order restored theatre.stage (theatre.run acts).stage := by
  cases fruitless with
  | refused answered => exact undone_of_refused answered
  | failed answered => exact undone_of_failed answered
  | denied answered => exact ⟨rfl, undone_of_denied answered⟩
  | @lost source rest restored answered loses =>
      obtain ⟨sameGame, ⟨flight, previous, waits⟩, target, force, kind,
        wanted, known⟩ := waits_of_begun answered
      obtain ⟨stillGame, marked⟩ := marked_of_loses loses previous waits
      exact ⟨stillGame.trans sameGame, .marked wanted known marked⟩

/-- Nothing but `ignored` is answered while a load is under way. -/
theorem idle_of_fruitless
    {acts : List Act} {restored : Bool}
    (fruitless : Fruitless order theatre acts restored) :
    theatre.stage.flight = none := by
  cases under : theatre.stage.flight with
  | none => rfl
  | some flight =>
      have loading : theatre.stage.isLoading = true := by
        rw [Stage.isLoading, under]
        rfl
      have ignored :=
        Order.depart_of_isLoading loading order theatre.game
      cases fruitless with
      | refused answered =>
          simp [perform, Order.carryOut_eq, ignored] at answered
      | failed answered =>
          simp [perform, Order.begin_eq, ignored] at answered
      | denied answered =>
          simp [perform, Order.ask, Order.verdict?_of_isLoading loading]
            at answered
      | lost answered loses =>
          simp [perform, Order.begin_eq, ignored] at answered

end Calls

/-! ## What is left as it was -/

section Remains

variable {before after : Stage} {order : Order} {restored : Bool}

theorem isLoading_of_undone
    {order : Order} {restored : Bool} {before after : Stage}
    (idle : before.flight = none)
    (undone : Undone order restored before after) :
    after.isLoading = false := by
  rw [Stage.isLoading_eq_false_iff]
  cases undone with
  | untouched _ _ same => rw [same, idle]
  | marked _ _ marked =>
      obtain ⟨notes, rfl⟩ := marked
      rfl

theorem host_of_undone
    (undone : Undone order restored before after) :
    after.host = before.host := by
  cases undone with
  | untouched _ _ same => rw [same]
  | marked _ _ marked =>
      obtain ⟨notes, rfl⟩ := marked
      cases before.active <;> rfl

theorem active_of_undone
    (undone : Undone order restored before after) :
    after.active = before.active := by
  cases undone with
  | untouched _ _ same => rw [same]
  | marked _ _ marked =>
      obtain ⟨notes, rfl⟩ := marked
      exact Stage.setActivity_active before before.active restored

theorem sceneries_of_undone
    (undone : Undone order restored before after) :
    after.arena.sceneries = before.arena.sceneries := by
  cases undone with
  | untouched _ _ same => rw [same]
  | marked _ _ marked =>
      obtain ⟨notes, rfl⟩ := marked
      cases before.active <;> rfl

theorem nextScene_of_undone
    (undone : Undone order restored before after) :
    after.arena.nextScene = before.arena.nextScene := by
  cases undone with
  | untouched _ _ same => rw [same]
  | marked _ _ marked =>
      obtain ⟨notes, rfl⟩ := marked
      cases before.active with
      | none => rfl
      | some id => exact before.arena.scenes.nextId_modify id _

theorem scene?_of_marked
    (marked : Stage.Marked restored before after) (id : SceneId) :
    after.arena.scene? id =
      if some id = before.active then
        (before.arena.scene? id).map (Scene.withActive restored)
      else
        before.arena.scene? id := by
  obtain ⟨notes, rfl⟩ := marked
  cases active : before.active with
  | none => rfl
  | some other =>
      show (before.arena.modifyScene other
        (Scene.withActive restored)).scene? id = _
      rw [Arena.scene?_modifyScene]
      by_cases own : id = other
      · rw [if_pos own, if_pos (congrArg some own)]
      · rw [if_neg own, if_neg fun same => own (Option.some.inj same)]

theorem scene?_of_undone
    (undone : Undone order restored before after) {id : SceneId}
    (apart : some id ≠ before.active) :
    after.arena.scene? id = before.arena.scene? id := by
  cases undone with
  | untouched _ _ same => rw [same]
  | marked _ _ marked => rw [scene?_of_marked marked id, if_neg apart]

theorem eq_of_undone_unknown
    {target : SceneIndex} {force : Bool}
    (undone : Undone (.goto target force) restored before after)
    (missing : before.map.kind? target = none) :
    after = before := by
  cases undone with
  | untouched _ _ same => exact same
  | marked wanted known _ =>
      obtain ⟨rfl, rfl⟩ := Prod.mk.inj (Option.some.inj wanted)
      rw [missing] at known
      simp at known

theorem scene?_active_of_undone
    {target : SceneIndex} {force : Bool}
    (undone : Undone (.goto target force) restored before after)
    (isKnown : (before.map.kind? target).isSome) {id : SceneId}
    (active : before.active = some id) :
    after.arena.scene? id =
      (before.arena.scene? id).map (Scene.withActive restored) := by
  cases undone with
  | untouched wanted unknown _ =>
      obtain ⟨rfl, rfl⟩ := Prod.mk.inj (Option.some.inj wanted)
      rw [unknown] at isKnown
      simp at isKnown
  | marked _ _ marked =>
      rw [scene?_of_marked marked id, if_pos active.symm]

/-- On a stage whose active scene is marked, marking it again does nothing. -/
theorem setActivity_of_lit
    {stage : Stage} (lit : stage.Lit) (idle : stage.flight = none) :
    stage.setActivity stage.active true = stage := by
  cases active : stage.active with
  | none => rfl
  | some id =>
      have marks := lit id active
      rw [Stage.isLoading, idle] at marks
      have kept :
          stage.arena.scenes.modify id (Scene.withActive true) =
            stage.arena.scenes := by
        refine Eq.trans ?_ (stage.arena.scenes.modify_id id)
        refine stage.arena.scenes.modify_congr id fun scene stored => ?_
        have marked : scene.active = true := marks scene stored
        rw [Scene.withActive, ← marked]
      simp only [Stage.setActivity, Arena.modifyScene, kept]

/-- Where the mark was right before, nothing but notes is left behind. -/
theorem eq_of_undone_lit
    (undone : Undone order true before after) (lit : before.Lit)
    (idle : before.flight = none) :
    after = { before with journal := after.journal } := by
  cases undone with
  | untouched _ _ same => rw [same]
  | marked _ _ marked =>
      obtain ⟨notes, same⟩ := marked
      rw [setActivity_of_lit lit idle, Stage.proceed, ← idle] at same
      rw [same]

end Remains

end Theatre

end Stagecraft
