import Stagecraft.Loop.Run
import Stagecraft.Proofs.Script.Tidiness
import Stagecraft.Proofs.Session.SaveText
import Stagecraft.Proofs.Stage.Arrivals

/-!
# Turns of a run

A step of a run is a turn of a plain iteration: a tick, then the transition to the
first scene that its report asks for. Around it a run only counts, saves after a
change of the scene and warns of what went wrong.
-/

namespace Stagecraft

/-! ## Counters -/

/-- A counter of 64 bits counts right, but not beyond its largest value. -/
@[simp]
theorem toNat_countUp64 (counter : UInt64) :
    (countUp64 counter).toNat = min (counter.toNat + 1) (UInt64.size - 1) := by
  have bound := counter.toNat_lt_size
  unfold countUp64
  split
  · next room =>
      rw [UInt64.toNat_add, UInt64.toNat_one, Nat.mod_eq_of_lt room]
      omega
  · next full => omega

/-- A counter of 32 bits counts right, but not beyond its largest value. -/
@[simp]
theorem toNat_countUp32 (counter : UInt32) :
    (countUp32 counter).toNat = min (counter.toNat + 1) (UInt32.size - 1) := by
  have bound := counter.toNat_lt_size
  unfold countUp32
  split
  · next room =>
      rw [UInt32.toNat_add, UInt32.toNat_one, Nat.mod_eq_of_lt room]
      omega
  · next full => omega

/-! ## Plain iteration -/

/-- What a turn of a plain iteration comes to: the game variables, where the tick asked
to go and how the transition went, if it did, and the stage. -/
structure Turn where
  game : GameBank
  outcome : Option (SceneIndex × Except LoadError Outcome)
  stage : Stage

namespace Turn

/-- Whether a turn put another scene on the stage. -/
def succeeds (turn : Turn) : Bool :=
  turn.outcome.any fun went => Stage.changes went.2

/-- The stage after a turn, with a warning if it asked for a transition that
failed. -/
def settled (turn : Turn) : Stage :=
  match turn.outcome with
  | some (target, .error error) =>
      turn.stage.warn (.sceneChangeFailed target error)
  | _ => turn.stage

theorem settled_of_succeeds {turn : Turn} (succeeds : turn.succeeds = true) :
    turn.settled = turn.stage := by
  unfold Turn.succeeds at succeeds
  unfold settled
  split
  · next target error failed =>
      rw [failed] at succeeds
      cases succeeds
  · rfl

theorem activeIndex?_settled (turn : Turn) :
    turn.settled.activeIndex? = turn.stage.activeIndex? := by
  unfold settled
  split <;> rfl

theorem shows_settled {turn : Turn} {index : SceneIndex}
    (shows : turn.stage.Shows index) : turn.settled.Shows index := by
  unfold settled
  split
  · exact Stage.shows_warn shows _
  · exact shows

end Turn

/-- A turn of a plain iteration. -/
def Stage.turn (source : Source) (game : GameBank) (stage : Stage) : Turn :=
  let (report, game, ticked) := stage.tick game
  match requestedScene report.events with
  | none => ⟨game, none, ticked⟩
  | some target =>
      let (outcome, landed) := ticked.goto source game target false
      ⟨game, some (target, outcome), landed⟩

namespace Run

/-- The turn that is next in a run. -/
def turn (run : Run) : Turn := run.stage.turn run.source run.game

/-- Whether a step from one state of a run to another one is a turn, besides the
bookkeeping. A turn that succeeds leads to another active scene and counts; the
session is saved with that scene at once, and a save that fails costs a warning.
Any other turn leaves the active scene and all files as they are. -/
structure TurnsInto (before after : Run) : Prop where
  content : after.content = before.content
  savePath : after.savePath = before.savePath
  ticks : after.ticks = countUp64 before.ticks
  game : after.game = before.turn.game
  succeeds : before.turn.succeeds = true →
    let written := after.save.store before.files before.savePath
    after.stage.activeIndex? ≠ before.stage.activeIndex? ∧
      after.sceneChanges = countUp32 before.sceneChanges ∧
      after.files = written.1 ∧
      after.stage =
        if written.2 then before.turn.stage
        else before.turn.stage.warn
          (.checkpointFailed before.savePath .unwritten)
  stays : before.turn.succeeds = false →
    after.stage.activeIndex? = before.stage.activeIndex? ∧
      after.sceneChanges = before.sceneChanges ∧
      after.files = before.files ∧
      after.stage = before.turn.settled

/-- Whether a run is in order: its session is tidy, and its stage shows a
scene. -/
structure Sound (run : Run) : Prop where
  tidy : run.game.Tidy
  shows : ∃ index, run.stage.Shows index

variable {run : Run}

/-! ## What a turn does -/

/-- What becomes of a run in its next turn, by what the tick asks for. -/
inductive Plays (run : Run) : Turn → Run → Prop where
  | quiet {report : Stage.Report} {game : GameBank} {stage : Stage}
      (ticked : run.stage.tick run.game = (report, game, stage))
      (silent : requestedScene report.events = none) :
      Plays run ⟨game, none, stage⟩
        { run with
          game := game
          stage := stage
          ticks := countUp64 run.ticks }
  | asked {report : Stage.Report} {game : GameBank} {stage : Stage}
      {target : SceneIndex}
      (ticked : run.stage.tick run.game = (report, game, stage))
      (asks : requestedScene report.events = some target) :
      Plays run
        ⟨game, some (target, (stage.goto run.source game target false).1),
          (stage.goto run.source game target false).2⟩
        (follow target
          { run with
            game := game
            stage := stage
            ticks := countUp64 run.ticks })

theorem plays_turn (run : Run) : run.Plays run.turn run.step := by
  unfold turn Stage.turn step
  cases ticked : run.stage.tick run.game with
  | mk report rest =>
      obtain ⟨game, stage⟩ := rest
      cases request : requestedScene report.events with
      | none =>
          simp only [request]
          exact .quiet ticked request
      | some target =>
          simp only [request]
          exact .asked ticked request

theorem tidy_turn (tidy : run.game.Tidy) : run.turn.game.Tidy := by
  have after := run.stage.tidy_tick tidy
  have plays := run.plays_turn
  generalize run.turn = turn, run.step = next at plays ⊢
  cases plays with
  | quiet ticked silent =>
      rw [ticked] at after
      exact after
  | asked ticked asks =>
      rw [ticked] at after
      exact after

/-- A turn that succeeds leads to another scene, any other one keeps the scene. -/
theorem shows_turn {index : SceneIndex} (shows : run.stage.Shows index) :
    (run.turn.succeeds = true →
        ∃ target, run.turn.stage.Shows target ∧ target ≠ index) ∧
      (run.turn.succeeds = false → run.turn.stage.Shows index) := by
  have after := Stage.shows_tick shows run.game
  have plays := run.plays_turn
  generalize run.turn = turn, run.step = next at plays ⊢
  cases plays with
  | quiet ticked silent =>
      rw [ticked] at after
      exact ⟨fun succeeds => absurd succeeds Bool.false_ne_true,
        fun _ => after⟩
  | @asked _ game _ target ticked asks =>
      rw [ticked] at after
      have went := Stage.shows_goto run.source game target after
      exact ⟨fun succeeds => ⟨target, went.1 succeeds⟩, went.2⟩

/-! ## Following a request -/

section Follow

variable (run : Run) {target : SceneIndex}

/-- After a transition that changed something, the session is saved. -/
theorem follow_of_changes
    (changed : Stage.changes
      (run.stage.goto run.source run.game target false).1 = true) :
    run.follow target =
      checkpoint
        { run with
          stage := (run.stage.goto run.source run.game target false).2
          sceneChanges := countUp32 run.sceneChanges } := by
  unfold follow
  generalize run.stage.goto run.source run.game target false = landed at *
  obtain ⟨outcome, stage⟩ := landed
  cases outcome with
  | error error => exact absurd changed Bool.false_ne_true
  | ok outcome =>
      cases outcome with
      | ignored => exact absurd changed Bool.false_ne_true
      | swapped scene => rfl
      | loaded scene => rfl

/-- A request that changed nothing costs a warning at most. -/
theorem follow_of_keeps
    (kept : Stage.changes
      (run.stage.goto run.source run.game target false).1 = false) :
    let (outcome, landed) := run.stage.goto run.source run.game target false
    run.follow target =
      { run with
        stage := Turn.settled ⟨run.game, some (target, outcome), landed⟩ } := by
  unfold follow
  generalize run.stage.goto run.source run.game target false = went at *
  obtain ⟨outcome, stage⟩ := went
  cases outcome with
  | error error => rfl
  | ok outcome =>
      cases outcome with
      | ignored => rfl
      | swapped scene => exact absurd kept.symm Bool.false_ne_true
      | loaded scene => exact absurd kept.symm Bool.false_ne_true

end Follow

theorem checkpoint_eq (run : Run) :
    run.checkpoint =
      { run with
        files := (run.save.store run.files run.savePath).1
        stage :=
          if (run.save.store run.files run.savePath).2 then run.stage
          else run.stage.warn (.checkpointFailed run.savePath .unwritten) } := by
  unfold checkpoint
  generalize run.save.store run.files run.savePath = written
  obtain ⟨files, saved⟩ := written
  rfl

theorem save_checkpoint (run : Run) : run.checkpoint.save = run.save := by
  rw [checkpoint_eq]
  generalize run.save.store run.files run.savePath = written
  obtain ⟨files, saved⟩ := written
  cases saved <;> rfl

theorem sound_checkpoint {index : SceneIndex} (tidy : run.game.Tidy)
    (shows : run.stage.Shows index) : run.checkpoint.Sound := by
  rw [checkpoint_eq]
  refine ⟨tidy, index, ?_⟩
  generalize run.save.store run.files run.savePath = written
  obtain ⟨files, saved⟩ := written
  cases saved with
  | true => exact shows
  | false => exact Stage.shows_warn shows _

/-! ## One step -/

theorem step_of_succeeds (succeeds : run.turn.succeeds = true) :
    run.step =
      checkpoint
        { run with
          game := run.turn.game
          stage := run.turn.stage
          ticks := countUp64 run.ticks
          sceneChanges := countUp32 run.sceneChanges } := by
  have plays := run.plays_turn
  generalize run.turn = turn, run.step = next at plays succeeds ⊢
  cases plays with
  | quiet ticked silent => exact absurd succeeds Bool.false_ne_true
  | asked ticked asks => exact follow_of_changes _ succeeds

theorem step_of_stays (stays : run.turn.succeeds = false) :
    run.step =
      { run with
        game := run.turn.game
        stage := run.turn.settled
        ticks := countUp64 run.ticks } := by
  have plays := run.plays_turn
  generalize run.turn = turn, run.step = next at plays stays ⊢
  cases plays with
  | quiet ticked silent => rfl
  | asked ticked asks => exact follow_of_keeps _ stays

theorem turnsInto_of_succeeds (succeeds : run.turn.succeeds = true)
    (moved : run.turn.stage.activeIndex? ≠ run.stage.activeIndex?) :
    run.TurnsInto run.step := by
  have stepped := step_of_succeeds succeeds
  -- The save after the turn is the one before the checkpoint: a warning does not
  -- show in it.
  generalize reached :
    { run with
      game := run.turn.game
      stage := run.turn.stage
      ticks := countUp64 run.ticks
      sceneChanges := countUp32 run.sceneChanges : Run } = landed at stepped
  have saves : run.step.save = landed.save := by
    rw [stepped, save_checkpoint]
  have same : run.step.stage.activeIndex? = run.turn.stage.activeIndex? := by
    have scenes := congrArg Save.scene saves
    rw [← reached] at scenes
    exact scenes
  rw [checkpoint_eq] at stepped
  constructor
  · rw [stepped, ← reached]
  · rw [stepped, ← reached]
  · rw [stepped, ← reached]
  · rw [stepped, ← reached]
  · intro _
    refine ⟨fun stayed => moved (same.symm.trans stayed), ?_, ?_, ?_⟩
    · rw [stepped, ← reached]
    · rw [saves, stepped, ← reached]
    · rw [saves, stepped, ← reached]
  · exact fun stays =>
      absurd (stays.symm.trans succeeds) Bool.false_ne_true

theorem turnsInto_of_stays (stays : run.turn.succeeds = false)
    (same : run.turn.stage.activeIndex? = run.stage.activeIndex?) :
    run.TurnsInto run.step := by
  have stepped := step_of_stays stays
  have stillSame : run.step.stage.activeIndex? = run.stage.activeIndex? := by
    rw [stepped]
    exact run.turn.activeIndex?_settled.trans same
  constructor
  · rw [stepped]
  · rw [stepped]
  · rw [stepped]
  · rw [stepped]
  · exact fun succeeds =>
      absurd (stays.symm.trans succeeds) Bool.false_ne_true
  · intro _
    refine ⟨stillSame, ?_, ?_, ?_⟩
    · rw [stepped]
    · rw [stepped]
    · rw [stepped]

theorem turnsInto_step (sound : run.Sound) : run.TurnsInto run.step := by
  obtain ⟨index, shows⟩ := sound.shows
  have shown := shows.activeIndex?
  have lands := shows_turn shows
  cases succeeds : run.turn.succeeds with
  | true =>
      obtain ⟨target, arrived, elsewhere⟩ := lands.1 succeeds
      refine turnsInto_of_succeeds succeeds ?_
      rw [arrived.activeIndex?, shown]
      exact fun same => elsewhere (Option.some.inj same)
  | false =>
      have stays := lands.2 succeeds
      exact turnsInto_of_stays succeeds
        (stays.activeIndex?.trans shown.symm)

theorem Sound.step (sound : run.Sound) : run.step.Sound := by
  obtain ⟨index, shows⟩ := sound.shows
  have tidy := tidy_turn sound.tidy
  have lands := shows_turn shows
  cases succeeds : run.turn.succeeds with
  | true =>
      obtain ⟨target, arrived, _⟩ := lands.1 succeeds
      rw [step_of_succeeds succeeds]
      exact sound_checkpoint tidy arrived
  | false =>
      have stays := lands.2 succeeds
      rw [step_of_stays succeeds]
      exact ⟨tidy, index, Turn.shows_settled stays⟩

/-! ## Many steps -/

theorem steps_succ (run : Run) (count : Nat) :
    run.steps (count + 1) = (run.steps count).step := by
  induction count generalizing run with
  | zero => rfl
  | succ count inductionHypothesis => exact inductionHypothesis run.step

theorem Sound.steps (sound : run.Sound) (count : Nat) :
    (run.steps count).Sound := by
  induction count with
  | zero => exact sound
  | succ count inductionHypothesis =>
      rw [steps_succ]
      exact inductionHypothesis.step

theorem turnsInto_steps (sound : run.Sound) (count : Nat) :
    (run.steps count).TurnsInto (run.steps (count + 1)) := by
  rw [steps_succ]
  exact turnsInto_step (sound.steps count)

theorem savePath_steps (sound : run.Sound) (count : Nat) :
    (run.steps count).savePath = run.savePath := by
  induction count with
  | zero => rfl
  | succ count inductionHypothesis =>
      exact (turnsInto_steps sound count).savePath.trans inductionHypothesis

theorem ticks_steps (sound : run.Sound) (count : Nat) :
    (run.steps count).ticks.toNat =
      min (run.ticks.toNat + count) (UInt64.size - 1) := by
  induction count with
  | zero =>
      have bound := run.ticks.toNat_lt_size
      show run.ticks.toNat = _
      omega
  | succ count inductionHypothesis =>
      rw [(turnsInto_steps sound count).ticks, toNat_countUp64,
        inductionHypothesis]
      omega

/-- Whether another scene is active after a turn than before. -/
def movesAt (run : Run) (turn : Nat) : Bool :=
  decide ((run.steps (turn + 1)).stage.activeIndex? ≠
    (run.steps turn).stage.activeIndex?)

theorem sceneChanges_steps (sound : run.Sound) (count : Nat) :
    (run.steps count).sceneChanges.toNat =
      min (run.sceneChanges.toNat + (List.range count).countP run.movesAt)
        (UInt32.size - 1) := by
  induction count with
  | zero =>
      have bound := run.sceneChanges.toNat_lt_size
      show run.sceneChanges.toNat = min (run.sceneChanges.toNat + 0) _
      omega
  | succ count inductionHypothesis =>
      have turns := turnsInto_steps sound count
      rw [List.range_succ, List.countP_append, List.countP_singleton]
      cases succeeds : (run.steps count).turn.succeeds with
      | true =>
          obtain ⟨moved, counted, _⟩ := turns.succeeds succeeds
          rw [counted, toNat_countUp32, inductionHypothesis,
            if_pos (show run.movesAt count from decide_eq_true moved)]
          omega
      | false =>
          obtain ⟨same, counted, _⟩ := turns.stays succeeds
          have still : run.movesAt count = false :=
            decide_eq_false (not_not_intro same)
          rw [counted, still, inductionHypothesis]
          rfl

end Run

end Stagecraft
