import Stagecraft.Proofs.Files.Atomicity
import Stagecraft.Proofs.Loop.Starts

/-!
# Checkpoints under mishaps

Each save of a run may meet with a mishap of its own. The run goes on with the files
that the write leaves behind, and the save file is at all times the one that the run
found or one of its saves.
-/

namespace Stagecraft.Run

variable {run begun : Run} {last : Option Save} {mishap : Mishap}

/-! ## Runs that meet with mishaps -/

def saving (mishap : Mishap) (run : Run) : Files.Writing :=
  run.files.writeAtomicWith mishap run.savePath run.save.text.toUTF8

def checkpointWith (mishap : Mishap) (run : Run) : Run :=
  { run with
    files := (run.saving mishap).result run.files
    stage :=
      if (run.saving mishap).done then run.stage
      else run.stage.warn (.checkpointFailed run.savePath .unwritten) }

/-- A run after its next turn, before anything is saved. -/
def turned (run : Run) : Run :=
  { run with
    game := run.turn.game
    stage := run.turn.settled
    ticks := countUp64 run.ticks
    sceneChanges :=
      if run.turn.succeeds then countUp32 run.sceneChanges
      else run.sceneChanges }

/-- A step in which the save meets with a mishap. -/
def stepWith (mishap : Mishap) (run : Run) : Run :=
  if run.turn.succeeds then run.turned.checkpointWith mishap else run.turned

theorem store_eq_saving (run : Run) :
    run.save.store run.files run.savePath =
      ((run.saving .nothing).result run.files, (run.saving .nothing).done) := by
  rw [Save.store, Files.writeAtomic, saving]

theorem checkpointWith_nothing (run : Run) :
    run.checkpointWith .nothing = run.checkpoint := by
  rw [checkpoint_eq, store_eq_saving, checkpointWith]

/-- The saves of a run go this way when nothing outside goes wrong. -/
theorem stepWith_nothing (run : Run) : run.stepWith .nothing = run.step := by
  unfold stepWith
  cases succeeds : run.turn.succeeds with
  | true =>
      rw [if_pos rfl, checkpointWith_nothing, step_of_succeeds succeeds]
      simp only [turned, succeeds, Turn.settled_of_succeeds succeeds, if_true]
  | false =>
      rw [if_neg Bool.false_ne_true, step_of_stays succeeds]
      simp only [turned, succeeds, Bool.false_eq_true, if_false]

theorem finish_files (run : Run) :
    run.finish.files = (run.saving .nothing).result run.files := by
  unfold finish
  rw [store_eq_saving]

/-- The last save that was put in place, after a step. -/
def lastSaved (mishap : Mishap) (last : Option Save) (run : Run) : Option Save :=
  if run.turn.succeeds && (run.turned.saving mishap).done then
    some run.turned.save
  else
    last

/-- What becomes of a run by steps with any mishaps, with the last save that it put
in place. -/
inductive Comes (begun : Run) : Option Save → Run → Prop where
  | begun : Comes begun none begun
  | step {last : Option Save} {run : Run} (mishap : Mishap)
      (comes : Comes begun last run) :
      Comes begun (run.lastSaved mishap last) (run.stepWith mishap)

/-! ## The save file -/

def savePlace (run : Run) : Place := Place.ofPath run.savePath

/-- What the save file of a run holds after a save, or from before the run. -/
def held (begun : Run) : Option Save → Option ByteArray
  | some save => some save.text.toUTF8
  | none => begun.files.content? begun.savePlace

theorem isAtomic_saving (mishap : Mishap) (run : Run) :
    (run.saving mishap).IsAtomic run.files run.savePath run.save.text.toUTF8 :=
  Files.isAtomic_writeAtomicWith mishap run.files run.savePath _

theorem savePath_stepWith (mishap : Mishap) (run : Run) :
    (run.stepWith mishap).savePath = run.savePath := by
  unfold stepWith
  split <;> rfl

theorem Comes.savePath (comes : Comes begun last run) :
    run.savePath = begun.savePath := by
  induction comes with
  | begun => rfl
  | step mishap _ inductionHypothesis =>
      exact (savePath_stepWith mishap _).trans inductionHypothesis

/-- A save changes the save file if it succeeds, and only then. -/
theorem content?_result_saving (mishap : Mishap) (run : Run) :
    ((run.saving mishap).result run.files).content? run.savePlace =
      if (run.saving mishap).done then some run.save.text.toUTF8
      else run.files.content? run.savePlace := by
  have atomic := isAtomic_saving mishap run
  cases done : (run.saving mishap).done with
  | true => exact (atomic.succeeds done).1
  | false =>
      unfold Files.Writing.result
      cases ends : (run.saving mishap).states.getLast? with
      | none => rfl
      | some state =>
          exact atomic.fails done state (List.mem_of_getLast? ends)

theorem Comes.content? (comes : Comes begun last run) :
    run.files.content? begun.savePlace = begun.held last := by
  induction comes with
  | begun => rfl
  | @step last run mishap comes inductionHypothesis =>
      have place : run.turned.savePlace = begun.savePlace :=
        congrArg Place.ofPath comes.savePath
      unfold stepWith lastSaved
      cases succeeds : run.turn.succeeds with
      | false => exact inductionHypothesis
      | true =>
          have landed := content?_result_saving mishap run.turned
          rw [place] at landed
          rw [if_pos rfl, Bool.true_and]
          refine landed.trans ?_
          split
          · rfl
          · exact inductionHypothesis

/-- Whether the save file of a run is whole at all times. Between its steps it holds
the last save that was put in place, or what the run found; within a write, whether
after a scene change or at the end of the run, it holds that or all of the new
save. -/
structure SavesWhole (begun : Run) : Prop where
  between : ∀ {last run}, Comes begun last run →
    run.files.content? begun.savePlace = begun.held last
  atCheckpoint : ∀ {last run}, Comes begun last run →
    run.turn.succeeds = true →
      ∀ mishap, ∀ state ∈ (run.turned.saving mishap).states,
        state.content? begun.savePlace = begun.held last ∨
          state.content? begun.savePlace = some run.turned.save.text.toUTF8
  atEnd : ∀ {last run}, Comes begun last run →
    ∀ mishap, ∀ state ∈ (run.saving mishap).states,
      state.content? begun.savePlace = begun.held last ∨
        state.content? begun.savePlace = some run.save.text.toUTF8

theorem savesWhole (begun : Run) : begun.SavesWhole where
  between := Comes.content?
  atCheckpoint := by
    intro last run comes _ mishap state member
    have whole := (isAtomic_saving mishap run.turned).whole state member
    rw [← comes.content?, savePlace, ← comes.savePath]
    exact whole
  atEnd := by
    intro last run comes mishap state member
    have whole := (isAtomic_saving mishap run).whole state member
    rw [← comes.content?, savePlace, ← comes.savePath]
    exact whole

/-- A run that is over before its first tick has written nothing. -/
theorem files_of_over {settings : Settings} {installation : Installation}
    {host : Host} {files : Files} {ended : Ended}
    (opened : start settings installation host files = .over ended) :
    ended.files = files := by
  unfold start at opened
  dsimp only at opened
  split at opened
  · rw [← Opening.over.inj opened]
  · split at opened
    · cases opened
    · rw [← Opening.over.inj opened]

/-- Saves are written atomically: whatever goes wrong in the write of a text, and
wherever it is cut short, the destination holds its old content or all of the new
one. So the save file of a run is the one that it found or one of its saves, at
every moment. -/
theorem saves_are_atomic :
    (∀ mishap (files : Files) path content,
      (files.writeAtomicWith mishap path content).IsAtomic files path content) ∧
    (∀ settings installation host files,
      match start settings installation host files with
      | .over ended => ended.files = files
      | .running begun =>
          begun.files = files ∧
            begun.savePath =
              Path.join installation.cache settings.saveFile ∧
            begun.SavesWhole) ∧
    (∀ run : Run,
      run.stepWith .nothing = run.step ∧
        run.finish.files = (run.saving .nothing).result run.files) := by
  refine ⟨Files.isAtomic_writeAtomicWith, ?_, fun run =>
    ⟨run.stepWith_nothing, run.finish_files⟩⟩
  intro settings installation host files
  split
  · next ended opened => exact files_of_over opened
  · next begun opened =>
      have opens := (opens_of_start opened).1
      exact ⟨opens.files, opens.savePath, begun.savesWhole⟩

end Stagecraft.Run
