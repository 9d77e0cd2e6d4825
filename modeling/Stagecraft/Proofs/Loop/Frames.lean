import Stagecraft.Proofs.Loop.Turns

/-!
# Frames slice a run

However the moments of its frames are spread, a run that has a limit and ends has
made exactly as many steps as the limit asks for, and at least one: its first frame
has time for a tick.
-/

namespace Stagecraft

/-! ## Plans -/

namespace StepPlan

theorem le_takeTicks (length limit counted time : Nat) :
    counted ≤ (takeTicks length limit counted time).1 := by
  induction limit generalizing counted time with
  | zero => exact Nat.le_refl counted
  | succ limit inductionHypothesis =>
      unfold takeTicks
      split
      · exact Nat.le_of_succ_le (inductionHypothesis (counted + 1) _)
      · exact Nat.le_refl counted

theorem ticks_ofTime (time length limit : Nat) :
    (ofTime time length limit).ticks = (takeTicks length limit 0 time).1 := by
  unfold ofTime
  generalize takeTicks length limit 0 time = taken
  dsimp only
  split <;> rfl

/-- Time for a tick is used. -/
theorem ticks_pos {time length limit : Nat} (enough : length ≤ time)
    (allowed : 0 < limit) : 0 < (ofTime time length limit).ticks := by
  obtain ⟨limit, rfl⟩ := Nat.exists_eq_succ_of_ne_zero allowed.ne'
  rw [ticks_ofTime, takeTicks, if_pos enough]
  exact le_takeTicks length limit 1 _

end StepPlan

namespace Run

theorem ticks_frame_starting (settings : Settings) (began now : Nat) :
    let pace := Pace.ofSettings settings
    0 < ((Clock.starting pace began).frame pace now).1.ticks :=
  StepPlan.ticks_pos (Nat.le_add_right _ _)
    (Nat.lt_of_lt_of_le Nat.zero_lt_one (Nat.le_max_right _ 1))

/-! ## Frames -/

variable {run : Run} {limit : UInt64}

theorem steps_add (run : Run) (first later : Nat) :
    (run.steps first).steps later = run.steps (first + later) := by
  induction later with
  | zero => rfl
  | succ later inductionHypothesis =>
      rw [steps_succ, inductionHypothesis, ← Nat.add_assoc, steps_succ]

theorem isDone_some (limit : UInt64) (run : Run) :
    run.isDone (some limit) = decide (limit.toNat ≤ run.ticks.toNat) := rfl

/-- The steps that a run has left to its limit, at least one. -/
def left (limit : UInt64) (run : Run) : Nat :=
  max (limit.toNat - run.ticks.toNat) 1

/-- A frame makes all its ticks, but none after the run is done. -/
theorem frameTicks_eq_steps (sound : run.Sound) (count : Nat) :
    frameTicks (some limit) count run =
      run.steps (min count (run.left limit)) := by
  have bound := limit.toNat_lt_size
  induction count generalizing run with
  | zero => rw [Nat.zero_min]; rfl
  | succ count inductionHypothesis =>
      have counted : run.step.ticks.toNat = _ :=
        (congrArg UInt64.toNat (turnsInto_step sound).ticks).trans
          (toNat_countUp64 _)
      unfold frameTicks
      dsimp only
      by_cases done : limit.toNat ≤ run.step.ticks.toNat
      · have once : min (count + 1) (run.left limit) = 1 := by
          unfold left
          omega
        rw [once, isDone_some, decide_eq_true done]
        rfl
      · have more : min (count + 1) (run.left limit) =
            min count (run.step.left limit) + 1 := by
          unfold left
          omega
        rw [more, isDone_some, decide_eq_false done]
        exact inductionHypothesis sound.step

/-- Frames that end a run have made the steps up to its limit. -/
theorem frames_eq_steps {pace : Pace} {moments : List Nat} {clock : Clock}
    {after : Run} (sound : run.Sound)
    (ready : run.ticks.toNat < limit.toNat ∨
      ∀ now, 0 < (clock.frame pace now).1.ticks)
    (ends : frames pace (some limit) moments clock run = some after) :
    after = run.steps (run.left limit) := by
  have bound := limit.toNat_lt_size
  induction moments generalizing run clock with
  | nil => cases ends
  | cons now later inductionHypothesis =>
      -- A frame makes too few ticks only if time for more of them is missing; then
      -- the run waits below its limit, which is all that later frames rely on.
      unfold frames at ends
      have slice :=
        @frameTicks_eq_steps run limit sound
          (clock.frame pace now).1.ticks
      have some? := ready.imp_right fun all => all now
      generalize clock.frame pace now = framed at ends slice some?
      obtain ⟨plan, next⟩ := framed
      dsimp only at ends slice some?
      generalize made : min plan.ticks (run.left limit) = count at slice
      have ticks := ticks_steps sound count
      rw [slice, isDone_some] at ends
      unfold left at made
      by_cases done : limit.toNat ≤ (run.steps count).ticks.toNat
      · rw [decide_eq_true done] at ends
        have all : count = run.left limit := by
          unfold left
          omega
        rw [← all]
        exact (Option.some.inj ends).symm
      · rw [decide_eq_false done] at ends
        have rest :=
          inductionHypothesis (sound.steps count)
            (.inl (Nat.lt_of_not_le done)) ends
        have all : count + (run.steps count).left limit = run.left limit := by
          unfold left
          omega
        rw [rest, steps_add, all]

/-- A frame that has time for all ticks that are left is the last one. -/
theorem frames_of_ample {pace : Pace} {now : Nat} {later : List Nat}
    {clock : Clock} (sound : run.Sound)
    (ample : run.left limit ≤ (clock.frame pace now).1.ticks) :
    frames pace (some limit) (now :: later) clock run =
      some (run.steps (run.left limit)) := by
  have bound := limit.toNat_lt_size
  have slice :=
    @frameTicks_eq_steps run limit sound (clock.frame pace now).1.ticks
  rw [Nat.min_eq_right ample] at slice
  have ticks := ticks_steps sound (run.left limit)
  have done :
      limit.toNat ≤ (run.steps (run.left limit)).ticks.toNat := by
    unfold left at ticks ⊢
    omega
  unfold frames
  dsimp only
  rw [slice, isDone_some, decide_eq_true done]
  rfl

/-- Frames that have time for a tick each end a run sooner or later. -/
theorem exists_frames_eq_some {pace : Pace} (clock : Clock) (sound : run.Sound)
    (long : pace.tick ≤ pace.longestFrame) (allowed : 0 < pace.ticksPerFrame) :
    ∃ moments after,
      frames pace (some limit) moments clock run = some after := by
  generalize remain : run.left limit = remaining
  induction remaining using Nat.strongRecOn generalizing run clock with
  | ind remaining inductionHypothesis =>
      subst remain
      let now := clock.last + pace.longestFrame
      have elapsed : clampFrame (now - clock.last) pace.longestFrame =
          pace.longestFrame := by
        simp [now, clampFrame]
      have some_ : 0 < (clock.frame pace now).1.ticks := by
        refine StepPlan.ticks_pos ?_ allowed
        rw [elapsed]
        exact Nat.le_add_left_of_le long
      have bound := limit.toNat_lt_size
      have slice :=
        @frameTicks_eq_steps run limit sound (clock.frame pace now).1.ticks
      generalize made : min (clock.frame pace now).1.ticks (run.left limit) = count
        at slice
      have ticks := ticks_steps sound count
      unfold left at made inductionHypothesis
      by_cases done : limit.toNat ≤ (run.steps count).ticks.toNat
      · refine ⟨[now], run.steps count, ?_⟩
        simp only [frames]
        rw [slice, isDone_some, decide_eq_true done]
        rfl
      · have fewer : (run.steps count).left limit <
            max (limit.toNat - run.ticks.toNat) 1 := by
          unfold left
          omega
        obtain ⟨later, after, ends⟩ :=
          inductionHypothesis _ fewer (clock.frame pace now).2
            (sound.steps count) rfl
        refine ⟨now :: later, after, ?_⟩
        simp only [frames]
        rw [slice, isDone_some, decide_eq_false done]
        exact ends

end Run

end Stagecraft
