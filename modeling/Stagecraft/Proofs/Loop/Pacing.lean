import Mathlib.Algebra.GroupWithZero.Nat
import Stagecraft.Proofs.Loop.Frames

/-!
# Where the time goes

A plan takes whole ticks off the time that has piled up, and nothing of the rest is
lost: it is carried over or given up. So after any number of frames all the time that
they were given is accounted for, and what is carried over is less than a tick.
-/

namespace Stagecraft

/-! ## Plans -/

namespace StepPlan

/-- What becomes of a time: what is left after the ticks that fit into it is carried
over; or there are as many ticks as are allowed, and what is left is given up,
because it is enough for another one. -/
inductive Spends (length limit : Nat) : Nat → StepPlan → Prop where
  | fits {ticks left : Nat} (allowed : ticks ≤ limit) (short : left < length) :
      Spends length limit (ticks * length + left) ⟨ticks, left, 0⟩
  | overflows {left : Nat} (enough : length ≤ left) :
      Spends length limit (limit * length + left) ⟨limit, 0, left⟩

/-- Ticks are taken off a time as long as they fit and are allowed. -/
theorem exists_takeTicks (length limit counted time : Nat) :
    ∃ taken left,
      takeTicks length limit counted time = (counted + taken, left) ∧
        time = taken * length + left ∧ taken ≤ limit ∧
        (length ≤ left → taken = limit) := by
  induction limit generalizing counted time with
  | zero => exact ⟨0, time, rfl, by simp, Nat.le_refl 0, fun _ => rfl⟩
  | succ limit inductionHypothesis =>
      unfold takeTicks
      by_cases fits : length ≤ time
      · obtain ⟨taken, left, takes, whole, allowed, full⟩ :=
          inductionHypothesis (counted + 1) (time - length)
        rw [if_pos fits, takes]
        refine ⟨taken + 1, left, ?_, ?_, Nat.succ_le_succ allowed, ?_⟩
        · rw [Nat.add_right_comm, Nat.add_assoc]
        · rw [Nat.succ_mul]
          omega
        · exact fun enough => congrArg Nat.succ (full enough)
      · rw [if_neg fits]
        exact ⟨0, time, rfl, by simp, Nat.zero_le _,
          fun enough => absurd enough fits⟩

theorem spends_ofTime (time length limit : Nat) :
    Spends length limit time (ofTime time length limit) := by
  obtain ⟨taken, left, takes, rfl, allowed, full⟩ :=
    exists_takeTicks length limit 0 time
  simp only [ofTime, takes, Nat.zero_add]
  by_cases enough : length ≤ left
  · rw [if_pos enough]
    obtain rfl := full enough
    exact .overflows enough
  · rw [if_neg enough]
    exact .fits allowed (Nat.lt_of_not_le enough)

/-- There is time for seven ticks, but only three are allowed. -/
example : ofTime 120 16 3 = ⟨3, 0, 72⟩ := by decide

section Spends

variable {time length limit : Nat} {plan : StepPlan}

/-- No time is lost. -/
theorem Spends.whole (spends : Spends length limit time plan) :
    plan.ticks * length + plan.remaining + plan.dropped = time := by
  cases spends with
  | fits _ _ => rfl
  | overflows _ => rfl

/-- There are as many ticks as fit, or as are allowed. -/
theorem Spends.ticks_eq (spends : Spends length limit time plan)
    (positive : 0 < length) : plan.ticks = min (time / length) limit := by
  cases spends with
  | @fits ticks left allowed short =>
      have whole : (ticks * length + left) / length = ticks := by
        rw [Nat.add_comm, Nat.add_mul_div_right _ _ positive,
          Nat.div_eq_of_lt short, Nat.zero_add]
      rw [whole, Nat.min_eq_left allowed]
  | @overflows left _ =>
      have more : limit ≤ (limit * length + left) / length := by
        rw [Nat.le_div_iff_mul_le positive]
        exact Nat.le_add_right _ _
      rw [Nat.min_eq_right more]

theorem Spends.remaining_lt (spends : Spends length limit time plan)
    (positive : 0 < length) : plan.remaining < length := by
  cases spends with
  | fits _ short => exact short
  | overflows _ => exact positive

/-- Time is given up only when no more ticks are allowed, and then nothing is
carried over. -/
theorem Spends.of_dropped (spends : Spends length limit time plan)
    (drops : plan.dropped ≠ 0) :
    plan.ticks = limit ∧ length ≤ plan.dropped ∧ plan.remaining = 0 := by
  cases spends with
  | fits _ _ => exact absurd rfl drops
  | overflows enough => exact ⟨rfl, enough, rfl⟩

/-- Ticks without length are all run, and take nothing of the time. -/
theorem Spends.eq_of_zero (spends : Spends 0 limit time plan) :
    plan = ⟨limit, 0, time⟩ := by
  cases spends with
  | fits _ short => exact absurd short (Nat.not_lt_zero _)
  | overflows _ => rw [Nat.mul_zero, Nat.zero_add]

end Spends

end StepPlan

namespace Run

/-! ## Clocks -/

namespace Clock

def after (pace : Pace) (moments : List Nat) (clock : Clock) : Clock :=
  moments.foldl (fun clock now => (clock.frame pace now).2) clock

def plans (pace : Pace) : List Nat → Clock → List StepPlan
  | [], _ => []
  | now :: later, clock =>
      (clock.frame pace now).1 :: plans pace later (clock.frame pace now).2

/-- The times of frames at the given moments, as far as they count, the first frame
being measured from an earlier moment. -/
def times (longest : Nat) : Nat → List Nat → List Nat
  | _, [] => []
  | last, now :: later =>
      clampFrame (now - last) longest :: times longest now later

variable (pace : Pace) (clock : Clock) (now : Nat) (moments later : List Nat)

@[simp]
theorem after_nil : clock.after pace [] = clock := rfl

@[simp]
theorem after_cons :
    clock.after pace (now :: later) =
      (clock.frame pace now).2.after pace later := rfl

theorem last_frame : (clock.frame pace now).2.last = now := rfl

theorem carried_frame :
    (clock.frame pace now).2.carried = (clock.frame pace now).1.remaining := rfl

theorem spends_frame :
    StepPlan.Spends pace.tick pace.ticksPerFrame
      (clock.carried + clampFrame (now - clock.last) pace.longestFrame)
      (clock.frame pace now).1 :=
  StepPlan.spends_ofTime _ _ _

/-- After any frames, all the time there was has gone into ticks, is carried over or
was given up. -/
theorem conserves :
    ((clock.plans pace moments).map StepPlan.ticks).sum * pace.tick +
        (clock.after pace moments).carried +
          ((clock.plans pace moments).map StepPlan.dropped).sum =
      clock.carried + (times pace.longestFrame clock.last moments).sum := by
  induction moments generalizing clock with
  | nil => simp [plans, times]
  | cons now later inductionHypothesis =>
      have whole := (clock.spends_frame pace now).whole
      have rest := inductionHypothesis (clock.frame pace now).2
      rw [carried_frame, last_frame] at rest
      simp only [plans, times, List.map_cons, List.sum_cons, after_cons,
        Nat.add_mul]
      omega

/-- What a frame carries over is less than a tick. -/
theorem carried_lt (positive : 0 < pace.tick) (some_ : moments ≠ []) :
    (clock.after pace moments).carried < pace.tick := by
  induction moments using List.reverseRecOn with
  | nil => exact absurd rfl some_
  | append_singleton earlier now _ =>
      rw [after, List.foldl_append]
      exact (spends_frame pace _ now).remaining_lt positive

end Clock

/-! ## Frames of a run -/

/-- A frame after which the run is not done has made all its ticks. -/
theorem frameTicks_of_not_isDone {limit : Option UInt64} {count : Nat} {run : Run}
    (goesOn : (frameTicks limit count run).isDone limit = false) :
    frameTicks limit count run = run.steps count := by
  induction count generalizing run with
  | zero => rfl
  | succ count inductionHypothesis =>
      unfold frameTicks at goesOn ⊢
      dsimp only at goesOn ⊢
      by_cases done : run.step.isDone limit
      · rw [if_pos done] at goesOn
        simp [done] at goesOn
      · rw [if_neg done] at goesOn ⊢
        exact inductionHypothesis goesOn

/-- Frames that do not end a run have made all the ticks of their plans. -/
theorem frames_append (pace : Pace) (limit : Option UInt64)
    (moments later : List Nat) (clock : Clock) (run : Run) :
    frames pace limit (moments ++ later) clock run =
      (frames pace limit moments clock run <|>
        frames pace limit later (clock.after pace moments)
          (run.steps ((clock.plans pace moments).map StepPlan.ticks).sum)) := by
  induction moments generalizing clock run with
  | nil => rfl
  | cons now rest inductionHypothesis =>
      simp only [List.cons_append, frames, Clock.plans, Clock.after_cons,
        List.map_cons, List.sum_cons]
      generalize clock.frame pace now = framed
      obtain ⟨plan, next⟩ := framed
      dsimp only
      cases done : (frameTicks limit plan.ticks run).isDone limit with
      | true => rfl
      | false =>
          rw [frameTicks_of_not_isDone done]
          simp only [Bool.false_eq_true, if_false]
          rw [inductionHypothesis, steps_add]

/-- A plan runs as many whole ticks as fit into the time piled up, up to its limit;
what is left is carried over, or given up if it is enough for another tick. Nothing
is lost. Ticks without length are run up to the limit, and all time is given up. So
in every run the frames carry over less than a tick, such that there is time to sleep
before the next one; all ticks they have planned, what is carried over and what was
given up amount to the first tick and the times of the frames; and frames that do
not end the run have made the ticks they planned. -/
theorem time_is_conserved :
    (∀ time length limit,
      let plan := StepPlan.ofTime time length limit
      plan.ticks * length + plan.remaining + plan.dropped = time ∧
      (0 < length →
        plan.ticks = min (time / length) limit ∧ plan.remaining < length) ∧
      (plan.dropped ≠ 0 →
        plan.ticks = limit ∧ length ≤ plan.dropped ∧ plan.remaining = 0) ∧
      (length = 0 → plan = ⟨limit, 0, time⟩)) ∧
    ∀ (pace : Pace) (began : Nat) (moments : List Nat),
      let start := Clock.starting pace began
      let clock := start.after pace moments
      let plans := start.plans pace moments
      (0 < pace.tick → moments ≠ [] →
        clock.carried < pace.tick ∧ 0 < pace.tick - clock.carried) ∧
      (plans.map StepPlan.ticks).sum * pace.tick + clock.carried +
          (plans.map StepPlan.dropped).sum =
        pace.tick + (Clock.times pace.longestFrame began moments).sum ∧
      ∀ limit later run,
        frames pace limit (moments ++ later) start run =
          (frames pace limit moments start run <|>
            frames pace limit later clock
              (run.steps (plans.map StepPlan.ticks).sum)) := by
  refine ⟨fun time length limit => ?plan, fun pace began moments => ?frames⟩
  case plan =>
    have spends := StepPlan.spends_ofTime time length limit
    refine ⟨spends.whole, fun positive => ?_, spends.of_dropped, ?_⟩
    · exact ⟨spends.ticks_eq positive, spends.remaining_lt positive⟩
    · rintro rfl
      exact spends.eq_of_zero
  case frames =>
    intro start clock plans
    refine ⟨fun positive some_ => ?_, start.conserves pace moments,
      fun limit later => frames_append pace limit moments later start⟩
    have less := start.carried_lt pace moments positive some_
    exact ⟨less, Nat.sub_pos_of_lt less⟩

end Run

end Stagecraft
