import Stagecraft.Script.Machine

/-!
# Scenes that play in step

Two scenes play in step if every instruction of the one has a counterpart in the other,
after which they are still related in the same way. Then so do whole turns and whole
ticks.
-/

namespace Stagecraft

namespace Play

/-- Whether scenes that are related, with scripts at work that are related for the
actor at a position, stay related whatever is done to both. -/
structure IsSimulation (plays : Play → Play → Prop)
    (scripts : Nat → Script → Script → Prop) : Prop where
  count : ∀ {left right}, plays left right →
    right.actors.length = left.actors.length
  ready : ∀ {left right}, plays left right → ∀ turn,
    Option.Rel (scripts turn.1) (left.ready? turn) (right.ready? turn)
  vacant : ∀ runner, scripts runner Script.vacant Script.vacant
  put : ∀ {left right runner script other}, plays left right →
    scripts runner script other → ∀ kind,
      plays (left.putScript runner kind script)
        (right.putScript runner kind other)
  tires : ∀ {left right runner script other}, plays left right →
    scripts runner script other → ∀ kind budget,
      plays (left.warn (left.exhaustion runner kind budget script))
        (right.warn (right.exhaustion runner kind budget other))
  halts : ∀ {runner script other}, scripts runner script other →
    script.current? = none →
      other.current? = none ∧ scripts runner script.halt other.halt
  instructs : ∀ {left right runner script other command}, plays left right →
    scripts runner script other → script.current? = some command → ∀ kind,
      ∃ counterpart, other.current? = some counterpart ∧
        let done := left.instruct runner kind command script
        let doneToo := right.instruct runner kind counterpart other
        doneToo.1 = done.1 ∧ scripts runner done.2.1 doneToo.2.1 ∧
          plays done.2.2 doneToo.2.2

namespace IsSimulation

variable {plays : Play → Play → Prop} {scripts : Nat → Script → Script → Prop}
  {left right : Play}

theorem runScript (simulation : IsSimulation plays scripts)
    (related : plays left right) {runner : Nat} {script other : Script}
    (same : scripts runner script other) (kind : ScriptKind)
    (budget steps : Nat) :
    let ran := left.runScript runner kind budget steps script
    let ranToo := right.runScript runner kind budget steps other
    scripts runner ran.1 ranToo.1 ∧ plays ran.2 ranToo.2 := by
  -- The counterpart decides as the original does at each command, so the cases of
  -- the original are the only ones.
  fun_induction Play.runScript runner kind budget steps script left
    generalizing right other with
  | case1 steps script left past =>
      obtain ⟨pastToo, halted⟩ := simulation.halts same past
      rw [Play.runScript.eq_def]
      simp only [pastToo]
      exact ⟨halted, related⟩
  | case2 script left command current =>
      obtain ⟨counterpart, currentToo, -⟩ :=
        simulation.instructs related same current kind
      rw [Play.runScript.eq_def]
      simp only [currentToo]
      exact ⟨same, simulation.tires related same kind budget⟩
  | case3 script left command rest current next after executed
      inductionHypothesis =>
      obtain ⟨counterpart, currentToo, goes, sameNext, still⟩ :=
        simulation.instructs related same current kind
      rw [executed] at goes sameNext still
      generalize done : right.instruct runner kind counterpart other =
        instructed at goes sameNext still
      obtain ⟨goesToo, nextToo, afterToo⟩ := instructed
      obtain rfl : goesToo = true := goes
      have ran :
          right.runScript runner kind budget (rest + 1) other =
            afterToo.runScript runner kind budget rest nextToo := by
        rw [Play.runScript.eq_def]
        simp only [currentToo, done]
      rw [ran]
      exact inductionHypothesis still sameNext
  | case4 script left command rest current last after executed =>
      obtain ⟨counterpart, currentToo, goes, sameLast, still⟩ :=
        simulation.instructs related same current kind
      rw [executed] at goes sameLast still
      generalize done : right.instruct runner kind counterpart other =
        instructed at goes sameLast still
      obtain ⟨goesToo, lastToo, afterToo⟩ := instructed
      obtain rfl : goesToo = false := goes
      have ran :
          right.runScript runner kind budget (rest + 1) other =
            (lastToo, afterToo) := by
        rw [Play.runScript.eq_def]
        simp only [currentToo, done]
      rw [ran]
      exact ⟨sameLast, still⟩

theorem takeTurn (simulation : IsSimulation plays scripts)
    (related : plays left right) (budget : Nat) (turn : Nat × ScriptKind) :
    plays (left.takeTurn budget turn) (right.takeTurn budget turn) := by
  have ready := simulation.ready related turn
  unfold Play.takeTurn
  generalize left.ready? turn = leftReady at ready ⊢
  generalize right.ready? turn = rightReady at ready ⊢
  cases ready with
  | none => exact related
  | some same =>
      have vacated :=
        simulation.put related (simulation.vacant turn.1) turn.2
      obtain ⟨sameLeft, still⟩ :=
        simulation.runScript vacated same turn.2 budget budget
      exact simulation.put still sameLeft turn.2

/-- Scenes that play in step still do after a tick. -/
theorem tick (simulation : IsSimulation plays scripts)
    (related : plays left right) (budget : Nat) :
    plays (left.tick budget) (right.tick budget) := by
  unfold Play.tick
  rw [simulation.count related]
  generalize turns left.actors.length = turns
  induction turns generalizing left right with
  | nil => exact related
  | cons turn rest inductionHypothesis =>
      exact inductionHypothesis (simulation.takeTurn related budget turn)

end IsSimulation

end Play

end Stagecraft
