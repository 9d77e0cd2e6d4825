import Stagecraft.Script.Machine

/-!
# Conditions are read operand by operand

To evaluate a condition is to read its operands one after the other, each once,
and to look at the values only then. Connectives neither skip a read nor change
the order of reads, so of several mentions of one trigger only the first can see
it.
-/

namespace Stagecraft

/-! ## Conditions whose operands have been read -/

/-- A truth value made of comparisons of known values. -/
inductive Verdict where
  | compare (left : Int32) (test : Comparison) (right : Int32)
  | not (term : Verdict)
  | and (left right : Verdict)
  | or (left right : Verdict)
deriving DecidableEq, Repr

namespace Verdict

/-- The truth value. -/
def truth : Verdict → Bool
  | .compare left test right => test.holds left right
  | .not term => !term.truth
  | .and left right => left.truth && right.truth
  | .or left right => left.truth || right.truth

def values : Verdict → List Int32
  | .compare left _ right => [left, right]
  | .not term => term.values
  | .and left right => left.values ++ right.values
  | .or left right => left.values ++ right.values

end Verdict

/-- A condition with each operand replaced by the value of the same place in a
list. -/
def Condition.filled : Condition → List Int32 → Verdict
  | .compare _ test _, values =>
      .compare (values.getD 0 0) test (values.getD 1 0)
  | .not term, values => .not (term.filled values)
  | .and left right, values =>
      .and (left.filled (values.take left.operands.length))
        (right.filled (values.drop left.operands.length))
  | .or left right, values =>
      .or (left.filled (values.take left.operands.length))
        (right.filled (values.drop left.operands.length))

/-- Values enough for all operands end up where the operands stood. -/
theorem Condition.values_filled (condition : Condition) {values : List Int32}
    (enough : values.length = condition.operands.length) :
    (condition.filled values).values = values := by
  induction condition generalizing values with
  | compare left test right =>
      match values, enough with
      | [first, second], _ => rfl
  | not term inductionHypothesis =>
      exact inductionHypothesis enough
  | and left right leftHypothesis rightHypothesis
  | or left right leftHypothesis rightHypothesis =>
      rw [operands, List.length_append] at enough
      have fromLeft :
          (left.filled (values.take left.operands.length)).values =
            values.take left.operands.length :=
        leftHypothesis (by rw [List.length_take]; omega)
      have fromRight :
          (right.filled (values.drop left.operands.length)).values =
            values.drop left.operands.length :=
        rightHypothesis (by rw [List.length_drop]; omega)
      simp only [filled, Verdict.values, fromLeft, fromRight,
        List.take_append_drop]

namespace Play

/-! ## Reads in a row -/

def readAll (runner : Nat) : List Operand → Play → List Int32 × Play
  | [], play => ([], play)
  | operand :: rest, play =>
      let (value, after) := play.read runner operand
      let (values, last) := readAll runner rest after
      (value :: values, last)

section Rows

variable (runner : Nat)

@[simp]
theorem length_readAll (operands : List Operand) (play : Play) :
    (play.readAll runner operands).1.length = operands.length := by
  induction operands generalizing play with
  | nil => rfl
  | cons operand rest inductionHypothesis =>
      exact congrArg (· + 1) (inductionHypothesis _)

/-- What is read first does not depend on what is read later. -/
theorem readAll_append (first second : List Operand) (play : Play) :
    let begun := play.readAll runner first
    let done := begun.2.readAll runner second
    play.readAll runner (first ++ second) = (begun.1 ++ done.1, done.2) := by
  induction first generalizing play with
  | nil => rfl
  | cons operand rest inductionHypothesis =>
      have later := inductionHypothesis (play.read runner operand).2
      simp only [List.cons_append, readAll, later]

/-- Each operand is read in the scene that the reads before it have left. -/
theorem readAll_split
    {operands : List Operand} {place : Nat} {operand : Operand}
    (found : operands[place]? = some operand) (play : Play) :
    let earlier := (play.readAll runner (operands.take place)).2
    (play.readAll runner operands).1[place]? =
        some (earlier.read runner operand).1 ∧
      (play.readAll runner (operands.take (place + 1))).2 =
        (earlier.read runner operand).2 := by
  induction operands generalizing place play with
  | nil => simp at found
  | cons first rest inductionHypothesis =>
      cases place with
      | zero =>
          obtain rfl : first = operand := by simpa using found
          exact ⟨rfl, rfl⟩
      | succ earlier =>
          rw [List.getElem?_cons_succ] at found
          exact inductionHypothesis found _

/-- A condition comes to what its operands come to, read in a row. -/
theorem evaluate_eq_readAll (condition : Condition) (play : Play) :
    let reading := play.readAll runner condition.operands
    play.evaluate runner condition =
      ((condition.filled reading.1).truth, reading.2) := by
  induction condition generalizing play with
  | compare left test right => rfl
  | not term inductionHypothesis =>
      simp only [evaluate, inductionHypothesis, Condition.operands,
        Condition.filled, Verdict.truth]
  | and left right leftHypothesis rightHypothesis
  | or left right leftHypothesis rightHypothesis =>
      have counted := play.length_readAll runner left.operands
      simp only [evaluate, leftHypothesis, rightHypothesis,
        Condition.operands, readAll_append, Condition.filled, Verdict.truth,
        List.take_left' counted, List.drop_left' counted]

end Rows

/-! ## Triggers -/

section Triggers

variable {runner : Nat} {zone : UInt64}

/-- A read of a trigger uses it up. -/
theorem read_zoneTriggered_twice (play : Play) :
    ((play.read runner (.zoneTriggered zone)).2.read runner
      (.zoneTriggered zone)).1 = 0 := by
  cases found : play.zones[zone.toNat]? with
  | none => simp [read, found, warn, note]
  | some there => simp [read, found, Zone.taken, truthWord]

/-- A read of anything else leaves a trigger as it is. -/
theorem read_zoneTriggered_of_ne
    {operand : Operand} (other : operand ≠ .zoneTriggered zone) (play : Play) :
    ((play.read runner operand).2.read runner (.zoneTriggered zone)).1 =
      (play.read runner (.zoneTriggered zone)).1 := by
  have of_zones {after : Play}
      (same : after.zones[zone.toNat]? = play.zones[zone.toNat]?) :
      (after.read runner (.zoneTriggered zone)).1 =
        (play.read runner (.zoneTriggered zone)).1 := by
    simp only [read, same]
    split <;> rfl
  apply of_zones
  cases operand with
  | cubeVariable index => simp only [read, warnIf]; split <;> rfl
  | gameVariable index => simp only [read, warnIf]; split <;> rfl
  | zoneEntered index => simp only [read]; split <;> rfl
  | zoneTriggered index =>
      have apart : index.toNat ≠ zone.toNat := by
        intro same
        exact other (congrArg _ (UInt64.toNat_inj.mp same))
      simp only [read]
      split
      · exact List.getElem?_modify_ne Zone.taken play.zones apart
      · rfl
  | literal _ | actorAlive _ | actorBehaviour _ | actorAnimation _ => rfl

/-- Of reads in a row only the first one of a trigger can see it. -/
theorem read_zoneTriggered_after_readAll (operands : List Operand)
    (play : Play) :
    ((play.readAll runner operands).2.read runner (.zoneTriggered zone)).1 =
      if .zoneTriggered zone ∈ operands then
        0
      else
        (play.read runner (.zoneTriggered zone)).1 := by
  induction operands generalizing play with
  | nil => simp [readAll]
  | cons operand rest inductionHypothesis =>
      simp only [readAll, inductionHypothesis, List.mem_cons]
      by_cases own : operand = .zoneTriggered zone
      · subst own
        simp [read_zoneTriggered_twice]
      · simp [read_zoneTriggered_of_ne own, Ne.symm own]

end Triggers

/-! ## Conditions -/

/-- To evaluate a condition changes a scene exactly as to read its operands in
order, each of them once and whatever the others come to, and the value is the one
that the condition has when each operand is replaced by what was read at its
place. In particular a trigger is seen by its first mention only. -/
theorem evaluate_reads_in_order (runner : Nat) (condition : Condition)
    (play : Play) :
    let reading := play.readAll runner condition.operands
    play.evaluate runner condition =
        ((condition.filled reading.1).truth, reading.2) ∧
      (condition.filled reading.1).values = reading.1 ∧
      reading.1.length = condition.operands.length ∧
      (∀ place operand, condition.operands[place]? = some operand →
        let earlier :=
          (play.readAll runner (condition.operands.take place)).2
        reading.1[place]? = some (earlier.read runner operand).1 ∧
          (play.readAll runner (condition.operands.take (place + 1))).2 =
            (earlier.read runner operand).2) ∧
      ∀ place zone,
        condition.operands[place]? = some (.zoneTriggered zone) →
          reading.1[place]? =
            some
              (if .zoneTriggered zone ∈ condition.operands.take place then
                0
              else
                (play.read runner (.zoneTriggered zone)).1) := by
  have counted := play.length_readAll runner condition.operands
  refine ⟨play.evaluate_eq_readAll runner condition,
    condition.values_filled counted, counted, ?_, ?_⟩
  · intro place operand found
    exact readAll_split runner found play
  · intro place zone found
    have read := (readAll_split runner found play).1
    rw [read_zoneTriggered_after_readAll] at read
    exact read

/-- Both sides of a disjunction are read, also where the left one holds. -/
example :
    Condition.operands
        (.or (.compare (.literal 1) .equal (.literal 1))
          (.compare (.zoneTriggered 0) .equal (.literal 1))) =
      [.literal 1, .literal 1, .zoneTriggered 0, .literal 1] := by
  decide

end Play

end Stagecraft
