import Stagecraft.Journal

/-!
# Planning frames

Real time comes in frames of any length, ticks have a fixed length. A frame runs
as many whole ticks as have piled up, up to a limit; a backlog beyond the limit
is dropped. Times are in nanoseconds.
-/

namespace Stagecraft

/-- What a frame does with the time piled up: ticks to run, time carried over to
the next frame, and time given up. -/
structure StepPlan where
  ticks : Nat
  remaining : Nat
  dropped : Nat
deriving DecidableEq, Repr

namespace StepPlan

/-- Takes whole ticks off a time, at most `limit` of them, on top of those
counted so far. -/
def takeTicks (length : Nat) : (limit counted time : Nat) → Nat × Nat
  | 0, counted, time => (counted, time)
  | limit + 1, counted, time =>
      if length ≤ time then
        takeTicks length limit (counted + 1) (time - length)
      else
        (counted, time)

/-- The plan for a time piled up. What is left after the ticks is carried over
if it is less than a tick, and dropped otherwise. -/
def ofTime (time length limit : Nat) : StepPlan :=
  let (ticks, left) := takeTicks length limit 0 time
  if length ≤ left then ⟨ticks, 0, left⟩ else ⟨ticks, left, 0⟩

end StepPlan

/-- The whole number nearest to a quotient; of two that are equally near, the even
one. -/
def nearestQuotient (dividend divisor : Nat) : Nat :=
  let below := dividend / divisor
  let rest := dividend % divisor
  if 2 * rest < divisor ∨ 2 * rest = divisor ∧ below % 2 = 0 then
    below
  else
    below + 1

/-- The length of a tick at a number of ticks a second. The second is divided in
binary64, with 53 bits, and the quotient is rounded to nanoseconds. -/
def tickLength (rate : Nat) : Nat :=
  let scale := Nat.pow 2 (53 + rate.log2)
  nearestQuotient (nearestQuotient scale rate * 1000000000) scale

/-- The time of a frame as far as it counts. -/
def clampFrame (elapsed longest : Nat) : Nat := min elapsed longest

/-- A time, or another one in place of zero. -/
def nonZeroTime (time fallback : Nat) : Nat := if time = 0 then fallback else time

/-- The scene to open: the configured one, else the saved one, else the
first. -/
def startScene (configured saved : Option SceneIndex) : SceneIndex :=
  (configured <|> saved).getD 0

def Event.target? : Event → Option SceneIndex
  | .changeScene target _ => some target
  | _ => none

def requestedScene (events : List Event) : Option SceneIndex :=
  events.findSome? Event.target?

end Stagecraft
