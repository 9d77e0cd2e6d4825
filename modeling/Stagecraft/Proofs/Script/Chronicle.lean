import Mathlib.Data.List.Chain
import Mathlib.Logic.Function.Basic
import Stagecraft.Journal

/-!
# Chronicles

What a scene notes tells who is awake: an actor falls asleep only if it is awake,
wakes only if it is asleep, and executes instructions only while it is awake.
-/

namespace Stagecraft

/-! ## Reading the notes -/

/-- Who is awake after an event. -/
def Event.apply (awake : Nat → Bool) : Event → Nat → Bool
  | .killed actor _ => Function.update awake actor false
  | .revived actor _ => Function.update awake actor true
  | .changeScene _ _ => awake

/-- Whether a note neither tells of an instruction nor of somebody who wakes or
falls asleep. -/
def Note.IsQuiet : Note → Prop
  | .executed _ => False
  | .event (.changeScene _ _) => True
  | .event _ => False
  | _ => True

/-- Whether a note can lie between two moments with certain actors awake. -/
inductive Note.Tells (awake : Nat → Bool) : Note → (Nat → Bool) → Prop where
  | quiet {note : Note} (quiet : note.IsQuiet) : Tells awake note awake
  | executed {step : TraceStep} (wakes : awake step.actor = true) :
      Tells awake (.executed step) awake
  | killed {actor : Nat} (cause : Nat) (wakes : awake actor = true) :
      Tells awake (.event (.killed actor cause))
        (Function.update awake actor false)
  | revived {actor : Nat} (cause : Nat) (sleeps : awake actor = false) :
      Tells awake (.event (.revived actor cause))
        (Function.update awake actor true)

namespace Note

theorem IsQuiet.cases
    {note : Note} (quiet : note.IsQuiet) :
    note.event? = none ∨
      ∃ target cause, note.event? = some (.changeScene target cause) := by
  match note, quiet with
  | .event (.changeScene target cause), _ =>
      exact .inr ⟨target, cause, rfl⟩
  | .warning _, _ => exact .inl rfl
  | .call _, _ => exact .inl rfl
  | .fetched _, _ => exact .inl rfl

variable {awake after : Nat → Bool} {note : Note}

end Note

/-! ## Series of notes -/

/-- Whether notes can lie between two moments with certain actors awake. -/
inductive Chronicle : (Nat → Bool) → List Note → (Nat → Bool) → Prop where
  | nil (awake : Nat → Bool) : Chronicle awake [] awake
  | cons {awake next last : Nat → Bool} {note : Note} {rest : List Note}
      (tells : note.Tells awake next) (goesOn : Chronicle next rest last) :
      Chronicle awake (note :: rest) last

namespace Chronicle

variable {first middle last : Nat → Bool} {notes others : List Note}

theorem append
    (told : Chronicle first notes middle)
    (toldAgain : Chronicle middle others last) :
    Chronicle first (notes ++ others) last := by
  induction told with
  | nil awake => exact toldAgain
  | cons tells _ inductionHypothesis =>
      exact .cons tells (inductionHypothesis toldAgain)

theorem single {note : Note} (tells : note.Tells first last) :
    Chronicle first [note] last :=
  .cons tells (.nil last)

theorem of_warnings (awake : Nat → Bool) (warnings : List Warning) :
    Chronicle awake (warnings.map Note.warning) awake := by
  induction warnings with
  | nil => exact .nil awake
  | cons warning rest inductionHypothesis =>
      exact .cons (.quiet trivial) inductionHypothesis

end Chronicle

end Stagecraft
