import Stagecraft.Proofs.Script.Changes
import Stagecraft.Script.Moment

/-!
# Moments of a rehearsal

A rehearsal runs through its moments: from the first one they lead to the scene
that the rehearsal leaves, turn by turn and tick by tick. So whatever every next
moment keeps holds throughout.
-/

namespace Stagecraft

namespace Moment

/-- What every next moment keeps holds of all moments that follow. -/
theorem holds_of_leads
    {holds : Moment → Prop}
    (keeps : ∀ before after, Next before after → holds before → holds after)
    {first last : Moment} (leads : first.Leads last) (begun : holds first) :
    holds last := by
  induction leads with
  | refl => exact begun
  | tail _ next inductionHypothesis =>
      exact keeps _ _ next inductionHypothesis

/-- A turn runs to its end. -/
theorem leads_runScript (runner : Nat) (kind : ScriptKind) (steps : Nat)
    (script : Script) (agenda : Agenda) (play : Play) :
    let ran := play.runScript runner kind agenda.budget steps script
    (working ⟨runner, kind, script, steps⟩ agenda play).Leads
      (changing agenda (ran.2.putScript runner kind ran.1)) := by
  fun_induction Play.runScript runner kind agenda.budget steps script play with
  | case1 steps script play past =>
      exact .single (.halts agenda play past)
  | case2 script play command current =>
      exact .single (.tires agenda play current rfl)
  | case3 script play command rest current next after instructs
      inductionHypothesis =>
      exact .head (.goesOn agenda current rfl instructs) inductionHypothesis
  | case4 script play command rest current last after instructs =>
      exact .single (.ends agenda current rfl instructs)

theorem leads_takeTurn (turn : Nat × ScriptKind)
    (turns : List (Nat × ScriptKind)) (budget : Nat) (deeds : List Deed)
    (play : Play) :
    (changing ⟨turn :: turns, budget, deeds⟩ play).Leads
      (changing ⟨turns, budget, deeds⟩ (play.takeTurn budget turn)) := by
  unfold Play.takeTurn
  cases ready : play.ready? turn with
  | none => exact .single (.passes turns budget deeds ready)
  | some script =>
      have ran :=
        leads_runScript turn.1 turn.2 budget script ⟨turns, budget, deeds⟩
          (play.putScript turn.1 turn.2 Script.vacant)
      exact .head (.begins turns budget deeds ready) ran

theorem leads_turns (turns : List (Nat × ScriptKind)) (budget : Nat)
    (deeds : List Deed) (play : Play) :
    (changing ⟨turns, budget, deeds⟩ play).Leads
      (resting deeds (turns.foldl (Play.takeTurn budget) play)) := by
  induction turns generalizing play with
  | nil =>
      exact .single (.closes budget deeds play)
  | cons turn rest inductionHypothesis =>
      have taken := leads_takeTurn turn rest budget deeds play
      exact taken.trans (inductionHypothesis _)

/-- A tick gives every turn in order. -/
theorem leads_tick (budget : Nat) (deeds : List Deed) (play : Play) :
    (resting (.tick budget :: deeds) play).Leads
      (resting deeds (play.tick budget)) :=
  .head (.opens budget deeds play) (leads_turns _ budget deeds play)

/-- A rehearsal is what its moments lead to. -/
theorem leads_rehearse (deeds rest : List Deed) (play : Play) :
    (resting (deeds ++ rest) play).Leads
      (resting rest (play.rehearse deeds)) := by
  induction deeds generalizing play with
  | nil =>
      exact .refl
  | cons deed others inductionHypothesis =>
      have performed :
          (resting (deed :: (others ++ rest)) play).Leads
            (resting (others ++ rest) (play.perform deed)) := by
        cases deed with
        | tick budget => exact leads_tick budget _ play
        | intervene intervention =>
            exact .single (.intervenes intervention _ play)
      exact performed.trans (inductionHypothesis _)

/-! ## Scripts in their slots and at work -/

def script? (moment : Moment) (actor : Nat) (kind : ScriptKind) :
    Option Script :=
  match moment with
  | .working work _ play =>
      if work.runner = actor ∧ work.kind = kind then
        some work.script
      else
        play.script? actor kind
  | .resting _ play => play.script? actor kind
  | .changing _ play => play.script? actor kind

/-- To take a script out of its slot changes no script. -/
theorem script?_begins
    {play : Play} {turn : Nat × ScriptKind} {script : Script} (steps : Nat)
    (agenda : Agenda)
    (inSlot : play.script? turn.1 turn.2 = some script)
    (actor : Nat) (kind : ScriptKind) :
    (working ⟨turn.1, turn.2, script, steps⟩ agenda
        (play.putScript turn.1 turn.2 Script.vacant)).script? actor kind =
      play.script? actor kind := by
  unfold script?
  by_cases own : turn.1 = actor ∧ turn.2 = kind
  · obtain ⟨rfl, rfl⟩ := own
    simp [inSlot]
  · simp only [if_neg own, Play.script?_putScript]

/-- What is in the slots when a script has been put back: that script in its own
slot, and elsewhere what was there already. -/
theorem script?_of_putScript
    {play : Play} {work : Work} (agenda : Agenda) {left : Script}
    {actor : Nat} {kind : ScriptKind} {script : Script}
    (found : (play.putScript work.runner work.kind left).script? actor kind =
      some script) :
    script = left ∧ work.runner = actor ∧ work.kind = kind ∨
      (working work agenda play).script? actor kind = some script ∧
        ¬ (work.runner = actor ∧ work.kind = kind) := by
  rw [Play.script?_putScript] at found
  by_cases own : work.runner = actor ∧ work.kind = kind
  · rw [if_pos own, Option.map_eq_some_iff] at found
    obtain ⟨_, _, rfl⟩ := found
    exact .inl ⟨rfl, own⟩
  · rw [if_neg own] at found
    exact .inr ⟨by rw [script?, if_neg own]; exact found, own⟩

end Moment

end Stagecraft
