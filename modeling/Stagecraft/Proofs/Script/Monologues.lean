import Stagecraft.Proofs.Script.Accounting
import Stagecraft.Proofs.Script.Outlines

/-!
# Monologues

Where only one script says anything, a scene goes from one instruction of that script
to the next one. Turns and ticks only cut this up: wherever a turn ends, the script
and the outline of the scene are what so many instructions have made of them.
-/

namespace Stagecraft

/-- A script that is marked as halted if it has come to its end. -/
def Script.settled (script : Script) : Script :=
  match script.current? with
  | some _ => script
  | none => script.halt

namespace Script

variable {script : Script} {command : Command}

@[simp]
theorem current?_halt (script : Script) :
    script.halt.current? = script.current? :=
  rfl

theorem settled_of_current? (current : script.current? = some command) :
    script.settled = script := by
  unfold settled
  rw [current]

theorem settled_of_past (past : script.current? = none) :
    script.settled = script.halt := by
  unfold settled
  rw [past]

@[simp]
theorem current?_settled (script : Script) :
    script.settled.current? = script.current? := by
  unfold settled
  split <;> rfl

end Script

/-- A script out of its slot, and the scene around it. -/
structure Monologue where
  script : Script
  play : Play

namespace Monologue

/-- What the next instruction of the script makes of a monologue, if there is one: the
script is running, its actor is awake, and it has not come to its end. -/
def next? (speaker : Nat × ScriptKind) (monologue : Monologue) :
    Option Monologue :=
  if monologue.play.isAlive speaker.1 &&
      monologue.script.state.status == .running then
    monologue.script.current?.map fun command =>
      let (_, next, after) :=
        monologue.play.instruct speaker.1 speaker.2 command monologue.script
      ⟨next.settled, after⟩
  else
    none

/-- What a number of instructions make of a monologue, if there are that many. -/
def after? (speaker : Nat × ScriptKind) : Nat → Monologue → Option Monologue
  | 0, monologue => some monologue
  | count + 1, monologue => (monologue.next? speaker).bind (after? speaker count)

variable {speaker : Nat × ScriptKind} {first second third : Monologue}
  {count more : Nat}

theorem after?_add (reached : first.after? speaker count = some second)
    (more : Nat) :
    first.after? speaker (count + more) = second.after? speaker more := by
  induction count generalizing first with
  | zero =>
      obtain rfl : first = second := Option.some.inj reached
      rw [Nat.zero_add]
  | succ count inductionHypothesis =>
      obtain ⟨next, nexts, later⟩ := Option.bind_eq_some_iff.mp reached
      rw [Nat.succ_add_eq_add_succ, Nat.add_succ, after?, nexts,
        Option.bind_some]
      exact inductionHypothesis later

/-- Whatever one of two counts of instructions leads to, the larger one leads on. -/
theorem after?_of_le (reached : first.after? speaker count = some second)
    (reachedToo : first.after? speaker more = some third)
    (fewer : count ≤ more) :
    second.after? speaker (more - count) = some third := by
  rw [← after?_add reached, Nat.add_sub_cancel' fewer]
  exact reachedToo

/-- Where there is no next instruction, there are none at all. -/
theorem eq_zero_of_stuck (stuck : first.next? speaker = none)
    (reached : first.after? speaker count = some second) : count = 0 := by
  cases count with
  | zero => rfl
  | succ count =>
      rw [after?, stuck] at reached
      cases reached

/-- Each instruction adds itself to the trace. -/
theorem exists_trace (reached : first.after? speaker count = some second) :
    ∃ steps, second.play.journal.trace = first.play.journal.trace ++ steps ∧
      steps.length = count := by
  induction count generalizing first with
  | zero =>
      obtain rfl : first = second := Option.some.inj reached
      exact ⟨[], (List.append_nil _).symm, rfl⟩
  | succ count inductionHypothesis =>
      obtain ⟨next, nexts, later⟩ := Option.bind_eq_some_iff.mp reached
      obtain ⟨steps, trace, length⟩ := inductionHypothesis later
      unfold next? at nexts
      split at nexts
      · obtain ⟨command, _, rfl⟩ := Option.map_eq_some_iff.mp nexts
        rw [Play.trace_instruct, List.append_assoc] at trace
        exact ⟨_, trace, congrArg (· + 1) length⟩
      · cases nexts

/-- What fewer instructions execute is the beginning of what more of them do. -/
theorem isPrefix_of_le {steps otherSteps : List TraceStep}
    (reached : first.after? speaker count = some second)
    (reachedToo : first.after? speaker more = some third)
    (fewer : count ≤ more)
    (trace : second.play.journal.trace = first.play.journal.trace ++ steps)
    (otherTrace :
      third.play.journal.trace = first.play.journal.trace ++ otherSteps) :
    steps <+: otherSteps := by
  obtain ⟨rest, added, _⟩ :=
    exists_trace (after?_of_le reached reachedToo fewer)
  rw [trace, otherTrace, List.append_assoc, List.append_cancel_left_eq] at added
  exact ⟨rest, added.symm⟩

/-- A monologue that has no next instruction has executed them all. -/
theorem le_of_stuck (reached : first.after? speaker count = some second)
    (reachedToo : first.after? speaker more = some third)
    (stuck : third.next? speaker = none) : count ≤ more := by
  by_contra fewer
  have later := after?_of_le reachedToo reached (by omega)
  have none_ := eq_zero_of_stuck stuck later
  omega

end Monologue

namespace Play

def telling (play : Play) (script : Script) : Monologue :=
  ⟨script.settled, play.outline⟩

/-- A scene as a monologue of one of its scripts. -/
def monologue? (speaker : Nat × ScriptKind) (play : Play) :
    Option Monologue :=
  (play.script? speaker.1 speaker.2).map play.telling

theorem monologue?_of_script? {speaker : Nat × ScriptKind} {play : Play}
    {script : Script}
    (inSlot : play.script? speaker.1 speaker.2 = some script) :
    play.monologue? speaker = some (play.telling script) := by
  rw [monologue?, inSlot, Option.map_some]

theorem trace_of_monologue? {speaker : Nat × ScriptKind} {play : Play}
    {told : Monologue} (tells : play.monologue? speaker = some told) :
    told.play.journal.trace = play.journal.trace := by
  obtain ⟨script, _, rfl⟩ := Option.map_eq_some_iff.mp tells
  exact play.journal.trace_untired

section Turns

variable {runner : Nat} {kind : ScriptKind} {command : Command}
  {script next : Script} {play after : Play} {goes : Bool}

theorem next?_telling (wakes : play.isAlive runner = true)
    (running : script.state.status = .running)
    (current : script.current? = some command)
    (instructs : play.instruct runner kind command script =
      (goes, next, after)) :
    (play.telling script).next? (runner, kind) = some (after.telling next) := by
  unfold telling Monologue.next?
  rw [Script.settled_of_current? current]
  simp [wakes, running, current, instruct_outline, instructs]

theorem next?_telling_of_past (speaker : Nat × ScriptKind) (play : Play)
    (past : script.current? = none) :
    (play.telling script).next? speaker = none := by
  unfold telling Monologue.next?
  simp [past]

/-- A turn goes from one instruction to the next one, and makes at least one step if
there is one and the budget allows it. -/
theorem exists_after?_runScript (kind : ScriptKind) (budget steps : Nat)
    (wakes : play.isAlive runner = true)
    (running : script.state.status = .running) :
    let ran := play.runScript runner kind budget steps script
    ∃ count, (play.telling script).after? (runner, kind) count =
        some (ran.2.telling ran.1) ∧
      (0 < steps → (play.telling script).next? (runner, kind) ≠ none →
        0 < count) := by
  fun_induction runScript runner kind budget steps script play with
  | case1 steps script play past =>
      refine ⟨0, ?_, fun _ goesOn => ?_⟩
      · rw [Monologue.after?, telling, telling, Script.settled_of_past past,
          Script.settled_of_past (script.current?_halt.trans past)]
        rfl
      · exact absurd (next?_telling_of_past _ play past) goesOn
  | case2 script play command current =>
      refine ⟨0, ?_, fun enough => absurd enough (Nat.lt_irrefl 0)⟩
      rw [Monologue.after?, telling, telling, outline_warn_exhausted]
  | case3 script play command rest current next after instructs
      inductionHypothesis =>
      have done := instructed instructs
      have stays := (does_instruct wakes instructs).2 rfl
      obtain ⟨count, reached, _⟩ :=
        inductionHypothesis stays ((done.onward rfl).2.trans running)
      refine ⟨count + 1, ?_, fun _ _ => Nat.succ_pos count⟩
      rw [Monologue.after?, next?_telling wakes running current instructs,
        Option.bind_some]
      exact reached
  | case4 script play command rest current last after instructs =>
      refine ⟨1, ?_, fun _ _ => Nat.one_pos⟩
      rw [Monologue.after?, next?_telling wakes running current instructs,
        Option.bind_some]
      rfl

end Turns

/-! ## Turns in a row -/

/-- Whether a scene goes on from an earlier one by instructions of one script, and by
at least one if there is one and it may proceed. -/
def Proceeds (speaker : Nat × ScriptKind) (may : Prop)
    (before after : Play) : Prop :=
  ∃ first second count,
    before.monologue? speaker = some first ∧
      after.monologue? speaker = some second ∧
      first.after? speaker count = some second ∧
      (may → first.next? speaker ≠ none → 0 < count)

section Rows

variable {speaker : Nat × ScriptKind} {before middle after : Play}
  {may mayToo : Prop}

theorem Proceeds.of_same {first : Monologue}
    (begun : before.monologue? speaker = some first)
    (same : after.monologue? speaker = before.monologue? speaker) :
    Proceeds speaker False before after :=
  ⟨first, first, 0, begun, same.trans begun, rfl, False.elim⟩

theorem Proceeds.trans (proceeds : Proceeds speaker may before middle)
    (proceedsAgain : Proceeds speaker mayToo middle after) :
    Proceeds speaker (may ∨ mayToo) before after := by
  obtain ⟨first, second, count, begun, reached, leads, lively⟩ := proceeds
  obtain ⟨same, third, more, begunAgain, reachedToo, leadsToo, livelyToo⟩ :=
    proceedsAgain
  obtain rfl : second = same :=
    Option.some.inj (reached.symm.trans begunAgain)
  refine ⟨first, third, count + more, begun, reachedToo, ?_, ?_⟩
  · rw [Monologue.after?_add leads]
    exact leadsToo
  · rintro (allowed | allowedToo) goesOn
    · exact Nat.add_pos_left (lively allowed goesOn) more
    · cases count with
      | succ count => omega
      | zero =>
          obtain rfl : first = second := Option.some.inj leads
          exact Nat.add_pos_right 0 (livelyToo allowedToo goesOn)

theorem Proceeds.mono (proceeds : Proceeds speaker may before after)
    (implies : mayToo → may) : Proceeds speaker mayToo before after := by
  obtain ⟨first, second, count, begun, reached, leads, lively⟩ := proceeds
  exact ⟨first, second, count, begun, reached, leads,
    fun allowed => lively (implies allowed)⟩

variable {budget : Nat} {play : Play}

theorem telling_putScript (play : Play) (actor : Nat) (kind : ScriptKind)
    (slot script : Script) :
    (play.putScript actor kind slot).telling script = play.telling script := by
  unfold telling
  rw [outline_putScript]

theorem monologue?_putScript_self {script : Script}
    (inside : speaker.1 < play.actors.length) :
    (play.putScript speaker.1 speaker.2 script).monologue? speaker =
      some (play.telling script) := by
  rw [monologue?_of_script? (script?_putScript_self inside), telling_putScript]

/-- A script that gets no turn has no next instruction. -/
theorem next?_of_idle {script : Script}
    (inSlot : play.script? speaker.1 speaker.2 = some script)
    (idle : play.ready? speaker = none) :
    (play.telling script).next? speaker = none := by
  have sleeps : (play.isAlive speaker.1 &&
      script.state.status == .running) = false := by
    unfold ready? at idle
    rw [inSlot] at idle
    simpa using idle
  cases current : script.current? with
  | none => exact next?_telling_of_past speaker play current
  | some command =>
      unfold telling Monologue.next?
      rw [Script.settled_of_current? current, isAlive_outline, sleeps]
      rfl

/-- The turn of the speaker is made of its instructions. -/
theorem proceeds_takeTurn {script : Script} (budget : Nat)
    (inSlot : play.script? speaker.1 speaker.2 = some script) :
    Proceeds speaker (0 < budget) play (play.takeTurn budget speaker) := by
  have begun := monologue?_of_script? inSlot
  cases ready : play.ready? speaker with
  | none =>
      rw [takeTurn_of_idle ready]
      exact ⟨_, _, 0, begun, begun, rfl, fun _ goesOn =>
        absurd (next?_of_idle inSlot ready) goesOn⟩
  | some other =>
      obtain ⟨known, wakes⟩ := ready?_eq_some ready
      obtain rfl : script = other := Option.some.inj (inSlot.symm.trans known)
      have wakesToo :
          (play.putScript speaker.1 speaker.2 Script.vacant).isAlive
            speaker.1 = true := by
        rw [isAlive_putScript]
        exact wakes
      obtain ⟨block, executes⟩ := executes_runScript speaker.1 speaker.2 budget
        budget script (play.putScript speaker.1 speaker.2 Script.vacant)
      obtain ⟨count, leads, lively⟩ :=
        exists_after?_runScript speaker.2 budget budget wakesToo
          (status_of_ready? ready)
      rw [telling_putScript] at leads lively
      refine ⟨_, _, count, begun, ?_, leads, lively⟩
      have inside : speaker.1 < play.actors.length := by
        obtain ⟨actor, found, _⟩ := Option.map_eq_some_iff.mp inSlot
        exact (List.getElem?_eq_some_iff.mp found).1
      unfold takeTurn
      rw [ready]
      exact monologue?_putScript_self (by
        rw [executes.count, length_putScript]
        exact inside)

theorem runScript_of_past {script : Script} (past : script.current? = none)
    (runner : Nat) (kind : ScriptKind) (budget steps : Nat) (play : Play) :
    play.runScript runner kind budget steps script = (script.halt, play) := by
  unfold runScript
  simp only [past]

/-- The turn of a script without commands does not show. -/
theorem monologue?_takeTurn_of_empty {turn : Nat × ScriptKind} (budget : Nat)
    (other : ¬ (turn.1 = speaker.1 ∧ turn.2 = speaker.2))
    (empty : ∀ script, play.script? turn.1 turn.2 = some script →
      script.program.commands = []) :
    (play.takeTurn budget turn).monologue? speaker =
      play.monologue? speaker := by
  cases ready : play.ready? turn with
  | none => rw [takeTurn_of_idle ready]
  | some script =>
      have past : script.current? = none := by
        rw [Script.current?, empty script (ready?_eq_some ready).1]
        rfl
      unfold takeTurn giveTurn
      rw [ready]
      simp only [runScript_of_past past]
      unfold monologue?
      rw [script?_putScript, if_neg other, script?_putScript, if_neg other]
      unfold telling
      rw [outline_putScript, outline_putScript]

end Rows

end Play

end Stagecraft
