import Stagecraft.Proofs.Scene.Visits
import Stagecraft.Proofs.Script.Reading
import Stagecraft.Proofs.Script.Testing
import Stagecraft.Proofs.Script.Uses
import Stagecraft.Proofs.Script.Wakefulness

/-!
# Reads of triggers

Scripts do nothing to zones but read their triggers, and which triggers they read
can be told from the trace: each executed command reads those that it mentions, in
order. So at every moment of a tick the zones are as the trace so far has left
them.
-/

namespace Stagecraft

/-! ## Commands -/

/-- What a read of an operand does to zones. -/
def Operand.use? : Operand → Option ZoneUse
  | .zoneTriggered zone => some (.take zone.toNat)
  | _ => none

def usesOf (operands : List Operand) : List ZoneUse :=
  operands.filterMap Operand.use?

namespace Play

theorem zones_warnIf (play : Play) (condition : Bool) (warning : Warning) :
    (play.warnIf condition warning).zones = play.zones := by
  unfold warnIf
  split <;> rfl

theorem zones_read (play : Play) (runner : Nat) (operand : Operand) :
    (play.read runner operand).2.zones =
      zonesAfter play.zones operand.use?.toList := by
  cases operand with
  | cubeVariable index => exact play.zones_warnIf _ _
  | gameVariable index => exact play.zones_warnIf _ _
  | zoneEntered zone =>
      simp only [read]
      split <;> rfl
  | zoneTriggered zone =>
      simp only [read]
      cases found : play.zones[zone.toNat]? with
      | none => exact (modify_of_getElem?_eq_none found Zone.taken).symm
      | some there => rfl
  | literal _ | actorAlive _ | actorBehaviour _ | actorAnimation _ => rfl

theorem zones_readAll (runner : Nat) (operands : List Operand)
    (play : Play) :
    (play.readAll runner operands).2.zones =
      zonesAfter play.zones (usesOf operands) := by
  induction operands generalizing play with
  | nil => rfl
  | cons operand rest inductionHypothesis =>
      simp only [readAll, inductionHypothesis, zones_read, usesOf,
        ← zonesAfter_append]
      cases used : operand.use? with
      | none => simp [used]
      | some use => simp [used]

/-- A read of a trigger tells whether an entry waits. -/
theorem value_zoneTriggered (play : Play) (runner : Nat) (zone : UInt64) :
    (play.read runner (.zoneTriggered zone)).1 =
      truthWord
        (play.zones[zone.toNat]?.any fun zone => zone.state.pending) := by
  simp only [read]
  cases play.zones[zone.toNat]? with
  | none => rfl
  | some there => rfl

theorem zones_kill (play : Play) (cause target : Nat) :
    (play.kill cause target).zones = play.zones := by
  unfold kill
  split
  · rfl
  · split <;> rfl

theorem zones_revive (play : Play) (cause target : Nat) :
    (play.revive cause target).zones = play.zones := by
  unfold revive
  split
  · rfl
  · split <;> rfl

theorem zones_moveActor (play : Play) (target : Nat) (position : Vec3) :
    (play.moveActor target position).zones = play.zones := by
  unfold moveActor
  split <;> rfl

section Instructions

variable {runner : Nat} {kind : ScriptKind} {command : Command}

theorem zones_execute (untested : command.condition? = none)
    (runner position : Nat) (script : Script) (play : Play) :
    (play.execute runner position command script).2.2.zones = play.zones := by
  cases command with
  | ifThen _ _ | oneIf _ _ | switchIf _ _ => cases untested
  | setCube index value => exact play.zones_warnIf _ _
  | setGame index value => exact play.zones_warnIf _ _
  | kill actor =>
      simp only [execute]
      split <;> exact play.zones_kill _ _
  | revive actor => exact play.zones_revive _ _
  | setPosition target => exact play.zones_moveActor _ _
  | moveToPoint index =>
      simp only [execute]
      split
      · exact play.zones_moveActor _ _
      · rfl
  | jump _ | yield | restart | stop | setBehaviour _ | playAnimation _
  | changeScene _ => rfl

/-- An instruction reads the triggers that its command mentions. -/
theorem zones_instruct (runner : Nat) (kind : ScriptKind) (command : Command)
    (script : Script) (play : Play) :
    (play.instruct runner kind command script).2.2.zones =
      zonesAfter play.zones (usesOf command.operands) := by
  cases tests : command.condition? with
  | none =>
      have kept :=
        zones_execute tests runner script.state.position script
          (play.note (.executed ⟨runner, kind, script.state.position⟩))
      have unread : usesOf command.operands = [] := by
        simp [Command.operands, tests, usesOf]
      rw [unread]
      unfold instruct
      dsimp only
      split <;> exact kept
  | some condition =>
      obtain ⟨target, jumps⟩ := Command.jumpTarget?_of_condition? tests
      rw [instruct_of_condition? runner kind tests jumps, evaluate_eq_readAll,
        Command.operands, tests]
      exact zones_readAll runner condition.operands _

/-! ## Traces -/

theorem trace_note (play : Play) {entry : Note}
    (quiet : entry.executed? = none) :
    (play.note entry).journal.trace = play.journal.trace := by
  simp [note, Journal.trace, quiet]

theorem trace_kill (play : Play) (cause target : Nat) :
    (play.kill cause target).journal.trace = play.journal.trace := by
  unfold kill
  split
  · exact play.trace_note rfl
  · split
    · exact play.trace_note rfl
    · rfl

theorem trace_revive (play : Play) (cause target : Nat) :
    (play.revive cause target).journal.trace = play.journal.trace := by
  unfold revive
  split
  · exact play.trace_note rfl
  · split
    · rfl
    · exact play.trace_note rfl

theorem trace_reads {before after : Play} (reads : before.Reads after) :
    after.journal.trace = before.journal.trace := by
  obtain ⟨warnings, noted⟩ := reads.notes
  have untraced : (warnings.map Note.warning).filterMap Note.executed? = [] := by
    simp [Note.executed?]
  rw [Journal.trace, noted, List.filterMap_append, untraced, List.append_nil]
  rfl

/-- An instruction adds itself to the trace. -/
theorem trace_instruct (runner : Nat) (kind : ScriptKind) (command : Command)
    (script : Script) (play : Play) :
    (play.instruct runner kind command script).2.2.journal.trace =
      play.journal.trace ++ [⟨runner, kind, script.state.position⟩] := by
  have instructs := play.instructs runner kind command script
  have started :
      (play.note
        (.executed ⟨runner, kind, script.state.position⟩)).journal.trace =
        play.journal.trace ++ [⟨runner, kind, script.state.position⟩] := by
    simp [note, Journal.trace, Note.executed?]
  rw [← started]
  generalize play.instruct runner kind command script = done at instructs ⊢
  cases instructs with
  | passes leads marks reads => exact trace_reads reads
  | pauses restarts => rfl
  | stops => rfl
  | kills other => exact trace_kill _ runner _
  | falls => exact trace_kill _ runner runner
  | revives target => exact trace_revive _ runner target
  | poses change call keeps => exact trace_note _ rfl
  | moves position => rw [moveActor_journal]
  | asks target => exact trace_note _ rfl

end Instructions

end Play

/-- The command that an executed instruction was, told from the actors. -/
def commandAt? (actors : List Actor) (step : TraceStep) : Option Command := do
  let actor ← actors[step.actor]?
  (actor.script step.kind).program.commands[step.position]?

/-- What the instructions of a trace have done to zones. -/
def usesOfTrace (actors : List Actor) (trace : List TraceStep) :
    List ZoneUse :=
  trace.flatMap fun step =>
    ((commandAt? actors step).map fun command =>
      usesOf command.operands).getD []

theorem usesOfTrace_append (actors : List Actor)
    (first second : List TraceStep) :
    usesOfTrace actors (first ++ second) =
      usesOfTrace actors first ++ usesOfTrace actors second :=
  List.flatMap_append

namespace Moment

/-! ## Moments of ticks -/

/-- Whether at a moment of ticks the scripts have the programs that they had at
first, and the zones are as the trace since then has left them. -/
structure Traces (start : Play) (moment : Moment) : Prop where
  ticks : moment.Ticks
  programs : ∀ actor kind script, moment.script? actor kind = some script →
    start.program? actor kind = some script.program
  zones : ∃ steps,
    moment.play.journal.trace = start.journal.trace ++ steps ∧
      moment.play.zones =
        zonesAfter start.zones (usesOfTrace start.actors steps)

variable {start : Play} {before after : Moment}

theorem traces_resting (start : Play) (budgets : List Nat) :
    (resting (budgets.map Deed.tick) start).Traces start := by
  refine ⟨⟨budgets, rfl⟩, ?_, [], by simp, rfl⟩
  intro actor kind script found
  exact congrArg (Option.map Script.program) found

/-- The command that a script at work has next is one of its actor's. -/
theorem Traces.commandAt?
    {work : Work} {agenda : Agenda} {play : Play} {command : Command}
    (traces : (working work agenda play).Traces start)
    (current : work.script.current? = some command) :
    commandAt? start.actors
      ⟨work.runner, work.kind, work.script.state.position⟩ =
        some command := by
  have program :=
    traces.programs work.runner work.kind work.script (if_pos ⟨rfl, rfl⟩)
  unfold Play.program? Play.script? at program
  simp only [Option.map_eq_some_iff] at program
  obtain ⟨_, ⟨actor, present, rfl⟩, same⟩ := program
  simp only [Stagecraft.commandAt?, present, Option.bind_eq_bind,
    Option.bind_some, same]
  exact current

/-- What leaves zones, trace and programs alone. -/
theorem Traces.of_same
    (traces : before.Traces start) (ticks : after.Ticks)
    (trace : after.play.journal.trace = before.play.journal.trace)
    (zones : after.play.zones = before.play.zones)
    (programs : ∀ actor kind script,
      after.script? actor kind = some script →
      ∃ old, before.script? actor kind = some old ∧
        script.program = old.program) :
    after.Traces start := by
  refine ⟨ticks, ?_, ?_⟩
  · intro actor kind script found
    obtain ⟨old, known, same⟩ := programs actor kind script found
    rw [same]
    exact traces.programs actor kind old known
  · rw [trace, zones]
    exact traces.zones

/-- An instruction extends the trace and reads what it says. -/
theorem Traces.instruct
    {work : Work} {agenda : Agenda} {play next : Play} {command : Command}
    {script : Script} {goes : Bool} (left : Nat)
    (traces : (working work agenda play).Traces start)
    (current : work.script.current? = some command)
    (instructs : play.instruct work.runner work.kind command work.script =
      (goes, script, next)) :
    (working ⟨work.runner, work.kind, script, left⟩ agenda next).Traces
      start := by
  have cases := play.instructs work.runner work.kind command work.script
  have traced :=
    play.trace_instruct work.runner work.kind command work.script
  have used :=
    play.zones_instruct work.runner work.kind command work.script
  rw [instructs] at cases traced used
  refine ⟨traces.ticks, ?_, ?_⟩
  · intro actor kind other found
    by_cases own : work.runner = actor ∧ work.kind = kind
    · obtain rfl : script = other :=
        Option.some.inj ((if_pos own).symm.trans found)
      rw [cases.program]
      exact traces.programs actor kind work.script (if_pos own)
    · obtain ⟨old, inSlot, same⟩ :=
        (Play.retains_instructs cases).scripts actor kind other
          ((if_neg own).symm.trans found)
      have program :=
        traces.programs actor kind old ((if_neg own).trans inSlot)
      rcases same with rfl | rfl
      · exact program
      · exact program
  · obtain ⟨steps, trace, zones⟩ := traces.zones
    refine ⟨steps ++
      [⟨work.runner, work.kind, work.script.state.position⟩], ?_, ?_⟩
    · rw [← List.append_assoc, ← trace]
      exact traced
    · have last :
          usesOfTrace start.actors
              [⟨work.runner, work.kind, work.script.state.position⟩] =
            usesOf command.operands := by
        simp [usesOfTrace, traces.commandAt? current]
      rw [usesOfTrace_append, last, zonesAfter_append, ← zones]
      exact used

theorem Traces.putBack
    {work : Work} {agenda : Agenda} {play : Play} {left : Script}
    (traces : (working work agenda play).Traces start)
    (program : left.program = work.script.program) :
    (changing agenda (play.putScript work.runner work.kind left)).Traces
      start := by
  refine traces.of_same traces.ticks rfl rfl ?_
  intro actor kind script found
  rcases script?_of_putScript agenda found with ⟨rfl, own⟩ | ⟨known, -⟩
  · exact ⟨work.script, if_pos own, program⟩
  · exact ⟨script, known, rfl⟩

theorem traces_next (next : Next before after)
    (traces : before.Traces start) : after.Traces start := by
  cases next with
  | intervenes intervention deeds play =>
      obtain ⟨budgets, same⟩ := traces.ticks
      cases budgets <;> simp at same
  | opens budget deeds play =>
      obtain ⟨budgets, same⟩ := traces.ticks
      cases budgets with
      | nil => simp at same
      | cons first rest =>
          exact traces.of_same ⟨rest, (List.cons.inj same).2⟩ rfl rfl
            fun _ _ script found => ⟨script, found, rfl⟩
  | closes budget deeds play =>
      exact traces.of_same traces.ticks rfl rfl
        fun _ _ script found => ⟨script, found, rfl⟩
  | passes turns budget deeds idle =>
      exact traces.of_same traces.ticks rfl rfl
        fun _ _ script found => ⟨script, found, rfl⟩
  | begins turns budget deeds ready =>
      refine traces.of_same traces.ticks rfl rfl ?_
      intro actor kind script found
      rw [script?_begins _ _ (Play.ready?_eq_some ready).1] at found
      exact ⟨script, found, rfl⟩
  | halts agenda play past => exact traces.putBack rfl
  | @tires work agenda play command current tired =>
      have warned :
          (working work agenda
            (play.warn (play.exhaustion work.runner work.kind agenda.budget
              work.script))).Traces start :=
        traces.of_same traces.ticks (play.trace_note rfl) rfl
          fun _ _ script found => ⟨script, found, rfl⟩
      exact warned.putBack rfl
  | goesOn agenda current steps instructs =>
      exact traces.instruct _ current instructs
  | ends agenda current steps instructs =>
      exact (traces.instruct 0 current instructs).putBack rfl

theorem traces_of_leads
    {budgets : List Nat} {moment : Moment}
    (leads : (resting (budgets.map Deed.tick) start).Leads moment) :
    moment.Traces start :=
  holds_of_leads (fun _ _ => traces_next) leads
    (traces_resting start budgets)

end Moment

end Stagecraft
