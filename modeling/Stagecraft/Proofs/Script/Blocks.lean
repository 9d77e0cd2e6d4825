import Mathlib.Data.List.Chain
import Stagecraft.Proofs.Script.Triggers

/-!
# Blocks of instructions

What a script executes in one turn is a block: it starts where the script stands,
follows successors and jumps, and is no longer than the step budget. Only a script
that fills its budget with commands that let its turn go on, and is not over then, is
reported, and it stays where it was interrupted.
-/

namespace Stagecraft

/-! ## Commands that end a turn -/

/-- Whether a command ends the turn of the actor that runs it: it waits, starts the
script anew, ends it, asks for another scene or puts the actor itself to sleep. -/
def Command.endsTurn (runner : Nat) : Command → Bool
  | .yield | .restart | .stop | .changeScene _ => true
  | .kill actor => actor.resolve runner == runner
  | _ => false

namespace Program

/-- Whether the command at a position can lead on to another one. -/
def Leads (program : Program) (position next : Nat) : Prop :=
  ∃ command, program.commands[position]? = some command ∧
    command.LeadsTo position next

/-- Whether the command at a position ends the turn of the actor that runs it. -/
def endsTurnAt (runner : Nat) (program : Program) (position : Nat) : Bool :=
  program.commands[position]?.any (Command.endsTurn runner)

theorem endsTurnAt_of_current? {script : Script} {command : Command}
    (current : script.current? = some command) (runner : Nat) :
    script.program.endsTurnAt runner script.state.position =
      command.endsTurn runner := by
  rw [Script.current?] at current
  rw [endsTurnAt, current, Option.any_some]

end Program

/-- Whether a script has used up its budget for a block of instructions: none of them
ended the turn, and it is not over. -/
def Script.isExhausted (runner budget : Nat) (block : List Nat)
    (script : Script) : Bool :=
  block.length == budget &&
    block.all (fun position => !script.program.endsTurnAt runner position) &&
    decide (script.state.position < script.program.size)

/-- The warnings that scripts have used up their budgets. -/
def Journal.exhaustions (journal : Journal) : List Warning :=
  journal.warnings.filter Warning.isExhaustion

namespace Play

theorem endsTurn_eq (runner : Nat) (kind : ScriptKind) (command : Command)
    (script : Script) (play : Play) :
    command.endsTurn runner =
      !(play.instruct runner kind command script).1 := by
  unfold instruct
  dsimp only
  generalize
    play.note (.executed ⟨runner, kind, script.state.position⟩) = started
  cases command with
  | oneIf condition target =>
      simp only [execute]
      cases (started.evaluate runner condition).1 &&
        !script.isSpent script.state.position <;> rfl
  | kill actor =>
      simp only [execute, Command.endsTurn]
      by_cases own : actor.resolve runner = runner
      · simp [own]
      · simp [own]
  | moveToPoint index =>
      simp only [execute]
      cases started.points[index.toNat]? <;> rfl
  | ifThen _ _ | switchIf _ _ | jump _ | yield | restart | stop | setCube _ _
  | setGame _ _ | revive _ | setBehaviour _ | playAnimation _
  | setPosition _ | changeScene _ => rfl

/-! ## Warnings -/

theorem exhaustions_note (play : Play) {entry : Note}
    (quiet : entry.isExhaustion = false) :
    (play.note entry).journal.exhaustions = play.journal.exhaustions := by
  unfold Note.isExhaustion at quiet
  cases told : entry.warning? with
  | none => simp [note, Journal.exhaustions, Journal.warnings, told]
  | some warning =>
      rw [told, Option.any_some] at quiet
      simp [note, Journal.exhaustions, Journal.warnings, told, quiet]

theorem exhaustions_warnIf (play : Play) (condition : Bool)
    {warning : Warning} (quiet : warning.isExhaustion = false) :
    (play.warnIf condition warning).journal.exhaustions =
      play.journal.exhaustions := by
  unfold warnIf
  split
  · exact play.exhaustions_note quiet
  · rfl

theorem exhaustions_warn_exhausted (play : Play) (runner : Nat)
    (kind : ScriptKind) (budget : Nat) (script : Script) :
    (play.warn (play.exhaustion runner kind budget script)).journal.exhaustions =
      play.journal.exhaustions ++
        [play.exhaustion runner kind budget script] := by
  simp [warn, note, Journal.exhaustions, Journal.warnings, exhaustion,
    Note.warning?, Warning.isExhaustion]

theorem exhaustions_read (runner : Nat) (operand : Operand) (play : Play) :
    (play.read runner operand).2.journal.exhaustions =
      play.journal.exhaustions := by
  cases operand with
  | cubeVariable index => exact play.exhaustions_warnIf _ rfl
  | gameVariable index => exact play.exhaustions_warnIf _ rfl
  | zoneEntered zone =>
      simp only [read]
      split
      · rfl
      · exact play.exhaustions_note rfl
  | zoneTriggered zone =>
      simp only [read]
      split
      · rfl
      · exact play.exhaustions_note rfl
  | literal _ | actorAlive _ | actorBehaviour _ | actorAnimation _ => rfl

theorem exhaustions_evaluate (runner : Nat) (condition : Condition)
    (play : Play) :
    (play.evaluate runner condition).2.journal.exhaustions =
      play.journal.exhaustions := by
  induction condition generalizing play with
  | compare left test right =>
      exact (exhaustions_read runner right _).trans
        (exhaustions_read runner left play)
  | not term inductionHypothesis => exact inductionHypothesis play
  | and left right leftHypothesis rightHypothesis
  | or left right leftHypothesis rightHypothesis =>
      exact (rightHypothesis _).trans (leftHypothesis play)

theorem exhaustions_kill (play : Play) (cause target : Nat) :
    (play.kill cause target).journal.exhaustions =
      play.journal.exhaustions := by
  unfold kill
  split
  · exact play.exhaustions_note rfl
  · split
    · exact play.exhaustions_note rfl
    · rfl

theorem exhaustions_revive (play : Play) (cause target : Nat) :
    (play.revive cause target).journal.exhaustions =
      play.journal.exhaustions := by
  unfold revive
  split
  · exact play.exhaustions_note rfl
  · split
    · rfl
    · exact play.exhaustions_note rfl

theorem exhaustions_execute (runner position : Nat) (command : Command)
    (script : Script) (play : Play) :
    (play.execute runner position command script).2.2.journal.exhaustions =
      play.journal.exhaustions := by
  cases command with
  | ifThen condition target => exact exhaustions_evaluate runner condition play
  | oneIf condition target =>
      simp only [execute]
      split <;> exact exhaustions_evaluate runner condition play
  | switchIf condition target =>
      exact exhaustions_evaluate runner condition play
  | setCube index value => exact play.exhaustions_warnIf _ rfl
  | setGame index value => exact play.exhaustions_warnIf _ rfl
  | kill actor =>
      simp only [execute]
      split <;> exact play.exhaustions_kill _ _
  | revive actor => exact play.exhaustions_revive _ _
  | setBehaviour behaviour => exact exhaustions_note _ rfl
  | playAnimation animation => exact exhaustions_note _ rfl
  | setPosition target =>
      simp only [execute]
      rw [moveActor_journal]
  | moveToPoint index =>
      simp only [execute]
      split
      · rw [moveActor_journal]
      · exact play.exhaustions_note rfl
  | changeScene target => exact play.exhaustions_note rfl
  | jump _ | yield | restart | stop => rfl

/-- An instruction does not tell that a script has used up its budget. -/
theorem exhaustions_instruct (runner : Nat) (kind : ScriptKind)
    (command : Command) (script : Script) (play : Play) :
    (play.instruct runner kind command script).2.2.journal.exhaustions =
      play.journal.exhaustions := by
  have executed :=
    (exhaustions_execute runner script.state.position command script
      (play.note (.executed ⟨runner, kind, script.state.position⟩))).trans
        (play.exhaustions_note rfl)
  unfold instruct
  dsimp only
  split <;> exact executed

/-! ## Scenes -/

theorem scene_kill (play : Play) (cause target : Nat) :
    (play.kill cause target).scene = play.scene := by
  unfold kill
  split
  · rfl
  · split <;> rfl

theorem scene_revive (play : Play) (cause target : Nat) :
    (play.revive cause target).scene = play.scene := by
  unfold revive
  split
  · rfl
  · split <;> rfl

theorem scene_moveActor (play : Play) (target : Nat) (position : Vec3) :
    (play.moveActor target position).scene = play.scene := by
  unfold moveActor
  split <;> rfl

theorem Instructs.scene {runner : Nat} {command : Command}
    {script next : Script} {started after : Play} {goes : Bool}
    (instructs : Instructs runner command script started (goes, next, after)) :
    after.scene = started.scene := by
  cases instructs with
  | passes leads marks reads => exact reads.scene
  | kills other => exact started.scene_kill runner _
  | falls => exact started.scene_kill runner runner
  | revives target => exact started.scene_revive runner target
  | moves position => exact started.scene_moveActor runner position
  | pauses _ | stops | poses _ _ _ | asks _ => rfl

/-! ## Scripts that others leave alone -/

/-- Whether a script in its slot still stands there as it was, unless its actor was
woken in the meantime. -/
def Spares (actor : Nat) (kind : ScriptKind) (before after : Play) : Prop :=
  ∃ notes, after.journal.toList = before.journal.toList ++ notes ∧
    (after.script? actor kind = before.script? actor kind ∨
      ∃ cause, .event (.revived actor cause) ∈ notes)

namespace Spares

variable {actor : Nat} {kind : ScriptKind} {before middle after : Play}

theorem of_same {notes : List Note}
    (journal : after.journal.toList = before.journal.toList ++ notes)
    (same : after.script? actor kind = before.script? actor kind) :
    Spares actor kind before after :=
  ⟨notes, journal, .inl same⟩

theorem of_journal (journal : after.journal = before.journal)
    (same : after.script? actor kind = before.script? actor kind) :
    Spares actor kind before after :=
  .of_same (by rw [journal, List.append_nil]) same

theorem refl (play : Play) : Spares actor kind play play :=
  .of_journal rfl rfl

theorem trans (first : Spares actor kind before middle)
    (second : Spares actor kind middle after) :
    Spares actor kind before after := by
  obtain ⟨notes, grown, kept⟩ := first
  obtain ⟨others, grownAgain, keptAgain⟩ := second
  refine ⟨notes ++ others, by rw [grownAgain, grown, List.append_assoc], ?_⟩
  rcases kept with same | ⟨cause, woken⟩
  · rcases keptAgain with sameAgain | ⟨cause, woken⟩
    · exact .inl (sameAgain.trans same)
    · exact .inr ⟨cause, List.mem_append_right notes woken⟩
  · exact .inr ⟨cause, List.mem_append_left others woken⟩

theorem note (play : Play) (entry : Note) :
    Spares actor kind play (play.note entry) :=
  ⟨[entry], by simp [Play.note], .inl rfl⟩

theorem reads (reads : before.Reads after) :
    Spares actor kind before after := by
  obtain ⟨warnings, noted⟩ := reads.notes
  exact .of_same noted (script?_of_actors reads.actors actor kind)

theorem putScript (play : Play) {position : Nat} {slot : ScriptKind}
    (other : ¬ (position = actor ∧ slot = kind)) (script : Script) :
    Spares actor kind play (play.putScript position slot script) :=
  .of_journal rfl (by rw [script?_putScript, if_neg other])

theorem kill (play : Play) (cause target : Nat) :
    Spares actor kind play (play.kill cause target) := by
  obtain ⟨notes, does⟩ := does_kill cause play cause target
  exact .of_same does.continues.journal
    (script?_of_modify_same (play.actors_kill cause target)
      (fun _ kind => by cases kind <;> rfl) actor kind)

theorem revive (play : Play) (cause target : Nat) :
    Spares actor kind play (play.revive cause target) := by
  have changed := play.actors_revive cause target
  cases found : play.actors[target]? with
  | none =>
      simp only [Play.revive, found]
      exact note play _
  | some sleeper =>
      cases awake : sleeper.alive with
      | true =>
          have untouched : play.revive cause target = play := by
            simp [Play.revive, found, awake]
          rw [untouched]
          exact refl play
      | false =>
          refine ⟨[.event (.revived target cause)], ?_, ?_⟩
          · simp [Play.revive, found, awake, Play.note]
          · by_cases own : target = actor
            · exact .inr ⟨cause, by rw [own]; exact List.mem_singleton.mpr rfl⟩
            · rw [script?_of_modify changed, if_neg own]
              exact .inl rfl

theorem instruct (play : Play) (runner : Nat) (own : ScriptKind)
    (command : Command) (script : Script) :
    Spares actor kind play (play.instruct runner own command script).2.2 := by
  have started : Spares actor kind play _ :=
    note play (.executed ⟨runner, own, script.state.position⟩)
  have instructs := play.instructs runner own command script
  generalize play.note (.executed ⟨runner, own, script.state.position⟩) =
    noted at started instructs
  generalize play.instruct runner own command script = done at instructs ⊢
  refine started.trans ?_
  cases instructs with
  | passes leads marks reads => exact .reads reads
  | pauses restarts => exact refl noted
  | stops => exact refl noted
  | kills other => exact kill noted runner _
  | falls => exact kill noted runner runner
  | revives target => exact revive noted runner target
  | poses change call keeps =>
      have posed : Spares actor kind noted (noted.modifyActor runner change) :=
        .of_journal rfl
          (script?_of_modify_same rfl (fun actor kind => by
            cases kind with
            | life => exact (keeps actor).life
            | move => exact (keeps actor).move) actor kind)
      exact posed.trans (note _ _)
  | moves position =>
      exact .of_journal (noted.moveActor_journal runner position)
        (script?_of_modify_same (noted.actors_moveActor runner position)
          (fun _ kind => by cases kind <;> rfl) actor kind)
  | asks target => exact note noted _

end Spares

/-! ## Turns -/

/-- The number of steps that the loop of a turn counts. -/
def stepsOf (runner : Nat) (kind : ScriptKind) : Nat → Script → Play → Nat
  | steps, script, play =>
      match script.current?, steps with
      | none, _ => 0
      | some _, 0 => 0
      | some command, rest + 1 =>
          match play.instruct runner kind command script with
          | (true, next, after) => stepsOf runner kind rest next after + 1
          | (false, _, _) => 1

theorem Instructs.onward {runner : Nat} {command : Command}
    {script next : Script} {started after : Play}
    (instructs : Instructs runner command script started
      (true, next, after)) :
    command.LeadsTo script.state.position next.state.position ∧
      next.state.status = script.state.status := by
  cases instructs with
  | passes leads marks reads => exact ⟨leads, by cases marks <;> rfl⟩
  | kills other => exact ⟨.successor, rfl⟩
  | revives target => exact ⟨.successor, rfl⟩
  | poses change call keeps => exact ⟨.successor, rfl⟩
  | moves position => exact ⟨.successor, rfl⟩

end Play

/-- Whether a script can execute a block in a turn, and what it looks like when the
turn is over. -/
structure Script.Runs (runner budget : Nat) (script : Script)
    (block : List Nat) (left : Script) : Prop where
  program : left.program = script.program
  bounded : block.length ≤ budget
  starts : ∀ first, block.head? = some first → first = script.state.position
  leads : block.IsChain script.program.Leads
  parks : left.isExhausted runner budget block = true →
    left.state.status = script.state.status ∧
      (block ++ [left.state.position]).IsChain script.program.Leads ∧
      (block ++ [left.state.position]).head? = some script.state.position

namespace Script

variable {runner rest : Nat} {script next left : Script} {command : Command}
  {block : List Nat}

theorem isExhausted_of_past (budget : Nat) (past : script.current? = none) :
    script.halt.isExhausted runner budget [] = false := by
  have ended : script.program.size ≤ script.state.position :=
    List.getElem?_eq_none_iff.mp past
  simp [isExhausted, halt, Nat.not_lt.mpr ended]

theorem isExhausted_of_current? (current : script.current? = some command) :
    script.isExhausted runner 0 [] = true := by
  have inside : script.state.position < script.program.size :=
    (List.getElem?_eq_some_iff.mp current).1
  simp [isExhausted, inside]

theorem isExhausted_cons {position : Nat}
    (goes : left.program.endsTurnAt runner position = false) :
    left.isExhausted runner (rest + 1) (position :: block) =
      left.isExhausted runner rest block := by
  simp [isExhausted, goes]

theorem isExhausted_of_endsTurn {position : Nat}
    (ends : left.program.endsTurnAt runner position = true) :
    left.isExhausted runner (rest + 1) [position] = false := by
  simp [isExhausted, ends]

namespace Runs

theorem halts (budget : Nat) (past : script.current? = none) :
    script.Runs runner budget [] script.halt where
  program := rfl
  bounded := Nat.zero_le _
  starts := nofun
  leads := .nil
  parks := by
    rw [isExhausted_of_past budget past]
    exact nofun

theorem tires (runner : Nat) (script : Script) :
    script.Runs runner 0 [] script where
  program := rfl
  bounded := Nat.le_refl _
  starts := nofun
  leads := .nil
  parks _ := ⟨rfl, .singleton _, rfl⟩

theorem goesOn (runs : next.Runs runner rest block left)
    (program : next.program = script.program)
    (status : next.state.status = script.state.status)
    (leads : script.program.Leads script.state.position next.state.position)
    (goes : script.program.endsTurnAt runner script.state.position = false) :
    script.Runs runner (rest + 1) (script.state.position :: block) left where
  program := runs.program.trans program
  bounded := Nat.succ_le_succ runs.bounded
  starts first head := (Option.some.inj head).symm
  leads := by
    refine List.isChain_cons.mpr ⟨fun position head => ?_, ?_⟩
    · rw [runs.starts position head]
      exact leads
    · rw [← program]
      exact runs.leads
  parks := by
    rw [isExhausted_cons (by rw [runs.program, program, goes])]
    intro exhausted
    obtain ⟨still, chain, head⟩ := runs.parks exhausted
    refine ⟨still.trans status, ?_, rfl⟩
    rw [List.cons_append, List.isChain_cons]
    refine ⟨fun position there => ?_, ?_⟩
    · obtain rfl : next.state.position = position :=
        Option.some.inj (head.symm.trans there)
      exact leads
    · rw [← program]
      exact chain

theorem ends (program : left.program = script.program)
    (ends : script.program.endsTurnAt runner script.state.position = true) :
    script.Runs runner (rest + 1) [script.state.position] left where
  program := program
  bounded := Nat.succ_le_succ (Nat.zero_le rest)
  starts first head := (Option.some.inj head).symm
  leads := .singleton _
  parks := by
    rw [isExhausted_of_endsTurn (by rw [program, ends])]
    exact nofun

end Runs

end Script

namespace Play

/-- What a turn of a script that is out of its slot does: with some steps left of its
budget it executes a block, says so in the trace, and warns that the budget is used up
if these steps do not suffice. -/
structure Executes (runner : Nat) (kind : ScriptKind) (budget steps : Nat)
    (script : Script) (before : Play) (block : List Nat) (left : Script)
    (after : Play) : Prop where
  runs : script.Runs runner steps block left
  trace : after.journal.trace = before.journal.trace ++
    block.map fun position => ⟨runner, kind, position⟩
  reported : after.journal.exhaustions = before.journal.exhaustions ++
    if left.isExhausted runner steps block then
      [before.exhaustion runner kind budget left]
    else
      []
  counted : before.stepsOf runner kind steps script = block.length
  spares : ∀ actor kind, Spares actor kind before after
  count : after.actors.length = before.actors.length

section Instructions

variable {runner : Nat} {kind : ScriptKind} {command : Command}
  {script next left : Script} {play after last : Play} {goes : Bool}
  {budget rest : Nat} {block : List Nat}

/-- What an instruction adds to a block. -/
structure Instructed (runner : Nat) (kind : ScriptKind) (command : Command)
    (script : Script) (before : Play) (goes : Bool) (next : Script)
    (after : Play) : Prop where
  ends : command.endsTurn runner = !goes
  program : next.program = script.program
  onward : goes = true →
    command.LeadsTo script.state.position next.state.position ∧
      next.state.status = script.state.status
  trace : after.journal.trace =
    before.journal.trace ++ [⟨runner, kind, script.state.position⟩]
  quiet : after.journal.exhaustions = before.journal.exhaustions
  scene : after.scene = before.scene
  spares : ∀ actor kind, Spares actor kind before after
  count : after.actors.length = before.actors.length

theorem instructed
    (instructs : play.instruct runner kind command script =
      (goes, next, after)) :
    Instructed runner kind command script play goes next after := by
  have cases := play.instructs runner kind command script
  have ends := play.endsTurn_eq runner kind command script
  have traced := play.trace_instruct runner kind command script
  have quiet := play.exhaustions_instruct runner kind command script
  have spares (actor : Nat) (slot : ScriptKind) :
      Spares actor slot play _ := .instruct play runner kind command script
  rw [instructs] at cases ends traced quiet spares
  exact
    { ends := ends
      program := cases.program
      onward := by
        rintro rfl
        exact cases.onward
      trace := traced
      quiet := quiet
      scene := cases.scene
      spares := spares
      count := (retains_instructs cases).count }

theorem Executes.goesOn
    (executes : Executes runner kind budget rest next after block left last)
    (current : script.current? = some command)
    (instructs : play.instruct runner kind command script =
      (true, next, after)) :
    Executes runner kind budget (rest + 1) script play
      (script.state.position :: block) left last := by
  have done := instructed instructs
  obtain ⟨leads, status⟩ := done.onward rfl
  have goes : script.program.endsTurnAt runner script.state.position = false := by
    rw [Program.endsTurnAt_of_current? current, done.ends, Bool.not_true]
  have program := executes.runs.program.trans done.program
  exact
    { runs :=
        executes.runs.goesOn done.program status ⟨command, current, leads⟩ goes
      trace := by
        rw [executes.trace, done.trace, List.append_assoc]
        rfl
      reported := by
        rw [executes.reported, done.quiet,
          Script.isExhausted_cons (by rw [program, goes]), exhaustion,
          exhaustion, done.scene]
      counted := by
        unfold stepsOf
        simp only [current, instructs, executes.counted, List.length_cons]
      spares := fun actor slot =>
        (done.spares actor slot).trans (executes.spares actor slot)
      count := executes.count.trans done.count }

theorem Executes.ends (budget rest : Nat) (current : script.current? = some command)
    (instructs : play.instruct runner kind command script =
      (false, left, after)) :
    Executes runner kind budget (rest + 1) script play [script.state.position]
      left after := by
  have done := instructed instructs
  have ends : script.program.endsTurnAt runner script.state.position = true := by
    rw [Program.endsTurnAt_of_current? current, done.ends, Bool.not_false]
  exact
    { runs := .ends done.program ends
      trace := done.trace
      reported := by
        rw [Script.isExhausted_of_endsTurn (by rw [done.program, ends]),
          done.quiet]
        exact (List.append_nil _).symm
      counted := by
        unfold stepsOf
        simp only [current, instructs, List.length_singleton]
      spares := done.spares
      count := done.count }

end Instructions

/-- A turn executes a block. -/
theorem executes_runScript (runner : Nat) (kind : ScriptKind)
    (budget steps : Nat) (script : Script) (play : Play) :
    let ran := play.runScript runner kind budget steps script
    ∃ block, Executes runner kind budget steps script play block ran.1 ran.2 := by
  fun_induction runScript runner kind budget steps script play with
  | case1 steps script play past =>
      exact ⟨[],
        { runs := .halts steps past
          trace := (List.append_nil _).symm
          reported := by
            rw [Script.isExhausted_of_past steps past]
            exact (List.append_nil _).symm
          counted := by
            unfold stepsOf
            simp only [past, List.length_nil]
          spares := fun _ _ => .refl play
          count := rfl }⟩
  | case2 script play command current =>
      exact ⟨[],
        { runs := .tires runner script
          trace := (play.trace_note rfl).trans (List.append_nil _).symm
          reported := by
            rw [Script.isExhausted_of_current? current]
            exact play.exhaustions_warn_exhausted runner kind budget script
          counted := by
            unfold stepsOf
            simp only [current, List.length_nil]
          spares := fun _ _ => .note play _
          count := rfl }⟩
  | case3 script play command rest current next after instructs
      inductionHypothesis =>
      obtain ⟨block, executes⟩ := inductionHypothesis
      exact ⟨_, executes.goesOn current instructs⟩
  | case4 script play command rest current last after instructs =>
      exact ⟨_, .ends budget rest current instructs⟩

end Play

end Stagecraft
