import Mathlib.Data.List.Forall2
import Stagecraft.Proofs.Script.Instructions
import Stagecraft.Proofs.Script.Moments

/-!
# Scripts stay inside their programs

Whatever is done with a scene, every script keeps the commands it was built from,
comes at most to their end, and has one note of each kind for every command. So a
script that executes something finds the command and both notes where it stands.
-/

namespace Stagecraft

/-! ## Single scripts -/

/-- The commands of one of the two scripts. -/
def ActorData.commands (data : ActorData) : ScriptKind → List Command
  | .life => data.life
  | .move => data.move

/-- Whether a script runs the given commands and stands within them. -/
structure Script.Keeps (commands : List Command) (script : Script) : Prop where
  program : script.program.commands = commands
  position : script.state.position ≤ commands.length
  spent : script.state.spent.length = commands.length
  last : script.state.last.length = commands.length

namespace Script

variable {commands : List Command} {script marked : Script} {command : Command}

theorem keeps_ofProgram (program : Program) :
    (ofProgram program).Keeps program.commands :=
  ⟨rfl, Nat.zero_le _, List.length_replicate, List.length_replicate⟩

theorem Keeps.reset (keeps : script.Keeps commands) :
    script.reset.Keeps commands := by
  have started := keeps_ofProgram script.program
  rw [keeps.program] at started
  exact started

theorem Keeps.halt (keeps : script.Keeps commands) :
    script.halt.Keeps commands :=
  ⟨keeps.program, keeps.position, keeps.spent, keeps.last⟩

theorem Keeps.of_retained (keeps : script.Keeps commands)
    (same : marked = script ∨ marked = script.reset) :
    marked.Keeps commands := by
  rcases same with rfl | rfl
  · exact keeps
  · exact keeps.reset

theorem Keeps.goTo (keeps : script.Keeps commands) {next : Nat}
    (inside : next ≤ commands.length) : (script.goTo next).Keeps commands :=
  ⟨keeps.program, inside, keeps.spent, keeps.last⟩

/-- To note the outcome of a test adds no note. -/
theorem Keeps.marks (keeps : script.Keeps commands)
    (marks : script.Marks marked) : marked.Keeps commands := by
  cases marks with
  | nothing => exact keeps
  | spent =>
      exact ⟨keeps.program, keeps.position,
        List.length_set.trans keeps.spent, keeps.last⟩
  | seen value =>
      exact ⟨keeps.program, keeps.position, keeps.spent,
        List.length_set.trans keeps.last⟩

/-- Where there is a command to execute, the script has not come to the end. -/
theorem Keeps.position_lt (keeps : script.Keeps commands)
    (current : script.current? = some command) :
    script.state.position < commands.length := by
  rw [← keeps.program]
  exact (List.getElem?_eq_some_iff.mp current).1

/-- Neither the next position nor a jump lies past the end. -/
theorem Keeps.leadsTo (keeps : script.Keeps commands)
    (current : script.current? = some command) {next : Nat}
    (leads : command.LeadsTo script.state.position next) :
    next ≤ commands.length := by
  cases leads with
  | successor => exact keeps.position_lt current
  | @jump target jumps =>
      rw [← keeps.program]
      exact script.program.targets_le command
        (List.mem_of_getElem? current) target jumps

theorem Keeps.instructs {runner : Nat} {started after : Play}
    {next : Script} {goes : Bool} (keeps : script.Keeps commands)
    (current : script.current? = some command)
    (instructs : Play.Instructs runner command script started
      (goes, next, after)) :
    next.Keeps commands := by
  have onward : (script.goTo (script.state.position + 1)).Keeps commands :=
    keeps.goTo (keeps.position_lt current)
  cases instructs with
  | passes leads marks reads =>
      exact (keeps.marks marks).goTo (keeps.leadsTo current leads)
  | pauses restarts =>
      rcases restarts with rfl | rfl
      · exact onward
      · exact keeps.goTo (Nat.zero_le _)
  | stops => exact keeps.halt
  | kills other => exact onward
  | falls => exact onward
  | revives target => exact onward
  | poses change call same => exact onward
  | moves position => exact onward
  | asks target => exact onward

end Script

/-- An accepted list of commands becomes a program unchanged. -/
theorem Program.commands_of_compile
    {commands : List Command} {program : Program}
    (compiled : compile commands = .ok program) :
    program.commands = commands := by
  unfold compile at compiled
  split at compiled
  · simp at compiled
  · rw [Except.ok.injEq] at compiled
    rw [← compiled]

/-- The scripts of an actor that was just built have not run any of their
programs. -/
theorem Actor.script_of_ofData
    {data : ActorData} {node : Option NodeId} {actor : Actor}
    (built : ofData data node = .ok actor) (kind : ScriptKind) :
    ∃ program, Program.compile (data.commands kind) = .ok program ∧
      actor.script kind = .ofProgram program := by
  unfold ofData at built
  cases lifeCompiled : Program.compile data.life with
  | error jump => rw [lifeCompiled] at built; cases built
  | ok life =>
      cases moveCompiled : Program.compile data.move with
      | error jump =>
          rw [lifeCompiled, moveCompiled] at built
          cases built
      | ok move =>
          rw [lifeCompiled, moveCompiled] at built
          cases built
          cases kind with
          | life => exact ⟨life, lifeCompiled, rfl⟩
          | move => exact ⟨move, moveCompiled, rfl⟩

/-- An actor that was just built has its scripts at their start. -/
theorem Actor.keeps_of_ofData
    {data : ActorData} {node : Option NodeId} {actor : Actor}
    (built : ofData data node = .ok actor) (kind : ScriptKind) :
    (actor.script kind).Keeps (data.commands kind) := by
  obtain ⟨program, compiled, fresh⟩ := script_of_ofData built kind
  rw [fresh, ← Program.commands_of_compile compiled]
  exact Script.keeps_ofProgram program

namespace Play

/-! ## Scripts in their slots -/

/-- Whether every script in a slot stood there before, and was at most put back to
its start. -/
structure Retains (before after : Play) : Prop where
  count : after.actors.length = before.actors.length
  scripts : ∀ actor kind script, after.script? actor kind = some script →
    ∃ old, before.script? actor kind = some old ∧
      (script = old ∨ script = old.reset)

variable {before after : Play}

theorem Retains.of_actors (same : after.actors = before.actors) :
    Retains before after :=
  ⟨congrArg List.length same, fun actor kind script found =>
    ⟨script, script?_of_actors same actor kind ▸ found, .inl rfl⟩⟩

theorem Retains.of_modify
    {target : Nat} {change : Actor → Actor}
    (changed : after.actors = before.actors.modify target change)
    (keeps : ∀ actor kind, (change actor).script kind = actor.script kind ∨
      (change actor).script kind = (actor.script kind).reset) :
    Retains before after := by
  refine ⟨by rw [changed, List.length_modify], ?_⟩
  intro actor kind script found
  rw [script?_of_modify changed] at found
  by_cases own : target = actor
  · rw [if_pos own, Option.map_eq_some_iff] at found
    obtain ⟨old, inSlot, rfl⟩ := found
    exact ⟨old.script kind, by rw [script?, inSlot]; rfl, keeps old kind⟩
  · rw [if_neg own] at found
    exact ⟨script, found, .inl rfl⟩

theorem retains_kill (play : Play) (cause target : Nat) :
    play.Retains (play.kill cause target) :=
  .of_modify (play.actors_kill cause target) fun actor kind =>
    .inl (by cases kind <;> rfl)

theorem Actor.script_woken (actor : Actor) (kind : ScriptKind) :
    actor.woken.script kind = actor.script kind ∨
      actor.woken.script kind = (actor.script kind).reset := by
  unfold Actor.woken
  split
  · exact .inl rfl
  · exact .inr (by cases kind <;> rfl)

theorem retains_instructs
    {runner : Nat} {command : Command} {script next : Script} {goes : Bool}
    (instructs : Instructs runner command script before
      (goes, next, after)) :
    Retains before after := by
  cases instructs with
  | passes leads marks reads => exact .of_actors reads.actors
  | pauses restarts => exact .of_actors rfl
  | stops => exact .of_actors rfl
  | kills other => exact retains_kill before runner _
  | falls => exact retains_kill before runner runner
  | revives target =>
      exact .of_modify (before.actors_revive runner target)
        Actor.script_woken
  | poses change call keeps =>
      have posed :
          (before.modifyActor runner change).actors =
            before.actors.modify runner change :=
        rfl
      refine .of_modify posed fun actor kind => .inl ?_
      cases kind with
      | life => exact (keeps actor).life
      | move => exact (keeps actor).move
  | moves position =>
      exact .of_modify (before.actors_moveActor runner position)
        fun actor kind => .inl (by cases kind <;> rfl)
  | asks target => exact .of_actors rfl

theorem retains_intervene (play : Play) (intervention : Intervention) :
    play.Retains (play.intervene intervention) := by
  cases intervention with
  | kill target =>
      exact .of_modify (play.actors_changeActor target Actor.kill_actor)
        fun actor kind => .inl (by cases kind <;> rfl)
  | revive target =>
      exact .of_modify (play.actors_changeActor target Actor.revive_actor)
        Actor.script_woken
  | reset target =>
      have made (actor : Actor) (tree : NodeTree) :
          (actor.reset tree).1 = actor.atSpawn :=
        rfl
      exact .of_modify (play.actors_changeActor target made)
        fun actor kind => .inr (by cases kind <;> rfl)
  | pose target position behaviour animation =>
      exact .of_modify rfl fun actor kind => .inl (by cases kind <;> rfl)
  | arrange cube game zones points => exact .of_actors rfl

end Play

namespace Moment

/-! ## Moments -/

/-- Whether at a moment every script runs the commands of its actor's data. -/
structure Keeps (specs : List ActorData) (moment : Moment) : Prop where
  count : moment.play.actors.length = specs.length
  scripts : ∀ actor kind script, moment.script? actor kind = some script →
    ∃ spec, specs[actor]? = some spec ∧ script.Keeps (spec.commands kind)

variable {specs : List ActorData} {before after : Moment}

theorem keeps_resting
    {start : Play}
    (built : List.Forall₂
      (fun spec actor => ∃ node, Actor.ofData spec node = .ok actor)
      specs start.actors) (deeds : List Deed) :
    (resting deeds start).Keeps specs := by
  refine ⟨built.length_eq.symm, ?_⟩
  intro actor kind script found
  obtain ⟨member, inPlay, rfl⟩ := Option.map_eq_some_iff.mp found
  obtain ⟨inside, rfl⟩ := List.getElem?_eq_some_iff.mp inPlay
  have insideSpecs : actor < specs.length := by
    rw [built.length_eq]
    exact inside
  obtain ⟨node, made⟩ := built.get insideSpecs inside
  exact ⟨specs[actor], List.getElem?_eq_getElem insideSpecs,
    Actor.keeps_of_ofData made kind⟩

/-- Every script of an actor of the data is somewhere. -/
theorem Keeps.script?_isSome
    (keeps : before.Keeps specs) {actor : Nat} {spec : ActorData}
    (found : specs[actor]? = some spec) (kind : ScriptKind) :
    ∃ script, before.script? actor kind = some script := by
  have inside : actor < before.play.actors.length := by
    rw [keeps.count]
    exact (List.getElem?_eq_some_iff.mp found).1
  have inSlot :
      before.play.script? actor kind =
        some (before.play.actors[actor].script kind) := by
    rw [Play.script?, List.getElem?_eq_getElem inside, Option.map_some]
  cases before with
  | resting deeds play => exact ⟨_, inSlot⟩
  | changing agenda play => exact ⟨_, inSlot⟩
  | working work agenda play =>
      by_cases own : work.runner = actor ∧ work.kind = kind
      · exact ⟨_, if_pos own⟩
      · exact ⟨_, (if_neg own).trans inSlot⟩

/-- What is put back into its slot is the script that was at work, halted or as
its last instruction left it. -/
theorem Keeps.putBack
    {work : Work} {agenda : Agenda} {play : Play} {left : Script}
    (keeps : (working work agenda play).Keeps specs)
    (kept : ∀ commands, work.script.Keeps commands → left.Keeps commands) :
    (changing agenda (play.putScript work.runner work.kind left)).Keeps
      specs := by
  refine ⟨(List.length_modify ..).trans keeps.count, ?_⟩
  intro actor kind script found
  rcases script?_of_putScript agenda found with
    ⟨rfl, own⟩ | ⟨known, _⟩
  · obtain ⟨spec, given, keepsOld⟩ :=
      keeps.scripts actor kind work.script (if_pos own)
    exact ⟨spec, given, kept _ keepsOld⟩
  · exact keeps.scripts actor kind script known

/-- An instruction leaves the script at work within its commands. -/
theorem Keeps.instruct
    {work : Work} {agenda : Agenda} {play next : Play} {command : Command}
    {script : Script} {goes : Bool} (steps : Nat)
    (keeps : (working work agenda play).Keeps specs)
    (current : work.script.current? = some command)
    (instructs : play.instruct work.runner work.kind command work.script =
      (goes, script, next)) :
    (working ⟨work.runner, work.kind, script, steps⟩ agenda next).Keeps
      specs := by
  have cases := play.instructs work.runner work.kind command work.script
  rw [instructs] at cases
  have retains := Play.retains_instructs cases
  refine ⟨retains.count.trans keeps.count, ?_⟩
  intro actor kind other found
  by_cases own : work.runner = actor ∧ work.kind = kind
  · obtain rfl : script = other := Option.some.inj ((if_pos own).symm.trans found)
    obtain ⟨spec, given, kept⟩ :=
      keeps.scripts actor kind work.script (if_pos own)
    exact ⟨spec, given, kept.instructs current cases⟩
  · obtain ⟨old, inSlot, same⟩ :=
      retains.scripts actor kind other ((if_neg own).symm.trans found)
    obtain ⟨spec, given, kept⟩ :=
      keeps.scripts actor kind old ((if_neg own).trans inSlot)
    exact ⟨spec, given, kept.of_retained same⟩

theorem keeps_next
    (next : Next before after) (keeps : before.Keeps specs) :
    after.Keeps specs := by
  cases next with
  | intervenes intervention deeds play =>
      have retains := play.retains_intervene intervention
      refine ⟨retains.count.trans keeps.count, ?_⟩
      intro actor kind script found
      obtain ⟨old, inSlot, same⟩ := retains.scripts actor kind script found
      obtain ⟨spec, given, kept⟩ := keeps.scripts actor kind old inSlot
      exact ⟨spec, given, kept.of_retained same⟩
  | opens budget deeds play => exact ⟨keeps.count, keeps.scripts⟩
  | closes budget deeds play => exact ⟨keeps.count, keeps.scripts⟩
  | passes turns budget deeds idle => exact ⟨keeps.count, keeps.scripts⟩
  | begins turns budget deeds ready =>
      obtain ⟨inSlot, awake⟩ := Play.ready?_eq_some ready
      refine ⟨(List.length_modify ..).trans keeps.count, ?_⟩
      intro actor kind script found
      rw [script?_begins _ _ inSlot] at found
      exact keeps.scripts actor kind script found
  | halts agenda play past => exact keeps.putBack fun _ kept => kept.halt
  | @tires work agenda play command current tired =>
      have warned :
          (working work agenda
            (play.warn (play.exhaustion work.runner work.kind agenda.budget
              work.script))).Keeps specs :=
        ⟨keeps.count, keeps.scripts⟩
      exact warned.putBack fun _ kept => kept
  | goesOn agenda current steps instructs =>
      exact keeps.instruct _ current instructs
  | ends agenda current steps instructs =>
      have left := keeps.instruct 0 current instructs
      exact left.putBack fun _ kept => kept

/-- A script at work that has come to its end can only be put back, halted. -/
theorem next_iff_of_ended
    {work : Work} {agenda : Agenda} {play : Play}
    (ended : work.script.state.position = work.script.program.size) :
    Next (working work agenda play) after ↔
      after = changing agenda
        (play.putScript work.runner work.kind work.script.halt) := by
  have past : work.script.current? = none :=
    List.getElem?_eq_none_iff.mpr (Nat.le_of_eq ended.symm)
  constructor
  · intro next
    cases next with
    | halts agenda play past => rfl
    | tires agenda play current tired => rw [past] at current; cases current
    | goesOn agenda current steps instructs =>
        rw [past] at current
        cases current
    | ends agenda current steps instructs =>
        rw [past] at current
        cases current
  · rintro rfl
    exact .halts agenda play past

end Moment

namespace Play

/-! ## Whole rehearsals -/

/-- Whatever is done with actors that were just built, at every moment each script
runs the commands it was built from, comes at most to their end and has one note
of each kind for every command. So a script that has a command to execute stands
before the end of its program and of its notes, and one that has come to the end
halts. -/
theorem scripts_stay_in_bounds
    {specs : List ActorData} {start : Play}
    (built : List.Forall₂
      (fun spec actor => ∃ node, Actor.ofData spec node = .ok actor)
      specs start.actors) (deeds : List Deed) :
    (Moment.resting deeds start).Leads
        (.resting [] (start.rehearse deeds)) ∧
      ∀ moment, (Moment.resting deeds start).Leads moment →
        (∀ actor spec kind, specs[actor]? = some spec →
          ∃ script, moment.script? actor kind = some script ∧
            script.Keeps (spec.commands kind)) ∧
        ∀ work agenda play, moment = .working work agenda play →
          (∃ spec, specs[work.runner]? = some spec ∧
            work.script.Keeps (spec.commands work.kind)) ∧
          (∀ command, work.script.current? = some command →
            work.script.state.position < work.script.program.size ∧
            work.script.state.position < work.script.state.spent.length ∧
            work.script.state.position < work.script.state.last.length) ∧
          (work.script.state.position = work.script.program.size →
            ∀ after, Moment.Next moment after ↔
              after = .changing agenda
                (play.putScript work.runner work.kind
                  work.script.halt)) := by
  refine ⟨by simpa using Moment.leads_rehearse deeds [] start, ?_⟩
  intro moment leads
  have keeps : moment.Keeps specs :=
    Moment.holds_of_leads (fun _ _ => Moment.keeps_next) leads
      (Moment.keeps_resting built deeds)
  refine ⟨?_, ?_⟩
  · intro actor spec kind given
    obtain ⟨script, found⟩ := keeps.script?_isSome given kind
    obtain ⟨other, givenToo, kept⟩ := keeps.scripts actor kind script found
    rw [given, Option.some.injEq] at givenToo
    subst givenToo
    exact ⟨script, found, kept⟩
  · rintro work agenda play rfl
    obtain ⟨spec, given, kept⟩ :=
      keeps.scripts work.runner work.kind work.script (if_pos ⟨rfl, rfl⟩)
    refine ⟨⟨spec, given, kept⟩, ?_, ?_⟩
    · intro command current
      have inside := kept.position_lt current
      rw [Program.size, kept.program, kept.spent, kept.last]
      exact ⟨inside, inside, inside⟩
    · intro ended after
      exact Moment.next_iff_of_ended ended

/-- An actor that falls asleep by its own script, the first time only. -/
def sleeper : ActorData where
  name := "sleeper"
  model := none
  position := Vec3.zero
  behaviour := 0
  animation := 0
  life :=
    [.oneIf (.compare (.actorAlive .self) .equal (.literal 1)) 2, .kill .self,
      .restart]
  move := [.jump 1]

def bedroom : Play where
  scene := 0
  cube := CubeBank.blank 1
  game := GameBank.fresh
  actors := (Actor.ofData sleeper none).toOption.toList
  zones := []
  points := []
  nodes := NodeTree.empty
  journal := #[]

/-- The sleeper is woken between two ticks. -/
theorem scripts_stay_in_bounds_sleeper :
    List.Forall₂
        (fun spec actor => ∃ node, Actor.ofData spec node = .ok actor)
        [sleeper] bedroom.actors ∧
      ∃ script,
        (bedroom.rehearse
          [.tick 5, .intervene (.revive 0), .tick 5]).script? 0 .life =
            some script ∧
        script.Keeps sleeper.life := by
  have built :
      List.Forall₂
        (fun spec actor => ∃ node, Actor.ofData spec node = .ok actor)
        [sleeper] bedroom.actors :=
    .cons ⟨none, rfl⟩ .nil
  obtain ⟨leads, safe⟩ :=
    scripts_stay_in_bounds built [.tick 5, .intervene (.revive 0), .tick 5]
  exact ⟨built, (safe _ leads).1 0 sleeper .life rfl⟩

end Play

end Stagecraft
