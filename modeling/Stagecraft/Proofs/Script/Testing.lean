import Stagecraft.Proofs.Script.Bounds

/-!
# What tests note in their scripts

A test with a memory notes one bit at its place in its script, and no other
instruction touches these bits. They are forgotten together when the scripts of an
actor are renewed, and a sleeping actor is never woken without that.
-/

namespace Stagecraft

/-! ## What a test notes -/

namespace Script

structure SameTests (before after : Script) : Prop where
  program : after.program = before.program
  spent : after.state.spent = before.state.spent
  last : after.state.last = before.state.last

theorem SameTests.refl (script : Script) : script.SameTests script :=
  ⟨rfl, rfl, rfl⟩

theorem sameTests_halt (script : Script) : script.SameTests script.halt :=
  ⟨rfl, rfl, rfl⟩

theorem sameTests_goTo (script : Script) (position : Nat) :
    script.SameTests (script.goTo position) :=
  ⟨rfl, rfl, rfl⟩

def noting (script : Script) (command : Command) (value : Bool) : Script :=
  match command with
  | .oneIf _ _ =>
      if value && !script.isSpent script.state.position then
        script.spend script.state.position
      else
        script
  | .switchIf _ _ => script.see script.state.position value
  | _ => script

/-- Whether a present command whose condition came to a value is passed. -/
def passes (script : Script) (command : Command) (value : Bool) : Bool :=
  match command with
  | .oneIf _ _ => value && !script.isSpent script.state.position
  | .switchIf _ _ => value && !script.lastSeen script.state.position
  | _ => value

end Script

/-- Every command with a condition has a target for when it fails. -/
theorem Command.jumpTarget?_of_condition?
    {command : Command} {condition : Condition}
    (tests : command.condition? = some condition) :
    ∃ target, command.jumpTarget? = some target := by
  cases command with
  | ifThen _ target | oneIf _ target | switchIf _ target =>
      exact ⟨target, rfl⟩
  | jump _ | yield | restart | stop | setCube _ _ | setGame _ _ | kill _
  | revive _ | setBehaviour _ | playAnimation _ | setPosition _
  | moveToPoint _ | changeScene _ =>
      cases tests

namespace Play

variable {runner : Nat} {kind : ScriptKind} {command : Command}

/-- A command with a condition leads to its successor or to its target. -/
theorem execute_of_condition?
    {condition : Condition} {target : UInt64}
    (tests : command.condition? = some condition)
    (jumps : command.jumpTarget? = some target) (script : Script)
    (play : Play) :
    let (value, after) := play.evaluate runner condition
    play.execute runner script.state.position command script =
      (.goOn
          (if script.passes command value then
            script.state.position + 1
          else
            target.toNat),
        script.noting command value, after) := by
  cases command with
  | ifThen tested elseTarget | switchIf tested elseTarget =>
      cases tests
      cases jumps
      rfl
  | oneIf tested elseTarget =>
      cases tests
      cases jumps
      simp only [execute, Script.noting, Script.passes]
      by_cases passed :
          ((play.evaluate runner condition).1 &&
            !script.isSpent script.state.position) = true
      · simp only [passed, if_true]
      · simp only [passed, Bool.false_eq_true, if_false]
  | jump _ | yield | restart | stop | setCube _ _ | setGame _ _ | kill _
  | revive _ | setBehaviour _ | playAnimation _ | setPosition _
  | moveToPoint _ | changeScene _ =>
      cases tests

/-- A test never ends a turn. -/
theorem instruct_of_condition? (runner : Nat) (kind : ScriptKind)
    {condition : Condition} {target : UInt64}
    (tests : command.condition? = some condition)
    (jumps : command.jumpTarget? = some target) (script : Script)
    (play : Play) :
    let started :=
      play.note (.executed ⟨runner, kind, script.state.position⟩)
    let (value, after) := started.evaluate runner condition
    play.instruct runner kind command script =
      (true,
        (script.noting command value).goTo
          (if script.passes command value then
            script.state.position + 1
          else
            target.toNat),
        after) := by
  simp only [instruct, execute_of_condition? tests jumps]

/-- A command without a condition leaves the script at work as it is. -/
theorem script_execute
    (untested : command.condition? = none) (position : Nat)
    (script : Script) (play : Play) :
    (play.execute runner position command script).2.1 = script := by
  cases command with
  | ifThen _ _ | oneIf _ _ | switchIf _ _ => cases untested
  | kill actor =>
      by_cases own : actor.resolve runner = runner
      · simp only [execute, if_pos own]
      · simp only [execute, if_neg own]
  | moveToPoint index =>
      simp only [execute]
      cases play.points[index.toNat]? <;> rfl
  | jump _ | yield | restart | stop | setCube _ _ | setGame _ _ | revive _
  | setBehaviour _ | playAnimation _ | setPosition _ | changeScene _ => rfl

theorem sameTests_instruct
    (untested : command.condition? = none) (script : Script) (play : Play) :
    script.SameTests (play.instruct runner kind command script).2.1 := by
  have same : ((play.note
      (.executed ⟨runner, kind, script.state.position⟩)).execute runner
        script.state.position command script).2.1 = script :=
    script_execute untested _ script _
  unfold instruct
  dsimp only
  rw [same]
  split
  · exact script.sameTests_goTo _
  · exact script.sameTests_goTo _
  · exact script.sameTests_halt

end Play

/-! ## Renewed scripts -/

def Actor.Renews (before after : Actor) : Prop :=
  ∀ kind, after.script kind =
    if !before.alive && after.alive then
      (before.script kind).reset
    else
      before.script kind

theorem Actor.renews_of_same
    {before after : Actor} (awake : after.alive = before.alive)
    (same : ∀ kind, after.script kind = before.script kind) :
    before.Renews after := by
  intro kind
  rw [awake, Bool.not_and_self, same]
  rfl

theorem Actor.renews_killed (actor : Actor) : actor.Renews actor.killed := by
  intro kind
  cases kind <;> simp [killed, script]

theorem Actor.renews_woken (actor : Actor) : actor.Renews actor.woken := by
  intro kind
  unfold woken
  cases awake : actor.alive with
  | true => simp [awake]
  | false => cases kind <;> simp [revived, script]

namespace Play

/-- Whether every script in a slot stood there before, put back to its start exactly
if its actor was asleep then and is awake now. -/
def Renews (before after : Play) : Prop :=
  ∀ actor kind, after.script? actor kind =
    (before.script? actor kind).map fun script =>
      if !before.isAlive actor && after.isAlive actor then
        script.reset
      else
        script

variable {before after : Play}

theorem renews_of_isAlive
    (awake : after.isAlive = before.isAlive)
    (same : ∀ actor kind,
      after.script? actor kind = before.script? actor kind) :
    before.Renews after := by
  intro actor kind
  simp only [awake, Bool.not_and_self, same, Bool.false_eq_true, if_false,
    Option.map_id']

theorem renews_of_actors (same : after.actors = before.actors) :
    before.Renews after :=
  renews_of_isAlive (isAlive_of_actors same) (script?_of_actors same)

theorem renews_of_modify
    {target : Nat} {change : Actor → Actor}
    (changed : after.actors = before.actors.modify target change)
    (renews : ∀ actor : Actor, actor.Renews (change actor)) :
    before.Renews after := by
  intro other kind
  simp only [script?, isAlive_eq, changed, List.getElem?_modify]
  by_cases own : target = other
  · subst own
    cases before.actors[target]? with
    | none => rfl
    | some actor => simpa using renews actor kind
  · simp [own, Function.comp_def]

/-- An instruction renews the scripts of an actor exactly by waking it. -/
theorem renews_instructs
    {runner : Nat} {command : Command} {script next : Script} {goes : Bool}
    (instructs : Instructs runner command script before
      (goes, next, after)) :
    before.Renews after := by
  cases instructs with
  | passes leads marks reads => exact renews_of_actors reads.actors
  | pauses restarts => exact renews_of_actors rfl
  | stops => exact renews_of_actors rfl
  | kills other =>
      exact renews_of_modify (before.actors_kill runner _)
        Actor.renews_killed
  | falls =>
      exact renews_of_modify (before.actors_kill runner runner)
        Actor.renews_killed
  | revives target =>
      exact renews_of_modify (before.actors_revive runner target)
        Actor.renews_woken
  | poses change call keeps =>
      have posed :
          (before.modifyActor runner change).actors =
            before.actors.modify runner change :=
        rfl
      refine renews_of_modify posed fun actor => ?_
      apply Actor.renews_of_same (keeps actor).alive
      intro kind
      cases kind with
      | life => exact (keeps actor).life
      | move => exact (keeps actor).move
  | moves position =>
      refine renews_of_modify (before.actors_moveActor runner position)
        fun actor => ?_
      apply Actor.renews_of_same rfl
      intro kind
      cases kind <;> rfl
  | asks target => exact renews_of_actors rfl

end Play

namespace Script

/-! ## What a step does to the notes of a script -/

/-- What becomes of the notes of a script that is renewed or not, and whose
conditions come to the given values. -/
structure Learns (before : Script) (renewed : Bool)
    (values : Nat → Option Bool) (after : Script) : Prop where
  program : after.program = before.program
  spent : ∀ index condition target,
    before.program.commands[index]? = some (.oneIf condition target) →
    after.isSpent index =
      (!renewed && before.isSpent index || (values index).getD false)
  last : ∀ index condition target,
    before.program.commands[index]? = some (.switchIf condition target) →
    after.lastSeen index =
      (values index).getD (!renewed && before.lastSeen index)
  others : renewed = false → ∀ index, values index = none →
    after.isSpent index = before.isSpent index ∧
      after.lastSeen index = before.lastSeen index

variable {script later : Script} {values : Nat → Option Bool}

theorem isSpent_reset (script : Script) (index : Nat) :
    script.reset.isSpent index = false := by
  simp [isSpent, reset, ScriptState.start, List.getElem?_replicate]
  split <;> rfl

theorem lastSeen_reset (script : Script) (index : Nat) :
    script.reset.lastSeen index = false := by
  simp [lastSeen, reset, ScriptState.start, List.getElem?_replicate]
  split <;> rfl

theorem learns_reset (script : Script)
    (untested : ∀ index, values index = none) :
    script.Learns true values script.reset := by
  refine ⟨rfl, ?_, ?_, by simp⟩
  · intro index condition target found
    simp [untested, isSpent_reset]
  · intro index condition target found
    simp [untested, lastSeen_reset]

theorem SameTests.isSpent (same : script.SameTests later) (index : Nat) :
    later.isSpent index = script.isSpent index := by
  rw [Script.isSpent, same.spent]
  rfl

theorem SameTests.lastSeen (same : script.SameTests later) (index : Nat) :
    later.lastSeen index = script.lastSeen index := by
  rw [Script.lastSeen, same.last]
  rfl

theorem SameTests.learns (same : script.SameTests later)
    (untested : ∀ index, values index = none) :
    script.Learns false values later := by
  refine ⟨same.program, ?_, ?_, ?_⟩
  · intro index condition target found
    simp [untested, same.isSpent]
  · intro index condition target found
    simp [untested, same.lastSeen]
  · intro _ index _
    exact ⟨same.isSpent index, same.lastSeen index⟩

/-- A script that tests nothing learns nothing, and forgets all if it is
renewed. -/
theorem learns_renewed (script : Script) (renewed : Bool)
    (untested : ∀ index, values index = none) :
    script.Learns renewed values
      (if renewed then script.reset else script) := by
  cases renewed with
  | true => exact script.learns_reset untested
  | false => exact (SameTests.refl script).learns untested

/-! ### Notes of a test -/

section Noting

variable {commands : List Command} {command : Command} {value : Bool}

theorem isSpent_spend (keeps : script.Keeps commands)
    (inside : script.state.position < commands.length) (index : Nat) :
    (script.spend script.state.position).isSpent index =
      (script.isSpent index || decide (script.state.position = index)) := by
  have noted : script.state.position < script.state.spent.length := by
    rw [keeps.spent]
    exact inside
  simp only [isSpent, spend, List.getD_eq_getElem?_getD, List.getElem?_set]
  by_cases own : script.state.position = index
  · simp [own, own ▸ noted]
  · simp [own]

theorem lastSeen_see (keeps : script.Keeps commands)
    (inside : script.state.position < commands.length) (index : Nat) :
    (script.see script.state.position value).lastSeen index =
      if script.state.position = index then
        value
      else
        script.lastSeen index := by
  have noted : script.state.position < script.state.last.length := by
    rw [keeps.last]
    exact inside
  simp only [lastSeen, see, List.getD_eq_getElem?_getD, List.getElem?_set]
  by_cases own : script.state.position = index
  · simp [own, own ▸ noted]
  · simp [own]

theorem program_noting (script : Script) (command : Command) (value : Bool) :
    (script.noting command value).program = script.program := by
  unfold noting
  split
  · split <;> rfl
  · rfl
  · rfl

/-- What stands at the present position of a script is its present command. -/
theorem eq_of_current?
    (current : script.current? = some command) {other : Command}
    (found : script.program.commands[script.state.position]? = some other) :
    command = other :=
  Option.some.inj (current.symm.trans found)

/-- A one-time test is passed for good once its condition was true. -/
theorem isSpent_noting (keeps : script.Keeps commands)
    (inside : script.state.position < commands.length)
    (condition : Condition) (target : UInt64) :
    (script.noting (.oneIf condition target) value).isSpent
        script.state.position =
      (script.isSpent script.state.position || value) := by
  unfold noting
  cases value with
  | false => simp
  | true =>
      cases spent : script.isSpent script.state.position with
      | true => simp [spent]
      | false => simp [isSpent_spend keeps inside]

/-- A test notes nothing for other commands. -/
theorem noting_elsewhere (keeps : script.Keeps commands)
    (inside : script.state.position < commands.length) {index : Nat}
    (apart : script.state.position ≠ index) :
    (script.noting command value).isSpent index = script.isSpent index ∧
      (script.noting command value).lastSeen index =
        script.lastSeen index := by
  have seen : (script.see script.state.position value).lastSeen index = _ :=
    lastSeen_see keeps inside index
  have spent := isSpent_spend keeps inside index
  rw [if_neg apart] at seen
  rw [decide_eq_false apart, Bool.or_false] at spent
  unfold noting
  split
  · split
    · exact ⟨spent, rfl⟩
    · exact ⟨rfl, rfl⟩
  · exact ⟨rfl, seen⟩
  · exact ⟨rfl, rfl⟩

theorem learns_noting (keeps : script.Keeps commands)
    (current : script.current? = some command)
    (same : (script.noting command value).SameTests later)
    (own : values script.state.position = some value)
    (untested : ∀ index, script.state.position ≠ index →
      values index = none) :
    script.Learns false values later := by
  have inside := keeps.position_lt current
  refine ⟨same.program.trans (script.program_noting command value),
    ?_, ?_, ?_⟩
  · intro index condition target found
    rw [same.isSpent]
    by_cases here : script.state.position = index
    · subst here
      obtain rfl := eq_of_current? current found
      simp [own, isSpent_noting keeps inside]
    · simp [untested index here, (noting_elsewhere keeps inside here).1]
  · intro index condition target found
    rw [same.lastSeen]
    by_cases here : script.state.position = index
    · subst here
      obtain rfl := eq_of_current? current found
      simp [own, noting, lastSeen_see keeps inside]
    · simp [untested index here, (noting_elsewhere keeps inside here).2]
  · intro _ index unread
    have here : script.state.position ≠ index := by
      rintro rfl
      rw [own] at unread
      cases unread
    rw [same.isSpent, same.lastSeen]
    exact noting_elsewhere keeps inside here

end Noting

/-! ### Notes and history -/

/-- Whether the notes of a script sum up the values that its conditions had. -/
structure Recalls (history : Nat → List Bool) (script : Script) : Prop where
  spent : ∀ index condition target,
    script.program.commands[index]? = some (.oneIf condition target) →
    script.isSpent index = decide (true ∈ history index)
  last : ∀ index condition target,
    script.program.commands[index]? = some (.switchIf condition target) →
    script.lastSeen index = decide ((history index).getLast? = some true)

/-- A script at its start recalls that it has no history. -/
theorem recalls_of_reset (starts : script.reset = script) :
    script.Recalls fun _ => [] := by
  refine ⟨?_, ?_⟩
  · intro index condition target found
    rw [← starts, isSpent_reset]
    rfl
  · intro index condition target found
    rw [← starts, lastSeen_reset]
    rfl

theorem Recalls.learns
    {history : Nat → List Bool} {renewed : Bool}
    (recalls : script.Recalls history)
    (learns : script.Learns renewed values later) :
    later.Recalls fun index =>
      (if renewed then [] else history index) ++
        (values index).toList := by
  refine ⟨?_, ?_⟩
  · intro index condition target found
    rw [learns.program] at found
    have spent := recalls.spent index condition target found
    have spentNow := learns.spent index condition target found
    rw [spentNow, spent]
    cases renewed <;> cases values index <;> simp [eq_comm]
  · intro index condition target found
    rw [learns.program] at found
    have last := recalls.last index condition target found
    have lastNow := learns.last index condition target found
    rw [lastNow, last]
    cases renewed <;> cases values index <;> simp

end Script

/-- The scripts of an actor that was just built are at their start. -/
theorem Actor.reset_script_of_ofData
    {data : ActorData} {node : Option NodeId} {actor : Actor}
    (built : ofData data node = .ok actor) (kind : ScriptKind) :
    (actor.script kind).reset = actor.script kind := by
  obtain ⟨program, _, fresh⟩ := script_of_ofData built kind
  rw [fresh]
  rfl

end Stagecraft
