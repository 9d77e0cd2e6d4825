import Stagecraft.Script.Machine

/-!
# How actors call themselves

A script can call the actor that runs it by its number, or simply itself. In the
reflexive form of a script the runner never goes by its number. A script and its
reflexive form do the same, command by command.
-/

namespace Stagecraft

/-! ## Reflexive forms -/

/-- A reference as the runner would put it: itself, if it is the one meant. -/
def ActorRef.reflexive (runner : Nat) : ActorRef → ActorRef
  | .self => .self
  | .numbered index =>
      if index.toNat = runner then .self else .numbered index

def Operand.reflexive (runner : Nat) : Operand → Operand
  | .actorAlive actor => .actorAlive (actor.reflexive runner)
  | .actorBehaviour actor => .actorBehaviour (actor.reflexive runner)
  | .actorAnimation actor => .actorAnimation (actor.reflexive runner)
  | operand => operand

def Condition.reflexive (runner : Nat) : Condition → Condition
  | .compare left test right =>
      .compare (left.reflexive runner) test (right.reflexive runner)
  | .not term => .not (term.reflexive runner)
  | .and left right =>
      .and (left.reflexive runner) (right.reflexive runner)
  | .or left right => .or (left.reflexive runner) (right.reflexive runner)

def Command.reflexive (runner : Nat) : Command → Command
  | .ifThen condition target => .ifThen (condition.reflexive runner) target
  | .oneIf condition target => .oneIf (condition.reflexive runner) target
  | .switchIf condition target => .switchIf (condition.reflexive runner) target
  | .kill actor => .kill (actor.reflexive runner)
  | .revive actor => .revive (actor.reflexive runner)
  | command => command

section References

variable (runner : Nat)

@[simp]
theorem ActorRef.resolve_reflexive (actor : ActorRef) :
    (actor.reflexive runner).resolve runner = actor.resolve runner := by
  cases actor with
  | self => rfl
  | numbered index =>
      rw [reflexive]
      split
      · next own => exact own.symm
      · rfl

/-- Two references have the same reflexive form just if they are the same or the
runner is meant by both. -/
theorem ActorRef.reflexive_eq_iff (actor other : ActorRef) :
    actor.reflexive runner = other.reflexive runner ↔
      actor = other ∨
        actor.resolve runner = runner ∧ other.resolve runner = runner := by
  cases actor with
  | self =>
      cases other with
      | self => simp
      | numbered index => simp [reflexive, resolve]
  | numbered index =>
      cases other with
      | self => simp [reflexive, resolve]
      | numbered otherIndex =>
          by_cases same : index = otherIndex
          · simp [same]
          · simp only [reflexive, resolve, numbered.injEq, same, false_or]
            split <;> split <;> simp_all

@[simp]
theorem Operand.mention_reflexive (operand : Operand) :
    Operand.variable? (operand.reflexive runner) = operand.variable? := by
  cases operand <;> rfl

theorem Condition.operands_reflexive (condition : Condition) :
    (condition.reflexive runner).operands =
      condition.operands.map (Operand.reflexive runner) := by
  induction condition with
  | compare left test right => rfl
  | not term inductionHypothesis => exact inductionHypothesis
  | and left right leftHypothesis rightHypothesis
  | or left right leftHypothesis rightHypothesis =>
      rw [reflexive, operands, leftHypothesis, rightHypothesis, operands,
        List.map_append]

end References

namespace Command

variable (runner : Nat) (command : Command)

@[simp]
theorem jumpTarget?_reflexive :
    (command.reflexive runner).jumpTarget? = command.jumpTarget? := by
  cases command <;> rfl

@[simp]
theorem name_reflexive : (command.reflexive runner).name = command.name := by
  cases command <;> rfl

theorem operands_reflexive :
    (command.reflexive runner).operands =
      command.operands.map (Operand.reflexive runner) := by
  cases command with
  | ifThen condition _ | oneIf condition _ | switchIf condition _ =>
      exact condition.operands_reflexive runner
  | _ => rfl

/-- A command mentions the same variables in its reflexive form. -/
theorem variableRefs_reflexive :
    (command.reflexive runner).variableRefs = command.variableRefs := by
  have assigned : (command.reflexive runner).assigned? = command.assigned? := by
    cases command <;> rfl
  rw [variableRefs, assigned, operands_reflexive, List.filterMap_map,
    variableRefs]
  congr 2
  funext operand
  exact operand.mention_reflexive runner

end Command

/-! ## Programs -/

namespace Program

/-- A program in which the runner does not go by its number. -/
def reflexive (runner : Nat) (program : Program) : Program where
  commands := program.commands.map (Command.reflexive runner)
  targets_le := by
    intro command member target jumps
    obtain ⟨original, inProgram, rfl⟩ := List.mem_map.mp member
    rw [Command.jumpTarget?_reflexive] at jumps
    rw [List.length_map]
    exact program.targets_le original inProgram target jumps

@[simp]
theorem size_reflexive (runner : Nat) (program : Program) :
    (program.reflexive runner).size = program.size :=
  List.length_map _

theorem firstOvershoot_reflexive (runner size position : Nat)
    (commands : List Command) :
    firstOvershoot size position (commands.map (Command.reflexive runner)) =
      firstOvershoot size position commands := by
  induction commands generalizing position with
  | nil => rfl
  | cons first rest inductionHypothesis =>
      simp only [List.map_cons, firstOvershoot, Command.overshoot?,
        Command.jumpTarget?_reflexive, Command.name_reflexive,
        inductionHypothesis]

/-- A script compiles to the reflexive form of its program, or fails at the same
jump. -/
theorem compile_reflexive (runner : Nat) (commands : List Command) :
    compile (commands.map (Command.reflexive runner)) =
      (compile commands).map (reflexive runner) := by
  have same :
      firstOvershoot (commands.map (Command.reflexive runner)).length 0
          (commands.map (Command.reflexive runner)) =
        firstOvershoot commands.length 0 commands := by
    rw [List.length_map, firstOvershoot_reflexive]
  unfold compile
  split
  · next jump overshoots =>
      rw [same] at overshoots
      split
      · next other overshootsToo =>
          rw [overshoots] at overshootsToo
          cases overshootsToo
          rfl
      · next clean =>
          rw [overshoots] at clean
          cases clean
  · next clean =>
      rw [same] at clean
      split
      · next jump overshoots =>
          rw [clean] at overshoots
          cases overshoots
      · rfl

end Program

def Script.reflexive (runner : Nat) (script : Script) : Script :=
  { script with program := script.program.reflexive runner }

theorem Script.current?_reflexive (runner : Nat) (script : Script) :
    (script.reflexive runner).current? =
      script.current?.map (Command.reflexive runner) :=
  List.getElem?_map

/-! ## Commands at work -/

namespace Play

variable (runner : Nat)

theorem read_reflexive (operand : Operand) (play : Play) :
    play.read runner (operand.reflexive runner) =
      play.read runner operand := by
  cases operand with
  | actorAlive actor | actorBehaviour actor | actorAnimation actor =>
      simp only [Operand.reflexive, read, actorWord,
        ActorRef.resolve_reflexive]
  | _ => rfl

theorem evaluate_reflexive (condition : Condition) (play : Play) :
    play.evaluate runner (condition.reflexive runner) =
      play.evaluate runner condition := by
  induction condition generalizing play with
  | compare left test right =>
      simp only [Condition.reflexive, evaluate, read_reflexive]
  | not term inductionHypothesis =>
      simp only [Condition.reflexive, evaluate, inductionHypothesis]
  | and left right leftHypothesis rightHypothesis
  | or left right leftHypothesis rightHypothesis =>
      simp only [Condition.reflexive, evaluate, leftHypothesis,
        rightHypothesis]

/-- A command and its reflexive form do the same to the scene, and both note the
same about their tests. -/
theorem execute_reflexive (position : Nat) (command : Command)
    (script : Script) (play : Play) :
    play.execute runner position (command.reflexive runner)
        (script.reflexive runner) =
      ((play.execute runner position command script).1,
        (play.execute runner position command script).2.1.reflexive runner,
        (play.execute runner position command script).2.2) := by
  cases command with
  | ifThen condition target =>
      simp only [Command.reflexive, execute, evaluate_reflexive]
  | oneIf condition target =>
      have spent : (script.reflexive runner).isSpent = script.isSpent := rfl
      simp only [Command.reflexive, execute, evaluate_reflexive, spent]
      split <;> rfl
  | switchIf condition target =>
      have seen : (script.reflexive runner).lastSeen = script.lastSeen := rfl
      simp only [Command.reflexive, execute, evaluate_reflexive, seen]
      rfl
  | kill actor =>
      simp only [Command.reflexive, execute, ActorRef.resolve_reflexive]
      split <;> rfl
  | revive actor =>
      simp only [Command.reflexive, execute, ActorRef.resolve_reflexive]
  | moveToPoint point =>
      simp only [Command.reflexive, execute]
      split <;> rfl
  | _ => rfl

theorem instruct_reflexive (kind : ScriptKind) (command : Command)
    (script : Script) (play : Play) :
    play.instruct runner kind (command.reflexive runner)
        (script.reflexive runner) =
      ((play.instruct runner kind command script).1,
        (play.instruct runner kind command script).2.1.reflexive runner,
        (play.instruct runner kind command script).2.2) := by
  have position : (script.reflexive runner).state = script.state := rfl
  unfold instruct
  dsimp only
  rw [position, execute_reflexive]
  dsimp only
  split <;> rfl

/-- To kill the runner by its number is to kill itself, and that ends the turn. -/
theorem instruct_kill_numbered (index : UInt64) (kind : ScriptKind)
    (script : Script) (play : Play) :
    play.instruct index.toNat kind (.kill (.numbered index)) script =
      play.instruct index.toNat kind (.kill .self) script :=
  rfl

end Play

end Stagecraft
