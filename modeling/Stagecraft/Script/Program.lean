import Stagecraft.Script.Command

/-!
# Programs

A program is a list of commands whose jumps stay inside it; a script is a
program together with how far it has come.
-/

namespace Stagecraft

/-! ## Programs -/

/-- A jump past the end of its list of commands. -/
structure JumpOutOfRange where
  command : String
  position : Nat
  target : Nat
  size : Nat
deriving DecidableEq, Repr

def JumpOutOfRange.message (jump : JumpOutOfRange) : String :=
  jump.command ++ " at " ++ toString jump.position ++ " jumps to " ++
    toString jump.target ++ ", past the end of a " ++ toString jump.size ++
    "-command script"

/-- The jump of the command at a position, if it leads past the end of a list
of the given size. -/
def Command.overshoot? (size : Nat) (command : Command) (position : Nat) :
    Option JumpOutOfRange :=
  match command.jumpTarget? with
  | none => none
  | some target =>
      if size < target.toNat then
        some ⟨command.name, position, target.toNat, size⟩
      else
        none

/-- The first jump past the end of a list of the given size, the commands being
counted from a position on. -/
def firstOvershoot (size : Nat) :
    Nat → List Command → Option JumpOutOfRange
  | _, [] => none
  | position, command :: rest =>
      match command.overshoot? size position with
      | some jump => some jump
      | none => firstOvershoot size (position + 1) rest

theorem target_le_of_firstOvershoot
    {size : Nat} {commands : List Command} {position : Nat}
    (clean : firstOvershoot size position commands = none)
    {command : Command} (member : command ∈ commands)
    {target : UInt64} (jumps : command.jumpTarget? = some target) :
    target.toNat ≤ size := by
  induction commands generalizing position with
  | nil =>
      simp at member
  | cons head tail inductionHypothesis =>
      unfold firstOvershoot at clean
      split at clean
      · simp at clean
      · next headClean =>
          rcases List.mem_cons.mp member with rfl | inTail
          · unfold Command.overshoot? at headClean
            simp only [jumps] at headClean
            split at headClean
            · simp at headClean
            · omega
          · exact inductionHypothesis clean inTail

/-- Commands whose jumps lead at most to the end. -/
structure Program where
  commands : List Command
  targets_le : ∀ command ∈ commands, ∀ target,
    command.jumpTarget? = some target → target.toNat ≤ commands.length

namespace Program

def empty : Program := ⟨[], by simp⟩

instance : Inhabited Program := ⟨empty⟩

def size (program : Program) : Nat := program.commands.length

/-- Accepts commands, or names the first jump past their end. -/
def compile (commands : List Command) : Except JumpOutOfRange Program :=
  match _clean : firstOvershoot commands.length 0 commands with
  | some jump => .error jump
  | none =>
      .ok ⟨commands, fun _ member _ jumps =>
        target_le_of_firstOvershoot (by assumption) member jumps⟩

end Program

/-! ## Scripts -/

inductive ScriptStatus where
  | running
  | halted
deriving DecidableEq, Repr

/-- How far a script has come: the next command, and for each command whether
its one-time test has passed and what its switching test last saw. -/
structure ScriptState where
  position : Nat
  status : ScriptStatus
  spent : List Bool
  last : List Bool
deriving DecidableEq, Repr

def ScriptState.start (size : Nat) : ScriptState :=
  ⟨0, .running, List.replicate size false, List.replicate size false⟩

/-- A program and its state. -/
structure Script where
  program : Program
  state : ScriptState

namespace Script

def ofProgram (program : Program) : Script :=
  ⟨program, ScriptState.start program.size⟩

/-- What stands in the slot of a script that is at work. -/
def vacant : Script := ofProgram Program.empty

def reset (script : Script) : Script :=
  { script with state := ScriptState.start script.program.size }

/-- The command to execute next; none past the end. -/
def current? (script : Script) : Option Command :=
  script.program.commands[script.state.position]?

def isSpent (script : Script) (position : Nat) : Bool :=
  script.state.spent.getD position false

def lastSeen (script : Script) (position : Nat) : Bool :=
  script.state.last.getD position false

def spend (script : Script) (position : Nat) : Script :=
  { script with
    state := { script.state with spent := script.state.spent.set position true } }

def see (script : Script) (position : Nat) (value : Bool) : Script :=
  { script with
    state := { script.state with last := script.state.last.set position value } }

def goTo (script : Script) (position : Nat) : Script :=
  { script with state := { script.state with position := position } }

def halt (script : Script) : Script :=
  { script with state := { script.state with status := .halted } }

end Script

end Stagecraft
