import Stagecraft.Script.Program
import Stagecraft.Variables

/-!
# Variable references

Which variables a scene's scripts mention. Before the first tick this sizes the
cube bank and lists the game variables worth saving.
-/

namespace Stagecraft

/-- A mention of a variable. -/
inductive VariableRef where
  | cube (index : UInt16)
  | game (index : UInt16)
deriving DecidableEq, Repr

namespace VariableRef

def cubeIndex? : VariableRef → Option UInt16
  | .cube index => some index
  | .game _ => none

def gameIndex? : VariableRef → Option UInt16
  | .cube _ => none
  | .game index => some index

end VariableRef

def Operand.variable? : Operand → Option VariableRef
  | .cubeVariable index => some (.cube index)
  | .gameVariable index => some (.game index)
  | _ => none

def Command.assigned? : Command → Option VariableRef
  | .setCube index _ => some (.cube index)
  | .setGame index _ => some (.game index)
  | _ => none

def Command.variableRefs (command : Command) : List VariableRef :=
  command.assigned?.toList ++ command.operands.filterMap Operand.variable?

def variablesOf (programs : List Program) : List VariableRef :=
  programs.flatMap fun program =>
    program.commands.flatMap Command.variableRefs

/-- The size of a cube bank that holds every mentioned cube variable. -/
def cubeSize (programs : List Program) : Nat :=
  ((variablesOf programs).filterMap VariableRef.cubeIndex?).foldl
    (fun size index => max size (index.toNat + 1)) 0

def gameReferences (programs : List Program) : List UInt16 :=
  ((variablesOf programs).filterMap VariableRef.gameIndex?).foldl
    (fun indices index => insertIndex index indices) []

end Stagecraft
