import Stagecraft.Content.Reader
import Stagecraft.Json.Printer
import Stagecraft.Script.Command
import Stagecraft.Variables

/-!
# Saves

What is kept of a session between two runs: the scene where it left off and the
game variables that matter. A save holds the format version, so that a later
format is not mistaken for this one.
-/

namespace Stagecraft

/-- The content of a save file; variables ascend by index. -/
structure Save where
  version : UInt32
  scene : Option SceneIndex
  values : List (UInt16 × Int32)
deriving DecidableEq, Repr

namespace Save

def currentVersion : UInt32 := 1

/-! ## Sessions -/

/-- The save of a session: the game variables that were ever accessed and those
that the active scene mentions. -/
def ofSession (game : GameBank) (scene : Option SceneIndex)
    (references : List UInt16) : Save :=
  let indices :=
    references.foldl (fun indices index => insertIndex index indices)
      game.touched
  ⟨currentVersion, scene,
    indices.map fun index => (index, (game.get? index).getD 0)⟩

/-- Writes the saved variables into a bank. -/
def restore (save : Save) (game : GameBank) : GameBank :=
  save.values.foldl (fun bank entry => bank.write entry.1 entry.2) game

/-- The saved variables that make a bank grow when they are written into it, with
the sizes that they find. -/
def growths (save : Save) (game : GameBank) : List (UInt16 × Nat) :=
  Stagecraft.growths game.size (save.values.map fun entry => entry.1)

/-! ## Writing -/

def variableForm (entry : UInt16 × Int32) : String × Json :=
  (toString entry.1.toNat, .int entry.2.toInt)

def form (save : Save) : Json :=
  .object
    [("save_version", .nat save.version.toNat),
      ("scene", Json.option (fun index => .nat index.toNat) save.scene),
      ("game_vars", .object (save.values.map variableForm))]

def text (save : Save) : String := save.form.indented

/-! ## Reading -/

/-- Puts a variable into a list by ascending index, over an earlier one of the
same index. -/
def putVariable (index : UInt16) (value : Int32) :
    List (UInt16 × Int32) → List (UInt16 × Int32)
  | [] => [(index, value)]
  | (other, old) :: rest =>
      if index < other then
        (index, value) :: (other, old) :: rest
      else if index == other then
        (index, value) :: rest
      else
        (other, old) :: putVariable index value rest

/-- The index that a key spells as a JSON number, without any escapes. -/
def readIndex (key : Quoted) : Except Refusal UInt16 :=
  match Numeral.scan key.body with
  | .error .malformed => .error (.unreadable .malformed)
  | .error .truncated =>
      if key.body.isEmpty then
        .error (.unreadable .malformed)
      else
        .error (.unreadable (key.fault.getD .malformed))
  | .ok (numeral, rest) =>
      match numeral.value with
      | none => .error (.unreadable .malformed)
      | some (.real _) => .error (.unfit [.unnamed])
      | some (.integer value) =>
          if 0 ≤ value ∧ value ≤ 65535 then
            if rest.isEmpty && key.fault.isNone then
              .ok (UInt16.ofNat value.toNat)
            else
              .error (.unreadable .malformed)
          else
            .error (.unfit [.field (toString value)])

def readVariables (ending : Option Fault) :
    List (UInt16 × Int32) → List (Quoted × Fragment) →
      Except Refusal (List (UInt16 × Int32))
  | values, [] => do
      Reader.readable (Fragment.check ending)
      return values
  | values, (key, member) :: rest => do
      let index ← readIndex key
      let value ←
        Reader.part (.field (toString index.toNat)) Reader.signed32 member
      readVariables ending (putVariable index value values) rest

def variablesReader : Reader (List (UInt16 × Int32))
  | .object members fault => readVariables fault [] members
  | other => .error (Reader.mismatch other)

/-- Reads a save of any version. -/
def reader : Reader Save :=
  Record.reader <|
    Record.map
      (fun (version, scene, values) => ⟨version, scene, values⟩) <|
      Record.both (.required "save_version" Reader.word32) <|
        Record.both
          (.optional "scene" none (Reader.nullable Reader.word32))
          (.required "game_vars" variablesReader)

inductive ReadError where
  | refused (refusal : Refusal)
  | unsupported (version : UInt32)
deriving DecidableEq, Repr

def versionMessage (version : UInt32) : String :=
  "unsupported session save_version: expected " ++
    toString currentVersion.toNat ++ ", got " ++ toString version.toNat

/-- The save that a text describes; what follows it is not read. -/
def ofText? (text : String) : Except ReadError Save := do
  let save ← (reader (Fragment.ofText text)).mapError .refused
  if save.version = currentVersion then
    return save
  else
    .error (.unsupported save.version)

end Save

end Stagecraft
