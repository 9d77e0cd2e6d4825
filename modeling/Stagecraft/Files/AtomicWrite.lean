import Stagecraft.Files.Basic

/-!
# Atomic writes

A text goes to a staging file first, which then takes the place of the
destination in one step. Whatever goes wrong, the destination holds its old
content or the complete new text.
-/

namespace Stagecraft

/-- What goes wrong outside the program's control during a write: making the
folders, writing the staging file (which may leave part of its content behind),
the renaming and the removal of a left-over staging file. -/
structure Mishap where
  folders : Bool
  staging : Option (Option ByteArray)
  rename : Bool
  removal : Bool

/-- Nothing goes wrong. -/
def Mishap.nothing : Mishap := ⟨false, none, false, false⟩

namespace Files

def discard (files : Files) (place : Place) : Files :=
  match files.at? place with
  | some (.file _) => files.erase place
  | _ => files

def takesFile (files : Files) (place : Place) : Bool :=
  match files.at? place with
  | some .folder => false
  | _ => true

/-- The states that a write passes through, the last one being the result, and
whether the write succeeds. -/
structure Writing where
  states : List Files
  done : Bool

/-- The state that a write ends in. -/
def Writing.result (writing : Writing) (start : Files) : Files :=
  writing.states.getLast?.getD start

/-- A failed write: the staging file goes, if it can be removed. -/
def giveUp (mishap : Mishap) (staging : Place) (passed : List Files)
    (files : Files) : Writing :=
  if mishap.removal then
    ⟨passed, false⟩
  else
    ⟨passed ++ [files.discard staging], false⟩

def landing? (files : Files) (path : String) : Option Place :=
  match files.locate path with
  | .ok place =>
      if Path.endsInSlash path || !files.takesFile place then none else some place
  | .error _ => none

/-- Writes a text to a path through a staging file. -/
def writeAtomicWith (mishap : Mishap) (files : Files) (path : String)
    (content : ByteArray) : Writing :=
  if mishap.folders then
    ⟨[], false⟩
  else
    let (ready, made) := files.makeFolder (Path.parent path)
    match ready.locate (Path.staging path) with
    | .error _ => ⟨[ready], false⟩
    | .ok staging =>
        if !made then
          ⟨[ready], false⟩
        else if !ready.takesFile staging then
          giveUp mishap staging [ready] ready
        else
          match mishap.staging with
          | some leftover =>
              let partly :=
                match leftover with
                | some part => ready.set staging (.file part)
                | none => ready
              giveUp mishap staging [ready, partly] partly
          | none =>
              let staged := ready.set staging (.file content)
              match staged.landing? path with
              | some destination =>
                  if mishap.rename then
                    giveUp mishap staging [ready, staged] staged
                  else
                    let moved :=
                      (staged.erase staging).set destination (.file content)
                    ⟨[ready, staged, moved], true⟩
              | none => giveUp mishap staging [ready, staged] staged

/-- Writes a text to a path when nothing outside goes wrong: the resulting
files and whether the write succeeded. -/
def writeAtomic (files : Files) (path text : String) : Files × Bool :=
  let writing := writeAtomicWith Mishap.nothing files path text.toUTF8
  (writing.result files, writing.done)

end Files

end Stagecraft
