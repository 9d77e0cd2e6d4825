import Stagecraft.Script.Program
import Stagecraft.NodeTree

/-!
# Actors

An actor of a scene with its two scripts. Operations that show at the actor's
node are described together with what they do to the node tree.
-/

namespace Stagecraft

inductive ScriptKind where
  | life
  | move
deriving DecidableEq, Repr

/-- Where and how an actor starts. -/
structure Spawn where
  position : Vec3
  behaviour : UInt8
  animation : UInt16
deriving DecidableEq

/-- An actor of a scene. -/
structure Actor where
  name : String
  node : Option NodeId
  spawn : Spawn
  position : Vec3
  behaviour : UInt8
  animation : UInt16
  alive : Bool
  life : Script
  move : Script

/-- The position of the protagonist among the actors of a scene. -/
def protagonist : Nat := 0

namespace Actor

def ofPrograms (data : ActorData) (node : Option NodeId)
    (life move : Program) : Actor where
  name := data.name
  node := node
  spawn := ⟨data.position, data.behaviour, data.animation⟩
  position := data.position
  behaviour := data.behaviour
  animation := data.animation
  alive := true
  life := Script.ofProgram life
  move := Script.ofProgram move

/-- An actor at its spawn, or the first bad jump of its life script, else of its
move script. -/
def ofData (data : ActorData) (node : Option NodeId) :
    Except JumpOutOfRange Actor := do
  let life ← Program.compile data.life
  let move ← Program.compile data.move
  return ofPrograms data node life move

def script (actor : Actor) : ScriptKind → Script
  | .life => actor.life
  | .move => actor.move

def modifyScript (actor : Actor) (kind : ScriptKind)
    (change : Script → Script) : Actor :=
  match kind with
  | .life => { actor with life := change actor.life }
  | .move => { actor with move := change actor.move }

def killed (actor : Actor) : Actor := { actor with alive := false }

def revived (actor : Actor) : Actor :=
  { actor with
    alive := true
    life := actor.life.reset
    move := actor.move.reset }

def movedTo (actor : Actor) (position : Vec3) : Actor :=
  { actor with position := position }

def atSpawn (actor : Actor) : Actor :=
  { actor with
    position := actor.spawn.position
    behaviour := actor.spawn.behaviour
    animation := actor.spawn.animation
    alive := true
    life := actor.life.reset
    move := actor.move.reset }

def display (actor : Actor) (visible : Bool) (tree : NodeTree) : NodeTree :=
  match actor.node with
  | some node => tree.setVisible node visible
  | none => tree

def place (actor : Actor) (position : Vec3) (tree : NodeTree) : NodeTree :=
  match actor.node with
  | some node => tree.setPosition node position
  | none => tree

/-- Puts an actor to sleep and hides it; a sleeping actor stays as it is. -/
def kill (actor : Actor) (tree : NodeTree) : Actor × NodeTree :=
  if actor.alive then (actor.killed, actor.display false tree) else (actor, tree)

/-- Wakes an actor, restarts its scripts and shows it; an actor that is awake
stays as it is. -/
def revive (actor : Actor) (tree : NodeTree) : Actor × NodeTree :=
  if actor.alive then (actor, tree) else (actor.revived, actor.display true tree)

def moveTo (actor : Actor) (position : Vec3) (tree : NodeTree) :
    Actor × NodeTree :=
  (actor.movedTo position, actor.place position tree)

def reset (actor : Actor) (tree : NodeTree) : Actor × NodeTree :=
  (actor.atSpawn,
    actor.display true (actor.place actor.spawn.position tree))

end Actor

def resetActors : List Actor → NodeTree → List Actor × NodeTree
  | [], tree => ([], tree)
  | actor :: rest, tree =>
      let (first, afterFirst) := actor.reset tree
      let (others, afterAll) := resetActors rest afterFirst
      (first :: others, afterAll)

end Stagecraft
