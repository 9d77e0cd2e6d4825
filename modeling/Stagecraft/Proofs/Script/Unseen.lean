import Stagecraft.Proofs.Script.Simulations
import Stagecraft.Proofs.Script.Views

/-!
# Scripts without nodes

A scene in which nothing has a node is the scene as its scripts see it. To forget
all nodes and then to do something is to do it and then to forget all nodes, for
every command, every turn and every tick.
-/

namespace Stagecraft

/-! ## Parts of a scene -/

def Actor.unseen (actor : Actor) : Actor := { actor with node := none }

def Zone.unseen (zone : Zone) : Zone := { zone with node := none }

def Point.unseen (point : Point) : Point := { point with node := none }

namespace Actor

variable (actor : Actor) (tree : NodeTree)

theorem modifyScript_unseen (kind : ScriptKind) (change : Script → Script) :
    (actor.modifyScript kind change).unseen =
      actor.unseen.modifyScript kind change := by
  cases kind <;> rfl

theorem kill_unseen (other : NodeTree) :
    actor.unseen.kill other = ((actor.kill tree).1.unseen, other) := by
  have same : actor.unseen.alive = actor.alive := rfl
  unfold kill
  rw [same]
  split <;> rfl

theorem revive_unseen (other : NodeTree) :
    actor.unseen.revive other = ((actor.revive tree).1.unseen, other) := by
  have same : actor.unseen.alive = actor.alive := rfl
  unfold revive
  rw [same]
  split <;> rfl

end Actor

def View.nodeless : View where
  actor := Actor.unseen
  zone := Zone.unseen
  point := Point.unseen
  nodes := fun _ => NodeTree.empty
  journal := id
  alive := fun _ => rfl
  behaviour := fun _ => rfl
  animation := fun _ => rfl
  behaves := fun _ _ => rfl
  animates := fun _ _ => rfl
  kill := fun actor tree => actor.kill_unseen tree NodeTree.empty
  revive := fun actor tree => actor.revive_unseen tree NodeTree.empty
  moveTo := fun _ _ _ => rfl
  noticed := fun _ => rfl
  taken := fun _ => rfl
  place := fun _ => rfl
  push := fun _ _ _ => rfl

namespace Play

/-- A scene without any nodes. -/
def unseen (play : Play) : Play :=
  { play with
    actors := play.actors.map Actor.unseen
    zones := play.zones.map Zone.unseen
    points := play.points.map Point.unseen
    nodes := NodeTree.empty }

section Parts

variable (play : Play)

theorem modifyScript_unseen (position : Nat) (kind : ScriptKind)
    (change : Script → Script) :
    (play.modifyScript position kind change).unseen =
      play.unseen.modifyScript position kind change :=
  (View.nodeless.modifyActor_of play
    (fun actor => actor.modifyScript_unseen kind change) position).symm

theorem script?_unseen (position : Nat) (kind : ScriptKind) :
    play.unseen.script? position kind = play.script? position kind := by
  simp only [unseen, script?, List.getElem?_map, Option.map_map]
  congr 1

theorem isAlive_unseen : play.unseen.isAlive = play.isAlive :=
  View.nodeless.isAlive_of play

end Parts

theorem instruct_unseen (runner : Nat) (kind : ScriptKind)
    (command : Command) (script : Script) (play : Play) :
    play.unseen.instruct runner kind command script =
      ((play.instruct runner kind command script).1,
        (play.instruct runner kind command script).2.1,
        (play.instruct runner kind command script).2.2.unseen) :=
  View.nodeless.instruct_of play runner kind command script

/-! ## Turns and ticks -/

theorem ready?_unseen (play : Play) (turn : Nat × ScriptKind) :
    play.unseen.ready? turn = play.ready? turn := by
  simp only [ready?, script?_unseen, isAlive_unseen]

/-- A scene plays in step with itself without its nodes. -/
theorem isSimulation_unseen :
    IsSimulation (fun play other => other = play.unseen) (fun _ => Eq) where
  count := by
    rintro play _ rfl
    exact List.length_map _
  ready := by
    rintro play _ rfl turn
    rw [ready?_unseen]
    cases play.ready? turn with
    | none => exact .none
    | some script => exact .some rfl
  vacant _ := rfl
  put := by
    rintro play _ runner script _ rfl rfl kind
    exact (play.modifyScript_unseen runner kind fun _ => script).symm
  tires := by
    rintro play _ runner script _ rfl rfl kind budget
    rfl
  halts := by
    rintro _ script _ rfl past
    exact ⟨past, rfl⟩
  instructs := by
    rintro play _ runner script _ command rfl rfl current kind
    refine ⟨command, current, ?_⟩
    rw [instruct_unseen]
    exact ⟨rfl, rfl, rfl⟩

/-- A tick of a scene does not depend on its nodes. -/
theorem tick_unseen (budget : Nat) (play : Play) :
    play.unseen.tick budget = (play.tick budget).unseen :=
  isSimulation_unseen.tick rfl budget

end Play

end Stagecraft
