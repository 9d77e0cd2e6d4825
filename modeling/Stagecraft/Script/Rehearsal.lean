import Stagecraft.Script.Machine

/-!
# Rehearsals

A scene whose actors are ticked, and changed from outside between the ticks: put
to sleep, woken, put back to how they were loaded, or posed, with other variables,
zones and points around them.
-/

namespace Stagecraft

/-- A change of a scene from outside its scripts. -/
inductive Intervention where
  | kill (target : Nat)
  | revive (target : Nat)
  | reset (target : Nat)
  | pose (target : Nat) (position : Vec3) (behaviour : UInt8)
      (animation : UInt16)
  | arrange (cube : CubeBank) (game : GameBank) (zones : List Zone)
      (points : List Point)

inductive Deed where
  | tick (budget : Nat)
  | intervene (intervention : Intervention)

namespace Play

def changeActor (target : Nat)
    (change : Actor → NodeTree → Actor × NodeTree) (play : Play) : Play :=
  match play.actors[target]? with
  | none => play
  | some actor =>
      let (changed, nodes) := change actor play.nodes
      { play with actors := play.actors.set target changed, nodes := nodes }

def intervene (play : Play) : Intervention → Play
  | .kill target => play.changeActor target Actor.kill
  | .revive target => play.changeActor target Actor.revive
  | .reset target => play.changeActor target Actor.reset
  | .pose target position behaviour animation =>
      play.modifyActor target fun actor =>
        { actor with
          position := position
          behaviour := behaviour
          animation := animation }
  | .arrange cube game zones points =>
      { play with cube := cube, game := game, zones := zones, points := points }

def perform (play : Play) : Deed → Play
  | .tick budget => play.tick budget
  | .intervene intervention => play.intervene intervention

def rehearse (play : Play) (deeds : List Deed) : Play :=
  deeds.foldl perform play

@[simp]
theorem rehearse_nil (play : Play) : play.rehearse [] = play := rfl

@[simp]
theorem rehearse_cons (play : Play) (deed : Deed) (rest : List Deed) :
    play.rehearse (deed :: rest) = (play.perform deed).rehearse rest := rfl

end Play

end Stagecraft
