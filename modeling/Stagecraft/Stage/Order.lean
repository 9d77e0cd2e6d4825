import Stagecraft.Stage.Basic

/-!
# Orders

A transition as its caller asks for it. An order sets out at once; if it has to
load, it goes on from poll to poll, or it is carried out to the end in one go.
-/

namespace Stagecraft

/-- A transition that somebody asks for: to a scene of the map, forced or not, or
to a neighbour of the active scene. -/
inductive Order where
  | goto (target : SceneIndex) (force : Bool)
  | next
  | previous
deriving DecidableEq, Repr

namespace Order

def target? (order : Order) (stage : Stage) : Option (SceneIndex × Bool) :=
  match order with
  | .goto target force => some (target, force)
  | .next =>
      (stage.neighbour? SceneMap.next).map fun target => (target, false)
  | .previous =>
      (stage.neighbour? SceneMap.previous).map fun target => (target, false)

def verdict? (order : Order) (stage : Stage) :
    Option (Except LoadError Outcome) :=
  match order.target? stage with
  | none => some (.ok .ignored)
  | some (target, force) => stage.verdict? target force

/-- Asks for an order while somebody holds on to the state of the stage. The program
panics where it would change the state, before anything has changed. -/
def ask (order : Order) (stage : Stage) : Transition :=
  match order.verdict? stage with
  | some result => .over result
  | none => .panicked

def depart (order : Order) (game : GameBank) (stage : Stage) :
    Stage.Departure :=
  match order.target? stage with
  | none => .done (.ok .ignored) stage
  | some (target, force) => stage.depart game target force

def begin (order : Order) (source : Source) (game : GameBank) (stage : Stage) :
    Transition × Stage :=
  match order with
  | .goto target force => stage.begin source game target force
  | .next => stage.beginWalk SceneMap.next source game
  | .previous => stage.beginWalk SceneMap.previous source game

def carryOut (order : Order) (source : Source) (game : GameBank)
    (stage : Stage) : Except LoadError Outcome × Stage :=
  match order with
  | .goto target force => stage.goto source game target force
  | .next => stage.next source game
  | .previous => stage.previous source game

/-! ## Orders by their departure -/

/-- To begin an order is to set out and to poll the load, if it needs one. -/
theorem begin_eq (order : Order) (source : Source) (game : GameBank)
    (stage : Stage) :
    order.begin source game stage =
      match order.depart game stage with
      | .done result after => (.over result, after)
      | .away flight after => (after.fly false source flight).transition := by
  cases order with
  | goto target force =>
      rfl
  | next =>
      simp only [begin, depart, target?, Stage.beginWalk]
      cases stage.neighbour? SceneMap.next with
      | none => rfl
      | some target => rfl
  | previous =>
      simp only [begin, depart, target?, Stage.beginWalk]
      cases stage.neighbour? SceneMap.previous with
      | none => rfl
      | some target => rfl

/-- To carry out an order is to set out and to settle the load, if it needs
one. -/
theorem carryOut_eq (order : Order) (source : Source) (game : GameBank)
    (stage : Stage) :
    order.carryOut source game stage =
      match order.depart game stage with
      | .done result after => (result, after)
      | .away flight after =>
          let (result, journal) := flight.task.settle source after.journal
          { after with journal := journal }.conclude flight result := by
  cases order with
  | goto target force =>
      rfl
  | next =>
      simp only [carryOut, depart, target?, Stage.next, Stage.walk]
      cases stage.neighbour? SceneMap.next with
      | none => rfl
      | some target => rfl
  | previous =>
      simp only [carryOut, depart, target?, Stage.previous, Stage.walk]
      cases stage.neighbour? SceneMap.previous with
      | none => rfl
      | some target => rfl

end Order

end Stagecraft
