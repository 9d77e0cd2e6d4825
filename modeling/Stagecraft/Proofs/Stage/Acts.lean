import Stagecraft.Proofs.Stage.Courses
import Stagecraft.Stage.Theatre

/-!
# Acts

Everything that an act can do to a stage, case by case, with what its caller is told
and the family that arrives. What an act keeps is proved once for each case and never
by opening the act again.
-/

namespace Stagecraft

@[simp]
theorem Stage.Course.transition_stage (course : Stage.Course) :
    course.transition.2 = course.stage := by
  cases course <;> rfl

/-- Whether an answer is what a caller is told of a course. -/
inductive Answer.Tells : Stage.Course → Answer → Prop where
  | settled (result : Except LoadError Outcome) (stage : Stage) :
      Tells (.done result stage) (.settled result)
  | begun (course : Stage.Course) :
      Tells course (.begun course.transition.1)
  | polled (course : Stage.Course) :
      Tells course (.polled (some course.transition.1))

namespace Theatre

/-- The family that an act finishes loading. -/
def arrival? (theatre : Theatre) : Act → Option LoadedFamily
  | .go source order =>
      match order.depart theatre.game theatre.stage with
      | .done _ _ => none
      | .away flight after =>
          (flight.task.settle (theatre.sourceNow source)
            after.journal).1.toOption
  | .begin source order =>
      match order.depart theatre.game theatre.stage with
      | .done _ _ => none
      | .away flight after =>
          after.finds? false (theatre.sourceNow source) flight
  | .poll held source =>
      match theatre.stage.flight with
      | none => none
      | some flight =>
          theatre.stage.finds? held (theatre.sourceNow source) flight
  | _ => none

/-- The family that was loaded last in a series of acts, if not an earlier one. -/
def billed (bill : Option LoadedFamily) (theatre : Theatre) :
    List Act → Option LoadedFamily
  | [] => bill
  | act :: rest =>
      (theatre.perform act).2.billed ((theatre.arrival? act).or bill) rest

/-- How an act goes: what its caller is told, the family that it finishes loading and
the stage that it leaves. -/
inductive Performs (theatre : Theatre) :
    Act → Answer → Option LoadedFamily → Stage → Prop where
  | atOnce {act : Act} {answer : Answer} {order : Order}
      {result : Except LoadError Outcome} {after : Stage}
      (left : order.depart theatre.game theatre.stage = .done result after)
      (tells : Answer.Tells (.done result after) answer) :
      Performs theatre act answer none after
  | leaves {act : Act} {answer : Answer} {order : Order} {flight : Flight}
      {after : Stage} {arrival : Option LoadedFamily} {course : Stage.Course}
      (left : order.depart theatre.game theatre.stage = .away flight after)
      (fares : after.Fares false flight arrival course)
      (tells : Answer.Tells course answer) :
      Performs theatre act answer arrival course.stage
  | asks {order : Order} :
      Performs theatre (.ask order) (.begun (order.ask theatre.stage)) none
        theatre.stage
  | goesOn {held : Bool} {source : Source} {flight : Flight}
      {arrival : Option LoadedFamily} {course : Stage.Course}
      (under : theatre.stage.flight = some flight)
      (fares : theatre.stage.Fares held flight arrival course) :
      Performs theatre (.poll held source)
        (.polled (some course.transition.1)) arrival course.stage
  | unpolled {held : Bool} {source : Source} :
      Performs theatre (.poll held source) (.polled none) none theatre.stage
  | releases {held : Bool} {flight : Flight}
      (under : theatre.stage.flight = some flight) :
      Performs theatre (.abandon held) (.abandoned true) none
        (theatre.stage.release held flight)
  | unreleased {held : Bool} :
      Performs theatre (.abandon held) (.abandoned false) none theatre.stage
  | ticks :
      Performs theatre .tick
        (.ticked (theatre.stage.tick theatre.game).1) none
        (theatre.stage.tick theatre.game).2.2
  | resets :
      Performs theatre .reset (.reset theatre.stage.reset.1) none
        theatre.stage.reset.2
  | unloads :
      Performs theatre .unload (.unloaded theatre.stage.unload.1) none
        theatre.stage.unload.2
  | changes {game : GameBank} :
      Performs theatre (.change game) .changed none theatre.stage

theorem performs (theatre : Theatre) (act : Act) :
    theatre.Performs act (theatre.perform act).1 (theatre.arrival? act)
      (theatre.perform act).2.stage := by
  cases act with
  | go source order =>
      simp only [perform, arrival?, Order.carryOut_eq]
      cases left : order.depart theatre.game theatre.stage with
      | done result after => exact .atOnce left (.settled result after)
      | away flight after =>
          exact .leaves left
            (after.fares_settle (theatre.sourceNow source) flight)
            (.settled _ _)
  | begin source order =>
      simp only [perform, arrival?, Order.begin_eq]
      cases left : order.depart theatre.game theatre.stage with
      | done result after => exact .atOnce left (.begun (.done result after))
      | away flight after =>
          simp only [Stage.Course.transition_stage]
          exact .leaves left
            (after.fares_fly false (theatre.sourceNow source) flight) (.begun _)
  | ask order => exact .asks
  | poll held source =>
      simp only [perform, arrival?, Stage.poll]
      cases under : theatre.stage.flight with
      | none => exact .unpolled
      | some flight =>
          simp only [Stage.Course.transition_stage]
          exact .goesOn under
            (theatre.stage.fares_fly held (theatre.sourceNow source) flight)
  | abandon held =>
      simp only [perform, arrival?, Stage.abandon]
      cases under : theatre.stage.flight with
      | none => exact .unreleased
      | some flight => exact .releases under
  | tick => exact .ticks
  | reset => exact .resets
  | unload => exact .unloads
  | change game => exact .changes

end Theatre

end Stagecraft
