import Stagecraft.Stage.Theatre

/-!
# Traffic

A stage under the hands of many callers. Each of them holds transitions that it
has asked for, polls them and drops them whenever it likes; between the polls the
stage is ticked, reset and unloaded.
-/

namespace Stagecraft

/-- A transition in the hands of its caller: not begun, away on a load, done, or one
in which the program panicked. The variables are those that its caller lent it. -/
inductive Journey where
  | planned (game : GameBank) (order : Order)
  | underway (flight : Flight)
  | done (result : Except LoadError Outcome)
  | panicked

namespace Journey

@[simp]
def ofCourse : Stage.Course → Journey × Stage
  | .done result stage => (.done result, stage)
  | .away flight stage => (.underway flight, stage)
  | .panicked stage => (.panicked, stage)

def ofAnswer : Option (Except LoadError Outcome) → Journey
  | some result => .done result
  | none => .panicked

/-- Polls a journey. The first poll sets out, every later one lets the load run
on. -/
def poll (held : Bool) (source : Source) (stage : Stage) :
    Journey → Journey × Stage
  | .planned game order =>
      if held then
        (ofAnswer (order.verdict? stage), stage)
      else
        match order.depart game stage with
        | .done result after => (.done result, after)
        | .away flight after => ofCourse (after.fly false source flight)
  | .underway flight => ofCourse (stage.fly held source flight)
  | .done result => (.done result, stage)
  | .panicked => (.panicked, stage)

/-- What dropping a journey does to the stage. -/
def drop (held : Bool) (stage : Stage) : Journey → Stage
  | .planned _ _ => stage
  | .underway flight => stage.release held flight
  | .done _ => stage
  | .panicked => stage

end Journey

/-- A stage and the journeys that its callers hold, by id. -/
structure Traffic where
  stage : Stage
  journeys : Slots Journey

/-- Something that one of the callers does. -/
inductive Move where
  | plan (game : GameBank) (order : Order)
  | poll (held : Bool) (source : Source) (id : Nat)
  | drop (held : Bool) (id : Nat)
  | tick (game : GameBank)
  | reset
  | unload

namespace Traffic

def opening (map : SceneMap) (settings : StageSettings) (host : Host) :
    Traffic :=
  ⟨Stage.bare map settings host, Slots.empty⟩

/-- Whether a journey is away on a load. -/
def IsUnderway (traffic : Traffic) (id : Nat) : Prop :=
  ∃ flight, traffic.journeys.get? id = some (.underway flight)

def poll (held : Bool) (source : Source) (id : Nat) (traffic : Traffic) :
    Traffic :=
  match traffic.journeys.get? id with
  | none => traffic
  | some journey =>
      let (polled, stage) :=
        journey.poll held (source.since traffic.stage.journal.size) traffic.stage
      ⟨stage, traffic.journeys.modify id fun _ => polled⟩

def drop (held : Bool) (id : Nat) (traffic : Traffic) : Traffic :=
  match traffic.journeys.get? id with
  | none => traffic
  | some journey =>
      ⟨journey.drop held traffic.stage, traffic.journeys.erase id⟩

def make (traffic : Traffic) : Move → Traffic
  | .plan game order =>
      { traffic with journeys := traffic.journeys.insert (.planned game order) }
  | .poll held source id => traffic.poll held source id
  | .drop held id => traffic.drop held id
  | .tick game => { traffic with stage := (traffic.stage.tick game).2.2 }
  | .reset => { traffic with stage := traffic.stage.reset.2 }
  | .unload => { traffic with stage := traffic.stage.unload.2 }

def run (traffic : Traffic) (moves : List Move) : Traffic :=
  moves.foldl make traffic

end Traffic

end Stagecraft
