import Stagecraft.Stage.Order

/-!
# Theatres

A stage together with the session that plays on it, driven act by act by one
caller: transitions that run to their end or are polled and dropped, ticks,
resets, unloading, and changes of the session from outside.
-/

namespace Stagecraft

/-- A stage and the variables of the session that plays on it. -/
structure Theatre where
  stage : Stage
  game : GameBank

/-- Something that the caller does. The pauses of a source count from the start
of the act, and each act has a source of its own.

A transition can also be asked for, polled and dropped while somebody holds on to the
state of the stage. A tick, a reset and unloading would panic then before they change
anything, so these are acts only while the state is free. -/
inductive Act where
  | go (source : Source) (order : Order)
  | begin (source : Source) (order : Order)
  | ask (order : Order)
  | poll (held : Bool) (source : Source)
  | abandon (held : Bool)
  | tick
  | reset
  | unload
  | change (game : GameBank)

inductive Answer where
  | settled (result : Except LoadError Outcome)
  | begun (transition : Transition)
  | polled (transition : Option Transition)
  | abandoned (wasLoading : Bool)
  | ticked (report : Stage.Report)
  | reset (done : Bool)
  | unloaded (done : Bool)
  | changed

namespace Theatre

def opening (map : SceneMap) (settings : StageSettings) (host : Host)
    (game : GameBank) : Theatre :=
  ⟨Stage.bare map settings host, game⟩

/-- The source of an act as the stage sees it. -/
def sourceNow (theatre : Theatre) (source : Source) : Source :=
  source.since theatre.stage.journal.size

def perform (theatre : Theatre) : Act → Answer × Theatre
  | .go source order =>
      let (result, stage) :=
        order.carryOut (theatre.sourceNow source) theatre.game theatre.stage
      (.settled result, { theatre with stage := stage })
  | .begin source order =>
      let (transition, stage) :=
        order.begin (theatre.sourceNow source) theatre.game theatre.stage
      (.begun transition, { theatre with stage := stage })
  | .ask order => (.begun (order.ask theatre.stage), theatre)
  | .poll held source =>
      let (transition, stage) :=
        theatre.stage.poll held (theatre.sourceNow source)
      (.polled transition, { theatre with stage := stage })
  | .abandon held =>
      let (wasLoading, stage) := theatre.stage.abandon held
      (.abandoned wasLoading, { theatre with stage := stage })
  | .tick =>
      let (report, game, stage) := theatre.stage.tick theatre.game
      (.ticked report, ⟨stage, game⟩)
  | .reset =>
      let (done, stage) := theatre.stage.reset
      (.reset done, { theatre with stage := stage })
  | .unload =>
      let (done, stage) := theatre.stage.unload
      (.unloaded done, { theatre with stage := stage })
  | .change game => (.changed, { theatre with game := game })

def run (theatre : Theatre) (acts : List Act) : Theatre :=
  acts.foldl (fun theatre act => (theatre.perform act).2) theatre

def answers (theatre : Theatre) : List Act → List Answer
  | [] => []
  | act :: rest =>
      (theatre.perform act).1 :: (theatre.perform act).2.answers rest

@[simp]
theorem run_nil (theatre : Theatre) : theatre.run [] = theatre := rfl

@[simp]
theorem run_cons (theatre : Theatre) (act : Act) (rest : List Act) :
    theatre.run (act :: rest) = (theatre.perform act).2.run rest := rfl

theorem run_append (theatre : Theatre) (first second : List Act) :
    theatre.run (first ++ second) = (theatre.run first).run second :=
  List.foldl_append

end Theatre

end Stagecraft
