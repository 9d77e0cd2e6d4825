import Mathlib.Logic.Relation
import Stagecraft.Script.Rehearsal

/-!
# Moments

A rehearsal seen from inside: between two deeds, between two turns of a tick, or
in the middle of a turn, with the script at work out of its slot. One moment
follows another when a single instruction is executed, or when a turn, a tick or a
deed begins or ends.
-/

namespace Stagecraft

/-- A script at work: whose it is, and how many more steps it has in this turn. -/
structure Work where
  runner : Nat
  kind : ScriptKind
  script : Script
  steps : Nat

/-- What is still to be done: the turns that remain of the present tick, its
budget, and the deeds after it. -/
structure Agenda where
  turns : List (Nat × ScriptKind)
  budget : Nat
  deeds : List Deed

/-- A moment of a rehearsal. -/
inductive Moment where
  | resting (deeds : List Deed) (play : Play)
  | changing (agenda : Agenda) (play : Play)
  | working (work : Work) (agenda : Agenda) (play : Play)

namespace Moment

@[simp]
def play : Moment → Play
  | .resting _ play => play
  | .changing _ play => play
  | .working _ _ play => play

/-- Which moment follows which. -/
inductive Next : Moment → Moment → Prop where
  | intervenes (intervention : Intervention) (deeds : List Deed)
      (play : Play) :
      Next (.resting (.intervene intervention :: deeds) play)
        (.resting deeds (play.intervene intervention))
  | opens (budget : Nat) (deeds : List Deed) (play : Play) :
      Next (.resting (.tick budget :: deeds) play)
        (.changing ⟨Play.turns play.actors.length, budget, deeds⟩ play)
  | closes (budget : Nat) (deeds : List Deed) (play : Play) :
      Next (.changing ⟨[], budget, deeds⟩ play) (.resting deeds play)
  | passes {turn : Nat × ScriptKind} (turns : List (Nat × ScriptKind))
      (budget : Nat) (deeds : List Deed) {play : Play}
      (idle : play.ready? turn = none) :
      Next (.changing ⟨turn :: turns, budget, deeds⟩ play)
        (.changing ⟨turns, budget, deeds⟩ play)
  | begins {turn : Nat × ScriptKind} (turns : List (Nat × ScriptKind))
      (budget : Nat) (deeds : List Deed) {play : Play} {script : Script}
      (ready : play.ready? turn = some script) :
      Next (.changing ⟨turn :: turns, budget, deeds⟩ play)
        (.working ⟨turn.1, turn.2, script, budget⟩ ⟨turns, budget, deeds⟩
          (play.putScript turn.1 turn.2 Script.vacant))
  | halts {work : Work} (agenda : Agenda) (play : Play)
      (past : work.script.current? = none) :
      Next (.working work agenda play)
        (.changing agenda
          (play.putScript work.runner work.kind work.script.halt))
  | tires {work : Work} (agenda : Agenda) (play : Play) {command : Command}
      (current : work.script.current? = some command)
      (tired : work.steps = 0) :
      Next (.working work agenda play)
        (.changing agenda
          ((play.warn
            (play.exhaustion work.runner work.kind agenda.budget
              work.script)).putScript work.runner work.kind work.script))
  | goesOn {work : Work} (agenda : Agenda) {play after : Play}
      {command : Command} {script : Script} {rest : Nat}
      (current : work.script.current? = some command)
      (steps : work.steps = rest + 1)
      (instructs : play.instruct work.runner work.kind command work.script =
        (true, script, after)) :
      Next (.working work agenda play)
        (.working ⟨work.runner, work.kind, script, rest⟩ agenda after)
  | ends {work : Work} (agenda : Agenda) {play after : Play}
      {command : Command} {script : Script} {rest : Nat}
      (current : work.script.current? = some command)
      (steps : work.steps = rest + 1)
      (instructs : play.instruct work.runner work.kind command work.script =
        (false, script, after)) :
      Next (.working work agenda play)
        (.changing agenda (after.putScript work.runner work.kind script))

/-- Whether a moment leads to another one in any number of steps. -/
def Leads : Moment → Moment → Prop := Relation.ReflTransGen Next

end Moment

end Stagecraft
