import Stagecraft.Proofs.Script.Blocks

/-!
# Ticks are accounted for

A tick comes to an end, and its trace is made of blocks: one for each script of each
actor in order, as long as the loop counts, and empty for a script that gets no turn.
-/

namespace Stagecraft

namespace Moment

def remaining : Moment → Nat × Nat × Nat
  | .resting deeds _ => (deeds.length, 0, 0)
  | .changing agenda _ =>
      (agenda.deeds.length, 2 * agenda.turns.length + 1, 0)
  | .working work agenda _ =>
      (agenda.deeds.length, 2 * agenda.turns.length + 2, work.steps)

/-- No rehearsal goes on for ever, whatever its scripts do. -/
theorem wellFounded_next :
    WellFounded fun after before : Moment => before.Next after := by
  have lexical :
      WellFounded (Prod.Lex (α := Nat) (β := Nat × Nat) (· < ·)
        (Prod.Lex (· < ·) (· < ·))) :=
    WellFounded.prod_lex Nat.lt_wfRel.wf
      (WellFounded.prod_lex Nat.lt_wfRel.wf Nat.lt_wfRel.wf)
  refine Subrelation.wf ?_ (InvImage.wf remaining lexical)
  intro after before next
  cases next with
  | intervenes intervention deeds play =>
      exact .left _ _ (Nat.lt_succ_self _)
  | opens budget deeds play => exact .left _ _ (Nat.lt_succ_self _)
  | closes budget deeds play => exact .right _ (.left _ _ (by simp))
  | passes turns budget deeds idle =>
      exact .right _ (.left _ _ (by simp))
  | begins turns budget deeds ready =>
      exact .right _ (.left _ _ (by simp; omega))
  | halts agenda play past => exact .right _ (.left _ _ (by simp))
  | tires agenda play current tired => exact .right _ (.left _ _ (by simp))
  | @goesOn work agenda play later command script rest current steps
      instructs =>
      refine .right _ (.right _ ?_)
      show rest < work.steps
      omega
  | ends agenda current steps instructs =>
      exact .right _ (.left _ _ (by simp))

end Moment

namespace Play

/-! ## Counting -/

/-- The number of steps that the loop of a turn counts, if there is a turn. -/
def stepsOfTurn (budget : Nat) (turn : Nat × ScriptKind) (play : Play) : Nat :=
  match play.ready? turn with
  | some script =>
      (play.putScript turn.1 turn.2 Script.vacant).stepsOf turn.1 turn.2 budget
        script
  | none => 0

def stepsOfTurns (budget : Nat) : List (Nat × ScriptKind) → Play → Nat
  | [], _ => 0
  | turn :: rest, play =>
      play.stepsOfTurn budget turn +
        stepsOfTurns budget rest (play.takeTurn budget turn)

def stepsOfTick (budget : Nat) (play : Play) : Nat :=
  stepsOfTurns budget (turns play.actors.length) play

/-- The instructions of a block that a script of an actor executes. -/
def stepsAt (turn : Nat × ScriptKind) (block : List Nat) : List TraceStep :=
  block.map fun position => ⟨turn.1, turn.2, position⟩

/-! ## One turn -/

/-- What a turn of a tick amounts to. A script that is halted, or whose actor is
asleep, does nothing. Any other one executes a block and is reported if it has used
up its budget for it, and then it is still running. -/
structure Accounts (budget : Nat) (turn : Nat × ScriptKind) (before : Play)
    (block : List Nat) (after : Play) : Prop where
  trace : after.journal.trace = before.journal.trace ++ stepsAt turn block
  counted : before.stepsOfTurn budget turn = block.length
  idle : before.ready? turn = none → block = [] ∧ after = before
  runs : ∀ script, before.ready? turn = some script →
    ∃ left, after.script? turn.1 turn.2 = some left ∧
      script.Runs turn.1 budget block left ∧
      after.journal.exhaustions = before.journal.exhaustions ++
        (if left.isExhausted turn.1 budget block then
          [before.exhaustion turn.1 turn.2 budget left]
        else
          []) ∧
      (left.isExhausted turn.1 budget block = true →
        left.state.status = .running)

variable {budget : Nat} {turn : Nat × ScriptKind} {play : Play}

theorem status_of_ready? {script : Script}
    (ready : play.ready? turn = some script) :
    script.state.status = .running := by
  unfold ready? at ready
  rw [Option.filter_eq_some_iff, Bool.and_eq_true, beq_iff_eq] at ready
  exact ready.2.2

/-- What a turn does, said for the script in its slot. -/
theorem executes_takeTurn {script : Script} (budget : Nat)
    (ready : play.ready? turn = some script) :
    ∃ block left after,
      Executes turn.1 turn.2 budget budget script
        (play.putScript turn.1 turn.2 Script.vacant) block left after ∧
      play.takeTurn budget turn = after.putScript turn.1 turn.2 left := by
  obtain ⟨block, executes⟩ := executes_runScript turn.1 turn.2 budget budget script
    (play.putScript turn.1 turn.2 Script.vacant)
  refine ⟨block, _, _, executes, ?_⟩
  unfold takeTurn
  rw [ready]
  rfl

theorem takeTurn_of_idle (idle : play.ready? turn = none) :
    play.takeTurn budget turn = play := by
  unfold takeTurn
  rw [idle]

theorem length_putScript (play : Play) (actor : Nat) (kind : ScriptKind)
    (script : Script) :
    (play.putScript actor kind script).actors.length = play.actors.length :=
  List.length_modify ..

theorem script?_putScript_self {script : Script} {actor : Nat}
    {kind : ScriptKind} (inside : actor < play.actors.length) :
    (play.putScript actor kind script).script? actor kind = some script := by
  rw [script?_putScript, if_pos ⟨rfl, rfl⟩, script?,
    List.getElem?_eq_getElem inside]
  rfl

theorem accounts_takeTurn (budget : Nat) (turn : Nat × ScriptKind)
    (play : Play) :
    ∃ block, Accounts budget turn play block (play.takeTurn budget turn) := by
  cases ready : play.ready? turn with
  | none =>
      refine ⟨[], ?_⟩
      rw [takeTurn_of_idle ready]
      exact
        { trace := (List.append_nil _).symm
          counted := by
            unfold stepsOfTurn
            simp only [ready, List.length_nil]
          idle := fun _ => ⟨rfl, rfl⟩
          runs := fun script known => by
            rw [ready] at known
            cases known }
  | some script =>
      obtain ⟨block, left, after, executes, taken⟩ :=
        executes_takeTurn budget ready
      -- Nobody leaves the scene during a turn, so the slot is still there for what
      -- is left.
      have inSlot := (ready?_eq_some ready).1
      have inside : turn.1 < after.actors.length := by
        obtain ⟨actor, found, _⟩ := Option.map_eq_some_iff.mp inSlot
        rw [executes.count, length_putScript]
        exact (List.getElem?_eq_some_iff.mp found).1
      refine ⟨block, ?_⟩
      rw [taken]
      exact
        { trace := executes.trace
          counted := by
            unfold stepsOfTurn
            rw [ready]
            exact executes.counted
          idle := fun idle => by
            rw [ready] at idle
            cases idle
          runs := by
            intro other known
            obtain rfl : script = other :=
              Option.some.inj (ready.symm.trans known)
            refine ⟨left, script?_putScript_self inside, executes.runs,
              executes.reported, fun exhausted => ?_⟩
            rw [(executes.runs.parks exhausted).1]
            exact status_of_ready? ready }

/-- A turn touches only its own script, and those of actors whom it wakes. -/
theorem spares_takeTurn {actor : Nat} {kind : ScriptKind}
    (other : ¬ (turn.1 = actor ∧ turn.2 = kind)) (budget : Nat) (play : Play) :
    Spares actor kind play (play.takeTurn budget turn) := by
  cases ready : play.ready? turn with
  | none =>
      rw [takeTurn_of_idle ready]
      exact .refl play
  | some script =>
      obtain ⟨block, left, after, executes, taken⟩ :=
        executes_takeTurn budget ready
      rw [taken]
      exact ((Spares.putScript play other Script.vacant).trans
        (executes.spares actor kind)).trans (.putScript after other left)

/-! ## Turns in a row -/

/-- The scene when all turns of the actors before a position are over. -/
def upTo (budget : Nat) (play : Play) : Nat → Play
  | 0 => play
  | actor + 1 =>
      ((play.upTo budget actor).takeTurn budget (actor, .life)).takeTurn budget
        (actor, .move)

/-- The scene when a script's turn has come. -/
def whenTurn (budget : Nat) (play : Play) : Nat × ScriptKind → Play
  | (actor, .life) => play.upTo budget actor
  | (actor, .move) => (play.upTo budget actor).takeTurn budget (actor, .life)

theorem foldl_turns (budget : Nat) (play : Play) (count : Nat) :
    (turns count).foldl (takeTurn budget) play = play.upTo budget count := by
  induction count with
  | zero => rfl
  | succ count inductionHypothesis =>
      have last : turns (count + 1) =
          turns count ++ [(count, .life), (count, .move)] := by
        rw [turns, List.range_succ, List.flatMap_append]
        rfl
      rw [last, List.foldl_append, inductionHypothesis]
      rfl

/-- A tick gives every actor its turns in order. -/
theorem tick_eq_upTo (budget : Nat) (play : Play) :
    play.tick budget = play.upTo budget play.actors.length :=
  foldl_turns budget play _

theorem trace_upTo {budget : Nat} {play : Play}
    {block : Nat × ScriptKind → List Nat}
    (accounts : ∀ turn, Accounts budget turn (play.whenTurn budget turn)
      (block turn) ((play.whenTurn budget turn).takeTurn budget turn))
    (count : Nat) :
    (play.upTo budget count).journal.trace =
      play.journal.trace ++ (List.range count).flatMap fun actor =>
        stepsAt (actor, .life) (block (actor, .life)) ++
          stepsAt (actor, .move) (block (actor, .move)) := by
  induction count with
  | zero => exact (List.append_nil _).symm
  | succ count inductionHypothesis =>
      rw [List.range_succ, List.flatMap_append, ← List.append_assoc,
        ← inductionHypothesis]
      have life := (accounts (count, .life)).trace
      have move := (accounts (count, .move)).trace
      refine move.trans ?_
      refine (congrArg (· ++ _) life).trans ?_
      simp [whenTurn]

theorem length_trace_of_turns (budget : Nat)
    (turns : List (Nat × ScriptKind)) (play : Play) :
    (turns.foldl (takeTurn budget) play).journal.trace.length =
      play.journal.trace.length + play.stepsOfTurns budget turns := by
  induction turns generalizing play with
  | nil => rfl
  | cons turn rest inductionHypothesis =>
      obtain ⟨block, accounts⟩ := play.accounts_takeTurn budget turn
      rw [List.foldl_cons, inductionHypothesis, accounts.trace, stepsOfTurns,
        accounts.counted, stepsAt, List.length_append, List.length_map]
      omega

/-- The actors that come first leave a script alone, unless they wake its actor. -/
theorem spares_upTo (budget : Nat) (play : Play) {actor : Nat}
    (kind : ScriptKind) {count : Nat} (earlier : count ≤ actor) :
    Spares actor kind play (play.upTo budget count) := by
  induction count with
  | zero => exact .refl play
  | succ count inductionHypothesis =>
      have other : count ≠ actor := by omega
      exact ((inductionHypothesis (by omega)).trans
        (spares_takeTurn (fun own => other own.1) budget _)).trans
          (spares_takeTurn (fun own => other own.1) budget _)

theorem spares_whenTurn (budget : Nat) (play : Play)
    (turn : Nat × ScriptKind) :
    Spares turn.1 turn.2 play (play.whenTurn budget turn) := by
  obtain ⟨actor, kind⟩ := turn
  cases kind with
  | life => exact play.spares_upTo budget .life (Nat.le_refl actor)
  | move =>
      exact (play.spares_upTo budget .move (Nat.le_refl actor)).trans
        (spares_takeTurn (by simp) budget _)

/-- A script that was halted when a tick began gets no turn in it, unless its actor
is woken first. -/
theorem woken_of_halted {script : Script} (budget : Nat)
    (inSlot : play.script? turn.1 turn.2 = some script)
    (halted : script.state.status = .halted) {other : Script}
    (ready : (play.whenTurn budget turn).ready? turn = some other) :
    ∃ notes cause,
      (play.whenTurn budget turn).journal.toList =
          play.journal.toList ++ notes ∧
        .event (.revived turn.1 cause) ∈ notes := by
  obtain ⟨notes, grown, kept⟩ := play.spares_whenTurn budget turn
  rcases kept with same | ⟨cause, woken⟩
  · rw [(ready?_eq_some ready).1, inSlot] at same
    have running := status_of_ready? ready
    rw [Option.some.inj same, halted] at running
    cases running
  · exact ⟨notes, cause, grown, woken⟩

/-- A tick is bounded, ordered and fully accounted for, whatever its scripts do. It
comes to an end; its trace is one block for each script of each actor, in order; as
many commands are counted as the trace has entries; a script that gets a turn is
reported exactly if it has used up its budget, and one that was halted at first gets
none unless its actor is woken before. -/
theorem tick_is_accounted_for (budget : Nat) (play : Play) :
    Acc (fun after before => Moment.Next before after)
        (.resting [.tick budget] play) ∧
      (Moment.resting [.tick budget] play).Leads
        (.resting [] (play.tick budget)) ∧
      play.tick budget = play.upTo budget play.actors.length ∧
      (play.tick budget).journal.trace.length =
        play.journal.trace.length + play.stepsOfTick budget ∧
      ∃ block : Nat × ScriptKind → List Nat,
        (play.tick budget).journal.trace =
            play.journal.trace ++
              (List.range play.actors.length).flatMap (fun actor =>
                stepsAt (actor, .life) (block (actor, .life)) ++
                  stepsAt (actor, .move) (block (actor, .move))) ∧
          ∀ turn, Accounts budget turn (play.whenTurn budget turn) (block turn)
              ((play.whenTurn budget turn).takeTurn budget turn) ∧
            ∀ script, play.script? turn.1 turn.2 = some script →
              script.state.status = .halted → block turn ≠ [] →
                ∃ notes cause,
                  (play.whenTurn budget turn).journal.toList =
                      play.journal.toList ++ notes ∧
                    .event (.revived turn.1 cause) ∈ notes := by
  have accounted (turn : Nat × ScriptKind) :=
    accounts_takeTurn budget turn (play.whenTurn budget turn)
  choose block accounts using accounted
  refine ⟨Moment.wellFounded_next.apply _, Moment.leads_tick budget [] play,
    play.tick_eq_upTo budget, length_trace_of_turns budget _ play, block, ?_,
    fun turn => ⟨accounts turn, fun script inSlot halted busy => ?_⟩⟩
  · rw [tick_eq_upTo]
    exact trace_upTo accounts _
  · cases ready : (play.whenTurn budget turn).ready? turn with
    | none => exact absurd ((accounts turn).idle ready).1 busy
    | some other => exact woken_of_halted budget inSlot halted ready

/-- An actor whose life script waits. -/
def dozer : ActorData where
  name := "dozer"
  model := none
  position := Vec3.zero
  behaviour := 0
  animation := 0
  life := [.yield]
  move := []

def dormitory : Play :=
  intervene
    { bedroom with actors := (Actor.ofData dozer none).toOption.toList }
    (.kill 0)

/-- A script that gets no turn is not reported, even if its empty block is as long as
the budget. -/
theorem not_reported_without_turn :
    ¬ ∀ (budget : Nat) (play : Play) (turn : Nat × ScriptKind)
        (block : List Nat) (left : Script),
      let before := play.whenTurn budget turn
      let after := before.takeTurn budget turn
      after.journal.trace = before.journal.trace ++ stepsAt turn block →
        after.script? turn.1 turn.2 = some left →
          after.journal.exhaustions = before.journal.exhaustions ++
            if left.isExhausted turn.1 budget block then
              [before.exhaustion turn.1 turn.2 budget left]
            else
              [] := by
  intro reported
  have idle : dormitory.takeTurn 0 (0, .life) = dormitory :=
    takeTurn_of_idle rfl
  obtain ⟨left, inSlot, exhausted⟩ :
      ∃ left, dormitory.script? 0 .life = some left ∧
        left.isExhausted 0 0 [] = true :=
    ⟨_, rfl, rfl⟩
  have counted := reported 0 dormitory (0, .life) [] left
  simp only [whenTurn, upTo, idle, inSlot, exhausted] at counted
  have one := counted (List.append_nil _).symm trivial
  simp at one

end Play

end Stagecraft
