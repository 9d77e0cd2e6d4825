import Stagecraft.Proofs.Loading.Crowds
import Stagecraft.Proofs.Loading.Returns

/-!
# Tasks under all schedules

Whatever a source makes a task wait for, polling it leaves the value that it comes
to. Only the error with which it fails may depend on the order of the answers; it
is still one that some part of the task fails with. If nothing is waited for, it
is the first one.
-/

namespace Stagecraft

namespace Task

variable {α β : Type} {source : Source}

/-! ## Values -/

theorem collect_eq_ok
    {size : Nat} {results : Fin size → Except LoadError α}
    {values : Fin size → α} :
    collect size results = .ok values ↔
      ∀ index, results index = .ok (values index) := by
  induction size with
  | zero =>
      refine ⟨fun _ index => index.elim0, fun _ => ?_⟩
      exact congrArg Except.ok (funext fun index => index.elim0)
  | succ size inductionHypothesis =>
      have tail :
          (collect size fun index => results index.succ) =
              .ok (fun index => values index.succ) ↔
            ∀ index : Fin size,
              results index.succ = .ok (values index.succ) :=
        inductionHypothesis
      rw [Fin.forall_fin_succ, ← tail, collect]
      cases results 0 with
      | error error => simp
      | ok first =>
          cases collect size fun index => results index.succ with
          | error error => simp
          | ok others =>
              simp only [Except.ok.injEq]
              constructor
              · rintro rfl
                exact ⟨rfl, rfl⟩
              · rintro ⟨rfl, rfl⟩
                funext index
                exact Fin.cases rfl (fun _ => rfl) index

theorem run_join
    {size : Nat} {members : Fin size → Task β}
    {next : (Fin size → β) → Task α} {values : Fin size → β}
    (come : ∀ index, (members index).run source = .ok (values index)) :
    (join size members next).run source = (next values).run source := by
  rw [run, collect_eq_ok.mpr come]

theorem run_join_eq_ok
    {size : Nat} {members : Fin size → Task β}
    {next : (Fin size → β) → Task α} {value : α} :
    (join size members next).run source = .ok value ↔
      ∃ values,
        (∀ index, (members index).run source = .ok (values index)) ∧
          (next values).run source = .ok value := by
  constructor
  · intro comes
    rw [run] at comes
    cases collected :
        collect size fun index => (members index).run source with
    | error error => simp [collected] at comes
    | ok values =>
        rw [collected] at comes
        exact ⟨values, collect_eq_ok.mp collected, comes⟩
  · rintro ⟨values, come, comes⟩
    rw [run_join come, comes]

/-! ## What polls leave -/

/-- Whether all crowds of a task are in order. -/
def Orderly {α : Type} : Task α → Prop
  | .done _ => True
  | .failed _ => True
  | .fetch _ next => ∀ answer, (next answer).Orderly
  | .waiting _ _ next => ∀ answer, (next answer).Orderly
  | .join _ members next =>
      (∀ index, (members index).Orderly) ∧ ∀ values, (next values).Orderly
  | .turns crowd next => crowd.Orderly ∧ ∀ values, (next values).Orderly

/-- How a task may look after a poll: it has gone on as far as the answers of the
source allow, or stopped somewhere before that. -/
inductive Leads (source : Source) : {α : Type} → Task α → Task α → Prop where
  | done {α : Type} (value : α) : Leads source (.done value) (.done value)
  | failed {α : Type} (error : LoadError) :
      Leads source (.failed error : Task α) (.failed error)
  | fetchHeld {α : Type} {request : Fetch} {next : request.Answer → Task α}
      (pauses : Nat) :
      Leads source (.fetch request next) (.waiting request pauses next)
  | fetchRefused {α : Type} {request : Fetch}
      {next : request.Answer → Task α} {error : LoadError}
      (refused : source.answer request = .error error) :
      Leads source (.fetch request next) (.failed error)
  | fetchAnswered {α : Type} {request : Fetch}
      {next : request.Answer → Task α} {answer : request.Answer}
      {rest : Task α} (answered : source.answer request = .ok answer)
      (later : Leads source (next answer) rest) :
      Leads source (.fetch request next) rest
  | waitingHeld {α : Type} {request : Fetch} {next : request.Answer → Task α}
      (before after : Nat) :
      Leads source (.waiting request before next) (.waiting request after next)
  | waitingRefused {α : Type} {request : Fetch}
      {next : request.Answer → Task α} {error : LoadError}
      (refused : source.answer request = .error error) :
      Leads source (.waiting request 0 next) (.failed error)
  | waitingAnswered {α : Type} {request : Fetch}
      {next : request.Answer → Task α} {answer : request.Answer}
      {rest : Task α} (answered : source.answer request = .ok answer)
      (later : Leads source (next answer) rest) :
      Leads source (.waiting request 0 next) rest
  | joinFailed {α β : Type} {size : Nat} {members : Fin size → Task β}
      {next : (Fin size → β) → Task α} {error : LoadError} (index : Fin size)
      (fails : Leads source (members index) (.failed error)) :
      Leads source (.join size members next) (.failed error)
  | joinFinished {α β : Type} {size : Nat} {members : Fin size → Task β}
      {next : (Fin size → β) → Task α} {values : Fin size → β}
      {rest : Task α}
      (finish : ∀ index, Leads source (members index) (.done (values index)))
      (later : Leads source (next values) rest) :
      Leads source (.join size members next) rest
  | joinHeld {α β : Type} {size : Nat} {members rests : Fin size → Task β}
      {next : (Fin size → β) → Task α}
      (lead : ∀ index, Leads source (members index) (rests index)) :
      Leads source (.join size members next) (.join size rests next)
  | turnsFailed {α β : Type} {crowd : Crowd β} {next : List β → Task α}
      {error : LoadError} (comes : crowd.run source = .error error) :
      Leads source (.turns crowd next) (.failed error)
  | turnsFinished {α β : Type} {crowd : Crowd β} {next : List β → Task α}
      {values : List β} {rest : Task α} (comes : crowd.run source = .ok values)
      (later : Leads source (next values) rest) :
      Leads source (.turns crowd next) rest
  | turnsHeld {α β : Type} {crowd rest : Crowd β} {next : List β → Task α}
      (orderly : rest.Orderly) (same : rest.run source = crowd.run source) :
      Leads source (.turns crowd next) (.turns rest next)

/-- A poll leads to what is left, whatever it has to wait for. -/
theorem leads_poll
    {task : Task α} (orderly : task.Orderly) (source : Source)
    (pauses : Nat → Fetch → Nat) (journal : Journal) :
    Leads source task
      (task.poll { source with pauses := pauses } journal).1.rest := by
  induction task generalizing journal with
  | done value => exact .done value
  | failed error => exact .failed error
  | fetch request next inductionHypothesis =>
      simp only [poll]
      split
      · exact .fetchHeld _
      · split
        · next answer answered =>
            exact .fetchAnswered answered
              (inductionHypothesis answer (orderly answer) _)
        · next error refused => exact .fetchRefused refused
  | waiting request pauses next inductionHypothesis =>
      cases pauses with
      | succ pauses => exact .waitingHeld _ _
      | zero =>
          simp only [poll]
          split
          · next answer answered =>
              exact .waitingAnswered answered
                (inductionHypothesis answer (orderly answer) _)
          · next error refused => exact .waitingRefused refused
  | join size members next membersHypothesis nextHypothesis =>
      -- A member is polled at a moment that depends on the members before it, which
      -- is why the induction is for every journal.
      have polls :=
        polls_pollMembers
          (fun index => (members index).poll { source with pauses := pauses })
          journal
      simp only [poll]
      split
      · next error after polled =>
          rw [polled] at polls
          obtain ⟨index, moment, failed⟩ | _ := polls
          have fails :=
            membersHypothesis index (orderly.1 index) moment
          rw [failed] at fails
          exact .joinFailed index fails
      · next progress after polled =>
          rw [polled] at polls
          obtain _ | ⟨each, _⟩ := polls
          have lead (index : Fin size) :
              Leads source (members index) (progress index).rest := by
            obtain ⟨moment, same⟩ := each index
            rw [← same]
            exact membersHypothesis index (orderly.1 index) moment
          split
          · next values finished =>
              refine .joinFinished (fun index => ?_)
                (nextHypothesis values (orderly.2 values) _)
              have leads := lead index
              rw [allFinished_eq_some finished index] at leads
              exact leads
          · exact .joinHeld lead
  | turns crowd next inductionHypothesis =>
      have comes :
          (crowd.poll { source with pauses := pauses } false journal).1.run
              source = crowd.run source :=
        Crowd.run_poll orderly.1 journal
      have stays (rest : Crowd _) :
          (crowd.poll { source with pauses := pauses } false journal).1 =
              .pending rest → rest.Orderly :=
        Crowd.orderly_of_poll orderly.1
      simp only [poll]
      split
      · next values after polled =>
          rw [polled] at comes
          exact .turnsFinished comes.symm
            (inductionHypothesis values (orderly.2 values) _)
      · next error after polled =>
          rw [polled] at comes
          exact .turnsFailed comes.symm
      · next rest after polled =>
          rw [polled] at comes
          exact .turnsHeld (stays rest (by rw [polled])) comes

theorem Leads.orderly
    {task rest : Task α} (leads : Leads source task rest)
    (orderly : task.Orderly) :
    rest.Orderly := by
  induction leads with
  | done value => trivial
  | failed error => trivial
  | fetchHeld pauses => exact orderly
  | waitingHeld before after => exact orderly
  | fetchRefused refused => trivial
  | waitingRefused refused => trivial
  | fetchAnswered answered later inductionHypothesis =>
      exact inductionHypothesis (orderly _)
  | waitingAnswered answered later inductionHypothesis =>
      exact inductionHypothesis (orderly _)
  | joinFailed index fails => trivial
  | joinFinished finish later _ inductionHypothesis =>
      exact inductionHypothesis (orderly.2 _)
  | joinHeld lead inductionHypothesis =>
      exact ⟨fun index => inductionHypothesis index (orderly.1 index),
        orderly.2⟩
  | turnsFailed comes => trivial
  | turnsFinished comes later inductionHypothesis =>
      exact inductionHypothesis (orderly.2 _)
  | turnsHeld stays same => exact ⟨stays, orderly.2⟩

/-- What is left of a task comes to the same value. -/
theorem Leads.run_eq_ok
    {task rest : Task α} (leads : Leads source task rest) :
    ∀ value, rest.run source = .ok value ↔ task.run source = .ok value := by
  induction leads with
  | done value => exact fun _ => Iff.rfl
  | failed error => exact fun _ => Iff.rfl
  | fetchHeld pauses => exact fun _ => by rw [run, run]
  | waitingHeld before after => exact fun _ => by rw [run, run]
  | fetchRefused refused => exact fun _ => by rw [run, run, refused]
  | waitingRefused refused => exact fun _ => by rw [run, run, refused]
  | fetchAnswered answered later inductionHypothesis =>
      intro value
      rw [inductionHypothesis, run, answered]
  | waitingAnswered answered later inductionHypothesis =>
      intro value
      rw [inductionHypothesis, run, answered]
  | joinFailed index fails inductionHypothesis =>
      -- A member that fails comes to no value, so the group comes to none.
      intro value
      rw [run_join_eq_ok]
      constructor
      · intro comes
        simp [run] at comes
      · rintro ⟨values, come, _⟩
        have comes := (inductionHypothesis (values index)).mpr (come index)
        simp [run] at comes
  | joinFinished finish later finishHypothesis inductionHypothesis =>
      intro value
      rw [inductionHypothesis, run_join fun index => ?_]
      exact (finishHypothesis index _).mp rfl
  | joinHeld lead inductionHypothesis =>
      intro value
      rw [run_join_eq_ok, run_join_eq_ok]
      simp only [inductionHypothesis]
  | turnsFailed comes => exact fun _ => by rw [run, run, comes]
  | turnsFinished comes later inductionHypothesis =>
      intro value
      rw [inductionHypothesis, run, comes]
  | turnsHeld stays same => exact fun _ => by rw [run, run, same]

/-! ## Failures -/

/-- Whether every error with which a task can fail is one of some errors. -/
def FailsOnly {α : Type} (source : Source) :
    Task α → (LoadError → Prop) → Prop
  | .done _, _ => True
  | .failed error, blamed => blamed error
  | .fetch request next, blamed =>
      (∀ error, source.answer request = .error error → blamed error) ∧
        ∀ answer, source.answer request = .ok answer →
          (next answer).FailsOnly source blamed
  | .waiting request _ next, blamed =>
      (∀ error, source.answer request = .error error → blamed error) ∧
        ∀ answer, source.answer request = .ok answer →
          (next answer).FailsOnly source blamed
  | .join _ members next, blamed =>
      (∀ index, (members index).FailsOnly source blamed) ∧
        ∀ values,
          (∀ index, (members index).run source = .ok (values index)) →
            (next values).FailsOnly source blamed
  | .turns crowd next, blamed =>
      (∀ error, crowd.run source = .error error → blamed error) ∧
        ∀ values, crowd.run source = .ok values →
          (next values).FailsOnly source blamed

/-- What is left of a task fails with no other errors. -/
theorem Leads.failsOnly
    {task rest : Task α} (leads : Leads source task rest)
    {blamed : LoadError → Prop} (fails : task.FailsOnly source blamed) :
    rest.FailsOnly source blamed := by
  induction leads with
  | done value => trivial
  | failed error => exact fails
  | fetchHeld pauses => exact fails
  | waitingHeld before after => exact fails
  | fetchRefused refused => exact fails.1 _ refused
  | waitingRefused refused => exact fails.1 _ refused
  | fetchAnswered answered later inductionHypothesis =>
      exact inductionHypothesis (fails.2 _ answered)
  | waitingAnswered answered later inductionHypothesis =>
      exact inductionHypothesis (fails.2 _ answered)
  | joinFailed index _ inductionHypothesis =>
      exact inductionHypothesis (fails.1 index)
  | joinFinished finish later _ inductionHypothesis =>
      refine inductionHypothesis (fails.2 _ fun index => ?_)
      exact ((finish index).run_eq_ok _).mp rfl
  | joinHeld lead inductionHypothesis =>
      refine ⟨fun index => inductionHypothesis index (fails.1 index),
        fun values come => fails.2 values fun index => ?_⟩
      exact ((lead index).run_eq_ok _).mp (come index)
  | turnsFailed comes => exact fails.1 _ comes
  | turnsFinished comes later inductionHypothesis =>
      exact inductionHypothesis (fails.2 _ comes)
  | turnsHeld stays same =>
      exact ⟨fun error failed => fails.1 error (same ▸ failed),
        fun values come => fails.2 values (same ▸ come)⟩

/-! ## Prompt sources -/

/-- Whether no fetch of a task has started. -/
def Unbegun {α : Type} : Task α → Prop
  | .done _ => True
  | .failed _ => True
  | .fetch _ next => ∀ answer, (next answer).Unbegun
  | .waiting _ _ _ => False
  | .join _ members next =>
      (∀ index, (members index).Unbegun) ∧ ∀ values, (next values).Unbegun
  | .turns crowd next =>
      (∃ errands, crowd = .ofList errands ∧
        ∀ errand ∈ errands, errand.pauses = none) ∧
        ∀ values, (next values).Unbegun

theorem Unbegun.orderly {task : Task α} (unbegun : task.Unbegun) :
    task.Orderly := by
  induction task with
  | done value => trivial
  | failed error => trivial
  | fetch request next inductionHypothesis =>
      exact fun answer => inductionHypothesis answer (unbegun answer)
  | waiting request pauses next => exact unbegun.elim
  | join size members next membersHypothesis nextHypothesis =>
      exact ⟨fun index => membersHypothesis index (unbegun.1 index),
        fun values => nextHypothesis values (unbegun.2 values)⟩
  | turns crowd next inductionHypothesis =>
      obtain ⟨⟨errands, rfl, _⟩, later⟩ := unbegun
      exact ⟨Crowd.orderly_ofList errands,
        fun values => inductionHypothesis values (later values)⟩

def Progress.over {α : Type} : Except LoadError α → Progress α
  | .ok value => .finished value
  | .error error => .failed error

theorem allFinished_finished
    {size : Nat} (values : Fin size → α) :
    allFinished size (fun index => .finished (values index)) =
      some values := by
  induction size with
  | zero => exact congrArg some (funext fun index => index.elim0)
  | succ size inductionHypothesis =>
      have tail := inductionHypothesis fun index => values index.succ
      simp only [allFinished, Progress.value?, Option.bind_eq_bind,
        Option.bind_some, tail, Option.pure_def, Option.some.injEq]
      funext index
      exact Fin.cases rfl (fun _ => rfl) index

/-- Members that are over after one poll are collected in order. -/
theorem pollMembers_over
    {size : Nat} {members : Fin size → Polling α}
    {results : Fin size → Except LoadError α}
    (ended : ∀ index moment,
      (members index moment).1 = .over (results index))
    (journal : Journal) :
    (pollMembers size members journal).1 =
      (collect size results).map fun values index =>
        .finished (values index) := by
  induction size generalizing journal with
  | zero => exact congrArg Except.ok (funext fun index => index.elim0)
  | succ size inductionHypothesis =>
      have head := ended 0 journal
      have tail (moment : Journal) :=
        inductionHypothesis (fun index => ended index.succ) moment
      rw [pollMembers, collect]
      generalize members 0 journal = polled at head ⊢
      obtain ⟨progress, after⟩ := polled
      obtain rfl : progress = .over (results 0) := head
      cases results 0 with
      | error error => rfl
      | ok first =>
          have others := tail after
          simp only [Progress.over]
          generalize pollMembers size (fun index => members index.succ) after =
            polledOthers at others ⊢
          obtain ⟨result, afterAll⟩ := polledOthers
          obtain rfl := others
          cases collect size fun index => results index.succ with
          | error error => rfl
          | ok values =>
              refine congrArg Except.ok (funext fun index => ?_)
              exact Fin.cases rfl (fun _ => rfl) index

/-- If no fetch has to wait, a task that has not begun is over after one poll, with
what it comes to. -/
theorem poll_prompt
    {task : Task α} (unbegun : task.Unbegun)
    (prompt : ∀ ticket request, source.pauses ticket request = 0)
    (journal : Journal) :
    (task.poll source journal).1 = .over (task.run source) := by
  induction task generalizing journal with
  | done value => rfl
  | failed error => rfl
  | fetch request next inductionHypothesis =>
      simp only [poll, run, prompt]
      cases answers : source.answer request with
      | error error => rfl
      | ok answer => exact inductionHypothesis answer (unbegun answer) _
  | waiting request pauses next => exact unbegun.elim
  | join size members next membersHypothesis nextHypothesis =>
      have polled :=
        pollMembers_over
          (fun index moment =>
            membersHypothesis index (unbegun.1 index) moment) journal
      rw [poll, run]
      generalize pollMembers size
        (fun index => (members index).poll source) journal = result at polled ⊢
      obtain ⟨progress, after⟩ := result
      obtain rfl := polled
      cases collect size fun index => (members index).run source with
      | error error => rfl
      | ok values =>
          simp only [Except.map, allFinished_finished]
          exact nextHypothesis values (unbegun.2 values) _
  | turns crowd next inductionHypothesis =>
      obtain ⟨⟨errands, rfl, notStarted⟩, later⟩ := unbegun
      have comes :
          ((Crowd.ofList errands).poll source false journal).1.run source =
            (Crowd.ofList errands).run source :=
        Crowd.run_poll (Crowd.orderly_ofList errands) journal
      have ended (rest : _) :
          ((Crowd.ofList errands).poll source false journal).1 ≠
            .pending rest :=
        Crowd.not_pending_of_prompt prompt fun entry member =>
          notStarted _ (List.fst_mem_of_mem_zipIdx member)
      rw [poll, run, ← comes]
      generalize (Crowd.ofList errands).poll source false journal = result
        at ended ⊢
      obtain ⟨progress, after⟩ := result
      cases progress with
      | finished values => exact inductionHypothesis values (later values) _
      | failed error => rfl
      | pending rest => exact absurd rfl (ended rest)

theorem settle_prompt
    {task : Task α} (unbegun : task.Unbegun)
    (prompt : ∀ ticket request, source.pauses ticket request = 0)
    (journal : Journal) :
    (task.settle source journal).1 = task.run source := by
  have ended := poll_prompt unbegun prompt journal
  rw [settle]
  split
  · next value after polled =>
      rw [polled] at ended
      cases comes : task.run source with
      | ok other => rw [comes] at ended; cases ended; rfl
      | error error => rw [comes] at ended; cases ended
  · next error after polled =>
      rw [polled] at ended
      cases comes : task.run source with
      | ok value => rw [comes] at ended; cases ended
      | error other => rw [comes] at ended; cases ended; rfl
  · next rest after polled =>
      rw [polled] at ended
      cases comes : task.run source with
      | ok value => rw [comes] at ended; cases ended
      | error error => rw [comes] at ended; cases ended

end Task

end Stagecraft
