import Stagecraft.Loading.Backlog
import Stagecraft.Loading.Task

/-!
# Settling tasks

Polling a task again and again comes to an end: every poll uses up a pause or
gets further along the task. So a task can be run to its end whatever its source
makes it wait for.
-/

namespace Stagecraft

namespace Task

/-! ## What polling leaves -/

/-- Whether polling a task can leave another one to be polled again. -/
def Leaves {α : Type} (source : Source) (rest task : Task α) : Prop :=
  ∃ journal, (task.poll source journal).1 = .pending rest

/-- Whether repeated polling of a task comes to an end. -/
abbrev Settles {α : Type} (source : Source) (task : Task α) : Prop :=
  Acc (Leaves source) task

theorem settles_done {α : Type} (source : Source) (value : α) :
    Settles source (.done value) := by
  refine Acc.intro _ fun rest ⟨journal, left⟩ => ?_
  simp [poll] at left

theorem settles_failed {α : Type} (source : Source) (error : LoadError) :
    Settles source (.failed error : Task α) := by
  refine Acc.intro _ fun rest ⟨journal, left⟩ => ?_
  simp [poll] at left

theorem settles_waiting
    {α : Type} {source : Source} {request : Fetch}
    {next : request.Answer → Task α}
    (nextSettles : ∀ answer, Settles source (next answer)) (pauses : Nat) :
    Settles source (.waiting request pauses next) := by
  induction pauses with
  | zero =>
      refine Acc.intro _ fun rest ⟨journal, left⟩ => ?_
      simp only [poll] at left
      split at left
      · next answer _ => exact (nextSettles answer).inv ⟨journal, left⟩
      · simp at left
  | succ pauses inductionHypothesis =>
      refine Acc.intro _ fun rest ⟨journal, left⟩ => ?_
      simp only [poll, Progress.pending.injEq] at left
      exact left ▸ inductionHypothesis

theorem settles_fetch
    {α : Type} {source : Source} {request : Fetch}
    {next : request.Answer → Task α}
    (nextSettles : ∀ answer, Settles source (next answer)) :
    Settles source (.fetch request next) := by
  refine Acc.intro _ fun rest ⟨journal, left⟩ => ?_
  simp only [poll] at left
  split at left
  · simp only [Progress.pending.injEq] at left
    exact left ▸ settles_waiting nextSettles _
  · split at left
    · next answer _ => exact (nextSettles answer).inv ⟨_, left⟩
    · simp at left

/-! ## Groups -/

/-- Polling a group polls its first member and, unless that one fails, the others. -/
theorem pollMembers_succ {α : Type} {size : Nat}
    (members : Fin (size + 1) → Polling α) (journal : Journal) :
    pollMembers (size + 1) members journal =
      match members 0 journal with
      | (.failed error, after) => (.error error, after)
      | (first, after) =>
          let rest := pollMembers size (fun index => members index.succ) after
          (rest.1.map (inFront first), rest.2) := by
  rw [pollMembers]
  cases members 0 journal with
  | mk first after =>
      cases first with
      | failed error => rfl
      | finished value =>
          dsimp only
          cases pollMembers size (fun index => members index.succ) after with
          | mk result afterAll => cases result <;> rfl
      | pending rest =>
          dsimp only
          cases pollMembers size (fun index => members index.succ) after with
          | mk result afterAll => cases result <;> rfl

/-- How polling a group goes: one of its members fails, or all are polled at some
moment and none of them fails. -/
inductive Polls {α : Type} {size : Nat} (members : Fin size → Polling α) :
    Except LoadError (Fin size → Progress α) → Prop where
  | failed {error : LoadError} (index : Fin size) (moment : Journal)
      (fails : (members index moment).1 = .failed error) :
      Polls members (.error error)
  | polled {progress : Fin size → Progress α}
      (each : ∀ index, ∃ moment, (members index moment).1 = progress index)
      (sound : ∀ index error, progress index ≠ .failed error) :
      Polls members (.ok progress)

theorem Polls.inFront
    {α : Type} {size : Nat} {members : Fin (size + 1) → Polling α}
    {outcome : Except LoadError (Fin size → Progress α)}
    (others : Polls (fun index => members index.succ) outcome)
    {moment : Journal} {first : Progress α}
    (polled : (members 0 moment).1 = first)
    (sound : ∀ error, first ≠ .failed error) :
    Polls members (outcome.map (Task.inFront first)) := by
  cases others with
  | failed index later fails => exact .failed index.succ later fails
  | polled eachOther soundOthers =>
      exact .polled (Fin.cases ⟨moment, polled⟩ eachOther)
        (Fin.cases sound soundOthers)

theorem polls_pollMembers
    {α : Type} {size : Nat} (members : Fin size → Polling α)
    (journal : Journal) :
    Polls members (pollMembers size members journal).1 := by
  induction size generalizing journal with
  | zero =>
      exact .polled (fun index => index.elim0) fun index => index.elim0
  | succ size inductionHypothesis =>
      have others := inductionHypothesis fun index => members index.succ
      rw [pollMembers_succ]
      cases polled : members 0 journal with
      | mk first after =>
          have atFirst : (members 0 journal).1 = first := by rw [polled]
          cases first with
          | failed error => exact .failed 0 journal atFirst
          | finished value => exact (others after).inFront atFirst (by simp)
          | pending rest => exact (others after).inFront atFirst (by simp)

theorem allFinished_of_value
    {α : Type} {size : Nat} {progress : Fin size → Progress α}
    (finished : ∀ index, (progress index).value?.isSome) :
    (allFinished size progress).isSome := by
  induction size with
  | zero =>
      rfl
  | succ size inductionHypothesis =>
      have headFinished := finished 0
      have tailFinished :
          (allFinished size fun index => progress index.succ).isSome :=
        inductionHypothesis fun index => finished index.succ
      obtain ⟨head, headEq⟩ := Option.isSome_iff_exists.mp headFinished
      obtain ⟨tail, tailEq⟩ := Option.isSome_iff_exists.mp tailFinished
      simp [allFinished, headEq, tailEq]

/-- Polling a member either finishes it or leaves it to be polled again, unless
it fails. -/
theorem rest_cases
    {α : Type} {source : Source} {task : Task α} {progress : Progress α}
    {moment : Journal} (polled : (task.poll source moment).1 = progress)
    (sound : ∀ error, progress ≠ .failed error) :
    (∃ value, progress = .finished value) ∨
      Leaves source progress.rest task := by
  cases progress with
  | finished value => exact .inl ⟨value, rfl⟩
  | failed error => exact absurd rfl (sound error)
  | pending rest => exact .inr ⟨moment, polled⟩

theorem not_leaves_done
    {α : Type} {source : Source} {rest : Task α} {value : α} :
    ¬ Leaves source rest (.done value) :=
  fun ⟨journal, left⟩ => by simp [poll] at left

/-- What polling leaves of a group is what it leaves of a continuation, or the group
of what it left of the members. Of those some have finished and at least one has
not. -/
theorem leaves_join
    {α β : Type} {source : Source} {size : Nat} {members : Fin size → Task β}
    {next : (Fin size → β) → Task α} {rest : Task α}
    (left : Leaves source rest (.join size members next)) :
    (∃ values, Leaves source rest (next values)) ∨
      ∃ rests : Fin size → Task β, rest = .join size rests next ∧
        (∀ index, (∃ value, rests index = .done value) ∨
          Leaves source (rests index) (members index)) ∧
        ∃ index, Leaves source (rests index) (members index) := by
  obtain ⟨journal, remains⟩ := left
  have polls :=
    polls_pollMembers (fun index => (members index).poll source) journal
  simp only [poll] at remains
  split at remains
  · simp at remains
  · next progress after polled =>
      rw [polled] at polls
      obtain _ | ⟨each, sound⟩ := polls
      have fared (index : Fin size) :
          (∃ value, progress index = .finished value) ∨
            Leaves source (progress index).rest (members index) := by
        obtain ⟨moment, same⟩ := each index
        exact rest_cases same (sound index)
      split at remains
      · next values _ => exact .inl ⟨values, after, remains⟩
      · next unfinished =>
          simp only [Progress.pending.injEq] at remains
          refine .inr ⟨fun index => (progress index).rest, remains.symm,
            fun index => ?_, ?_⟩
          · rcases fared index with ⟨value, finished⟩ | leaves
            · exact .inl ⟨value, congrArg Progress.rest finished⟩
            · exact .inr leaves
          · refine Classical.byContradiction fun none_ => ?_
            have finished (index : Fin size) :
                (progress index).value?.isSome := by
              rcases fared index with ⟨value, finished⟩ | leaves
              · rw [finished]
                rfl
              · exact absurd ⟨index, leaves⟩ none_
            have complete := allFinished_of_value finished
            simp [unfinished] at complete

/-- A group settles if all members and all continuations do. All members but the last
`left` ones have finished already. -/
theorem settles_join_from
    {α β : Type} {source : Source} {size : Nat}
    {next : (Fin size → β) → Task α}
    (nextSettles : ∀ values, Settles source (next values)) (left : Nat)
    {members : Fin size → Task β}
    (membersSettle : ∀ index, Settles source (members index))
    (finished : ∀ index : Fin size, index.val + left < size →
      ∃ value, members index = .done value) :
    Settles source (.join size members next) := by
  -- The outer induction is on the members that may still wait, the inner one on the
  -- polls of the first of them. Whatever the others do meanwhile, they still
  -- settle.
  induction left generalizing members with
  | zero =>
      refine Acc.intro _ fun rest leaves => ?_
      rcases leaves_join leaves with
        ⟨values, leavesNext⟩ | ⟨rests, _, _, index, leavesMember⟩
      · exact (nextSettles values).inv leavesNext
      · obtain ⟨value, isDone⟩ := finished index index.isLt
        rw [isDone] at leavesMember
        exact absurd leavesMember not_leaves_done
  | succ left inductionHypothesis =>
      by_cases inside : left < size
      case neg =>
        exact inductionHypothesis membersSettle fun index bound =>
          absurd bound (by omega)
      let first : Fin size := ⟨size - 1 - left, by omega⟩
      generalize atFirst : members first = task
      have taskSettles : Settles source task := atFirst ▸ membersSettle first
      induction taskSettles generalizing members with
      | intro task _ firstHypothesis =>
          refine Acc.intro _ fun rest leaves => ?_
          rcases leaves_join leaves with
            ⟨values, leavesNext⟩ | ⟨rests, rfl, each, _⟩
          · exact (nextSettles values).inv leavesNext
          have restsSettle (index : Fin size) :
              Settles source (rests index) := by
            rcases each index with ⟨value, isDone⟩ | leavesMember
            · rw [isDone]
              exact settles_done source value
            · exact (membersSettle index).inv leavesMember
          have stillFinished (index : Fin size)
              (bound : index.val + (left + 1) < size) :
              ∃ value, rests index = .done value := by
            obtain ⟨value, isDone⟩ := finished index bound
            refine (each index).resolve_right fun leavesMember => ?_
            rw [isDone] at leavesMember
            exact not_leaves_done leavesMember
          rcases each first with firstDone | leavesFirst
          · refine inductionHypothesis restsSettle fun index bound => ?_
            by_cases same : index = first
            · exact same ▸ firstDone
            · have different : index.val ≠ size - 1 - left := fun equal =>
                same (Fin.ext equal)
              exact stillFinished index (by omega)
          · exact firstHypothesis _ (atFirst ▸ leavesFirst) restsSettle
              stillFinished rfl

theorem settles_join
    {α β : Type} {source : Source} {size : Nat}
    {members : Fin size → Task β} {next : (Fin size → β) → Task α}
    (membersSettle : ∀ index, Settles source (members index))
    (nextSettles : ∀ values, Settles source (next values)) :
    Settles source (.join size members next) :=
  settles_join_from nextSettles size membersSettle
    fun index bound => absurd bound (by omega)

/-- A crowd settles if all continuations do. -/
theorem settles_turns
    {α β : Type} {source : Source} {next : List β → Task α}
    (nextSettles : ∀ values, Settles source (next values)) (crowd : Crowd β) :
    Settles source (.turns crowd next) := by
  generalize startedLater : Crowd.unstarted crowd.queue = fresh
  induction fresh using Nat.strongRecOn generalizing crowd with
  | ind fresh fewerFresh =>
      generalize waitsLeft : Crowd.owed crowd.queue = waits
      induction waits using Nat.strongRecOn generalizing crowd with
      | ind waits fewerWaits =>
          refine Acc.intro _ fun rest ⟨journal, remains⟩ => ?_
          simp only [poll] at remains
          split at remains
          · exact (nextSettles _).inv ⟨_, remains⟩
          · simp at remains
          · next later after polled =>
              simp only [Progress.pending.injEq] at remains
              subst remains
              have shorter : Crowd.Shorter later.queue crowd.queue :=
                Crowd.shorter_pending (by rw [polled])
              rcases shorter with fewer | ⟨same, fewer⟩
              · exact fewerFresh _ (startedLater ▸ fewer) later rfl
              · exact fewerWaits _ (waitsLeft ▸ fewer) later
                  (same.trans startedLater) rfl

/-- Every task settles. -/
theorem settles {α : Type} (source : Source) (task : Task α) :
    Settles source task := by
  induction task with
  | done value => exact settles_done source value
  | failed error => exact settles_failed source error
  | fetch request next nextSettles => exact settles_fetch nextSettles
  | waiting request pauses next nextSettles =>
      exact settles_waiting nextSettles pauses
  | join size members next membersSettle nextSettles =>
      exact settles_join membersSettle nextSettles
  | turns crowd next nextSettles =>
      exact settles_turns nextSettles crowd

/-! ## Running to the end -/

theorem leaves_wellFounded {α : Type} (source : Source) :
    WellFounded (Leaves source : Task α → Task α → Prop) :=
  ⟨settles source⟩

/-- Polls a task until it has finished or failed. -/
def settle {α : Type} (source : Source) (task : Task α) (journal : Journal) :
    Except LoadError α × Journal :=
  match _polled : task.poll source journal with
  | (.finished value, after) => (.ok value, after)
  | (.failed error, after) => (.error error, after)
  | (.pending rest, after) => settle source rest after
termination_by (leaves_wellFounded source).wrap task
decreasing_by exact ⟨journal, by simp [_polled]⟩

end Task

end Stagecraft
