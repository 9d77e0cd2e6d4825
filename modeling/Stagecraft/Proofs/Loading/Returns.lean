import Mathlib.Data.List.Forall2
import Stagecraft.Loading.Settle

/-!
# What tasks return

A predicate on the values with which a task can finish, whatever its fetches are
answered with and however often they wait. It passes from a task to what polling
leaves of it, and so to every value that comes out in the end.
-/

namespace Stagecraft

namespace Task

/-- Whether every value with which a task can finish satisfies a predicate. -/
def Returns {α : Type} : Task α → (α → Prop) → Prop
  | .done value, holds => holds value
  | .failed _, _ => True
  | .fetch _ next, holds => ∀ answer, (next answer).Returns holds
  | .waiting _ _ next, holds => ∀ answer, (next answer).Returns holds
  | @Task.join _ β size members next, holds =>
      ∃ each : Fin size → β → Prop,
        (∀ index, (members index).Returns (each index)) ∧
          ∀ values, (∀ index, each index (values index)) →
            (next values).Returns holds
  | .turns _ next, holds => ∀ values, (next values).Returns holds

/-! ## Building tasks -/

theorem returns_andThen
    {α β : Type} {task : Task α} {after : α → Task β} {first : α → Prop}
    {holds : β → Prop} (returns : task.Returns first)
    (continues : ∀ value, first value → (after value).Returns holds) :
    (task.andThen after).Returns holds := by
  induction task with
  | done value =>
      exact continues value returns
  | failed error =>
      trivial
  | fetch request next inductionHypothesis =>
      exact fun answer =>
        inductionHypothesis answer (returns answer) continues
  | waiting request pauses next inductionHypothesis =>
      exact fun answer =>
        inductionHypothesis answer (returns answer) continues
  | join size members next _ inductionHypothesis =>
      obtain ⟨each, membersReturn, nextReturns⟩ := returns
      exact ⟨each, membersReturn, fun values holdsEach =>
        inductionHypothesis values (nextReturns values holdsEach) continues⟩
  | turns crowd next inductionHypothesis =>
      exact fun values =>
        inductionHypothesis values (returns values) continues

theorem returns_bind
    {α β : Type} {task : Task α} {after : α → Task β} {first : α → Prop}
    {holds : β → Prop} (returns : task.Returns first)
    (continues : ∀ value, first value → (after value).Returns holds) :
    (task >>= after).Returns holds :=
  returns_andThen returns continues

theorem returns_trivially {α : Type} (task : Task α) :
    task.Returns fun _ => True := by
  induction task with
  | done value => trivial
  | failed error => trivial
  | fetch request next inductionHypothesis => exact inductionHypothesis
  | waiting request pauses next inductionHypothesis =>
      exact inductionHypothesis
  | join size members next membersReturn nextReturns =>
      exact ⟨fun _ _ => True, membersReturn, fun values _ => nextReturns values⟩
  | turns crowd next inductionHypothesis => exact inductionHypothesis

/-- Tasks that run side by side return one value each, in their order. -/
theorem returns_together
    {α β : Type} {items : List α} {task : α → Task β}
    {related : α → β → Prop}
    (each : ∀ item ∈ items, (task item).Returns (related item)) :
    (together (items.map task)).Returns (List.Forall₂ related items) := by
  have sameSize : (items.map task).length = items.length := List.length_map _
  refine ⟨fun index => related items[index], fun index => ?_,
    fun values holdsEach => ?_⟩
  · have inside : index.val < items.length := sameSize ▸ index.isLt
    have member : items[index.val] ∈ items := List.getElem_mem inside
    simpa using each _ member
  · show List.Forall₂ related items (List.ofFn values)
    rw [List.forall₂_iff_get]
    refine ⟨by simp, fun position inItems inValues => ?_⟩
    have inside : position < (items.map task).length := by simpa using inItems
    simpa using holdsEach ⟨position, inside⟩

/-! ## Polling -/

theorem allFinished_eq_some
    {α : Type} {size : Nat} {progress : Fin size → Progress α}
    {values : Fin size → α}
    (finished : allFinished size progress = some values) (index : Fin size) :
    progress index = .finished (values index) := by
  have value?_eq (step : Progress α) (value : α)
      (known : step.value? = some value) :
      step = .finished value := by
    cases step <;> simp_all [Progress.value?]
  induction size with
  | zero =>
      exact index.elim0
  | succ size inductionHypothesis =>
      simp only [allFinished, Option.bind_eq_bind, Option.bind_eq_some_iff,
        Option.pure_def, Option.some.injEq] at finished
      obtain ⟨first, firstKnown, others, othersKnown, rfl⟩ := finished
      refine Fin.cases ?_ (fun later => ?_) index
      · exact value?_eq _ _ firstKnown
      · exact inductionHypothesis othersKnown later

/-- What polling leaves of a task returns what the task returns. -/
theorem returns_poll
    {α : Type} {task : Task α} {holds : α → Prop}
    (returns : task.Returns holds) (source : Source) (journal : Journal) :
    (task.poll source journal).1.rest.Returns holds := by
  induction task generalizing journal with
  | done value =>
      exact returns
  | failed error =>
      trivial
  | fetch request next inductionHypothesis =>
      simp only [poll]
      split
      · exact returns
      · split
        · next answer _ =>
            exact inductionHypothesis answer (returns answer) _
        · trivial
  | waiting request pauses next inductionHypothesis =>
      cases pauses with
      | succ pauses =>
          exact returns
      | zero =>
          simp only [poll]
          split
          · next answer _ =>
              exact inductionHypothesis answer (returns answer) _
          · trivial
  | join size members next membersHypothesis nextHypothesis =>
      obtain ⟨each, membersReturn, nextReturns⟩ := returns
      have polls :=
        polls_pollMembers (fun index => (members index).poll source) journal
      simp only [poll]
      split
      · trivial
      · next progress after polled =>
          rw [polled] at polls
          obtain _ | ⟨polledEach, _⟩ := polls
          -- A finished member counts as a task that is done, so every member keeps
          -- its claim, whatever the others did.
          have remains (index : Fin size) :
              (progress index).rest.Returns (each index) := by
            obtain ⟨moment, same⟩ := polledEach index
            rw [← same]
            exact membersHypothesis index (membersReturn index) moment
          split
          · next values finished =>
              apply nextHypothesis values
              apply nextReturns
              intro index
              have holdsIt := remains index
              rw [allFinished_eq_some finished index] at holdsIt
              exact holdsIt
          · exact ⟨each, remains, nextReturns⟩
  | turns crowd next inductionHypothesis =>
      simp only [poll]
      split
      · next values _ _ => exact inductionHypothesis values (returns values) _
      · trivial
      · exact returns

theorem holds_of_poll
    {α : Type} {task : Task α} {holds : α → Prop}
    (returns : task.Returns holds) {source : Source}
    {journal after : Journal} {value : α}
    (polled : task.poll source journal = (.finished value, after)) :
    holds value := by
  have remains := returns_poll returns source journal
  rw [polled] at remains
  exact remains

theorem returns_of_poll
    {α : Type} {task rest : Task α} {holds : α → Prop}
    (returns : task.Returns holds) {source : Source}
    {journal after : Journal}
    (polled : task.poll source journal = (.pending rest, after)) :
    rest.Returns holds := by
  have remains := returns_poll returns source journal
  rw [polled] at remains
  exact remains

/-- A task that is run to its end returns what it returns by polls. -/
theorem holds_of_settle
    {α : Type} {task : Task α} {holds : α → Prop}
    (returns : task.Returns holds) {source : Source}
    {journal after : Journal} {value : α}
    (settled : task.settle source journal = (.ok value, after)) :
    holds value := by
  fun_induction settle source task journal with
  | case1 task journal finished afterPoll polled =>
      simp only [Prod.mk.injEq, Except.ok.injEq] at settled
      obtain ⟨rfl, rfl⟩ := settled
      exact holds_of_poll returns polled
  | case2 task journal error afterPoll polled =>
      simp at settled
  | case3 task journal rest afterPoll polled inductionHypothesis =>
      exact inductionHypothesis (returns_of_poll returns polled) settled

end Task

end Stagecraft
