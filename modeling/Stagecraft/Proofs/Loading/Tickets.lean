import Stagecraft.Loading.Settle

/-!
# Loads and the journal before them

A load adds its fetches to the journal, and the pauses of a source go by how far
the journal has grown. A source that counts from a moment on makes a load go as if
the journal had begun at that moment.
-/

namespace Stagecraft

universe u

/-- An outcome with a journal that was there before. -/
def Journal.onto {α : Type u} (start : Journal) (outcome : α × Journal) :
    α × Journal :=
  (outcome.1, start ++ outcome.2)

namespace Journal

@[simp]
theorem onto_mk {α : Type u} (start : Journal) (outcome : α)
    (journal : Journal) :
    start.onto (outcome, journal) = (outcome, start ++ journal) :=
  rfl

@[simp]
theorem size_append_sub (start journal : Journal) :
    (start ++ journal).size - start.size = journal.size := by
  simp

end Journal

/-! ## Errands and crowds -/

theorem Errand.poll_since {β : Type} (source : Source) (errand : Errand β)
    (start journal : Journal) :
    errand.poll (source.since start.size) (start ++ journal) =
      start.onto (errand.poll source journal) := by
  unfold Errand.poll
  cases errand.pauses with
  | none =>
      simp only [Source.since, Journal.size_append_sub, Array.push_append]
      cases source.pauses journal.size errand.request with
      | zero => rfl
      | succ pauses => rfl
  | some pauses =>
      cases pauses with
      | zero => rfl
      | succ pauses => rfl

theorem Crowd.poll_since {β : Type} (source : Source) (held : Bool)
    (crowd : Crowd β) (start journal : Journal) :
    crowd.poll (source.since start.size) held (start ++ journal) =
      start.onto (crowd.poll source held journal) := by
  fun_induction Crowd.poll source held crowd journal with
  | case1 held results journal =>
      rw [Crowd.poll]
      rfl
  | case2 held journal errand position others results waiting after polled rest
      ends =>
      rw [Crowd.poll, errand.poll_since, polled]
      simp [ends, rest]
  | case3 held journal errand position others results waiting after polled rest
      goesOn inductionHypothesis =>
      rw [Crowd.poll, errand.poll_since, polled]
      simp [goesOn, rest, inductionHypothesis]
  | case4 held journal errand position others results result after polled known
      error failed =>
      rw [Crowd.poll, errand.poll_since, polled]
      simp [failed, known]
  | case5 held journal errand position others results result after polled known
      goesOn inductionHypothesis =>
      rw [Crowd.poll, errand.poll_since, polled]
      simp [goesOn, known, inductionHypothesis]

/-! ## Tasks -/

namespace Task

theorem pollMembers_onto {α : Type} (start : Journal) {size : Nat}
    {members later : Fin size → Polling α}
    (same : ∀ index journal,
      later index (start ++ journal) = start.onto (members index journal))
    (journal : Journal) :
    pollMembers size later (start ++ journal) =
      start.onto (pollMembers size members journal) := by
  induction size generalizing journal with
  | zero => rfl
  | succ size inductionHypothesis =>
      have others := inductionHypothesis fun index => same index.succ
      rw [pollMembers_succ, pollMembers_succ, same]
      cases members 0 journal with
      | mk first after =>
          cases first with
          | failed error => rfl
          | finished value => simp only [Journal.onto, others]
          | pending rest => simp only [Journal.onto, others]

theorem poll_since {α : Type} (source : Source) (task : Task α)
    (start journal : Journal) :
    task.poll (source.since start.size) (start ++ journal) =
      start.onto (task.poll source journal) := by
  -- A ticket is the size of the journal when a fetch begins, so a source that
  -- counts from the end of `start` makes the fetch wait as long as before.
  induction task generalizing journal with
  | done value =>
      rfl
  | failed error =>
      rfl
  | fetch request next inductionHypothesis =>
      simp only [poll, Source.since, Journal.size_append_sub,
        Array.push_append]
      cases source.pauses journal.size request with
      | succ pauses =>
          rfl
      | zero =>
          cases source.answer request with
          | ok answer => exact inductionHypothesis answer _
          | error error => rfl
  | waiting request pauses next inductionHypothesis =>
      cases pauses with
      | succ pauses =>
          rfl
      | zero =>
          simp only [poll, Source.since]
          cases source.answer request with
          | ok answer => exact inductionHypothesis answer _
          | error error => rfl
  | join size members next membersHypothesis nextHypothesis =>
      have membersSame :=
        pollMembers_onto start membersHypothesis journal
      simp only [poll, membersSame]
      cases pollMembers size (fun index => (members index).poll source)
        journal with
      | mk result after =>
          cases result with
          | error error =>
              rfl
          | ok progress =>
              simp only [Journal.onto_mk]
              cases allFinished size progress with
              | none => rfl
              | some values => exact nextHypothesis values after
  | turns crowd next inductionHypothesis =>
      simp only [poll, crowd.poll_since]
      cases crowd.poll source false journal with
      | mk progress after =>
          cases progress with
          | finished values => exact inductionHypothesis values after
          | failed error => rfl
          | pending rest => rfl

theorem settle_since {α : Type} (source : Source) (task : Task α)
    (start journal : Journal) :
    task.settle (source.since start.size) (start ++ journal) =
      start.onto (task.settle source journal) := by
  fun_induction settle source task journal with
  | case1 task journal value after polled =>
      rw [settle, poll_since, polled]
      rfl
  | case2 task journal error after polled =>
      rw [settle, poll_since, polled]
      rfl
  | case3 task journal rest after polled inductionHypothesis =>
      rw [settle, poll_since, polled]
      exact inductionHypothesis

end Task

end Stagecraft
