import Stagecraft.Loading.Crowd

/-!
# Backlogs

What a crowd still has to wait for. Every poll that leaves a crowd pending makes
it less, so that a crowd cannot be pending for ever.
-/

namespace Stagecraft

namespace Crowd

/-! ## Measures -/

def unstarted {β : Type} (queue : List (Errand β × Nat)) : Nat :=
  queue.countP fun entry => entry.1.pauses.isNone

/-- How often errands that have started will have to wait. -/
def owed {β : Type} : List (Errand β × Nat) → Nat
  | [] => 0
  | entry :: rest => entry.1.pauses.getD 0 + owed rest

theorem owed_append {β : Type} (front back : List (Errand β × Nat)) :
    owed (front ++ back) = owed front + owed back := by
  induction front with
  | nil => simp [owed]
  | cons entry rest inductionHypothesis =>
      simp only [List.cons_append, owed, inductionHypothesis]
      omega

/-- Whether a queue has less to wait for than another one: fewer errands to be
started, or as many and fewer waits. -/
def Shorter {β : Type} (rest queue : List (Errand β × Nat)) : Prop :=
  unstarted rest < unstarted queue ∨
    unstarted rest = unstarted queue ∧ owed rest < owed queue

/-! ## Progress -/

theorem Shorter.trans
    {β : Type} {first second third : List (Errand β × Nat)}
    (less : Shorter first second) (lessAgain : Shorter second third) :
    Shorter first third := by
  simp only [Shorter] at less lessAgain ⊢
  omega

/-- A queue without its first errand has no more to wait for. -/
theorem shorter_cons
    {β : Type} {rest others : List (Errand β × Nat)}
    (entry : Errand β × Nat) (less : Shorter rest others) :
    Shorter rest (entry :: others) := by
  simp only [Shorter, unstarted, owed, List.countP_cons] at less ⊢
  omega

/-- A queue has less to wait for after its first errand has waited. -/
theorem shorter_waiting
    {β : Type} {source : Source} {errand waiting : Errand β}
    {journal after : Journal}
    (polled : errand.poll source journal = (.inl waiting, after))
    (position : Nat) (others : List (Errand β × Nat)) :
    Shorter (others ++ [(waiting, position)])
      ((errand, position) :: others) := by
  simp only [Errand.poll] at polled
  split at polled
  · next notStarted =>
      split at polled
      · simp at polled
      · simp only [Prod.mk.injEq, Sum.inl.injEq] at polled
        obtain ⟨rfl, rfl⟩ := polled
        left
        simp [unstarted, notStarted]
  · simp at polled
  · next pauses started =>
      simp only [Prod.mk.injEq, Sum.inl.injEq] at polled
      obtain ⟨rfl, rfl⟩ := polled
      right
      simp [unstarted, owed, owed_append, started]
      omega

/-- A crowd that is left pending has less to wait for. -/
theorem shorter_pending
    {β : Type} {source : Source} {held : Bool} {crowd rest : Crowd β}
    {journal : Journal}
    (left : (crowd.poll source held journal).1 = .pending rest) :
    Shorter rest.queue crowd.queue := by
  fun_induction Crowd.poll source held crowd journal with
  | case1 => simp at left
  | case2 _ _ _ _ _ _ _ _ polled =>
      simp only [Crowd.Progress.pending.injEq] at left
      exact left ▸ shorter_waiting polled _ _
  | case3 _ _ _ _ _ _ _ _ polled _ _ inductionHypothesis =>
      exact (inductionHypothesis left).trans (shorter_waiting polled _ _)
  | case4 => simp at left
  | case5 _ _ _ _ _ _ _ _ _ _ _ inductionHypothesis =>
      exact shorter_cons _ (inductionHypothesis left)

end Crowd

end Stagecraft
