import Mathlib.Data.List.Nodup
import Stagecraft.Loading.Backlog

/-!
# What crowds come to

Taking turns does not change what a crowd comes to. The members keep their
positions, so that it does not matter who answers first, and a failure counts only
when everybody in front of it has answered.
-/

namespace Stagecraft

namespace Crowd

variable {β : Type}

/-! ## Answers at their positions -/

/-- The results once everybody in a queue has answered. -/
def answered (source : Source) (queue : List (Errand β × Nat))
    (results : List (Option (Except LoadError β))) :
    List (Option (Except LoadError β)) :=
  queue.foldl
    (fun results (errand, position) =>
      results.set position (some (errand.result source)))
    results

def verdict (results : List (Option (Except LoadError β))) :
    Except LoadError (List β) :=
  match failure? results with
  | some error => .error error
  | none => .ok (values results)

theorem run_eq (source : Source) (crowd : Crowd β) :
    crowd.run source =
      verdict (answered source crowd.queue crowd.results) := rfl

/-- Answers at different positions can be given in any order. -/
theorem answered_set
    {source : Source} {queue : List (Errand β × Nat)} {position : Nat}
    (apart : position ∉ queue.map Prod.snd)
    (results : List (Option (Except LoadError β)))
    (answer : Option (Except LoadError β)) :
    answered source queue (results.set position answer) =
      (answered source queue results).set position answer := by
  induction queue generalizing results with
  | nil => rfl
  | cons entry rest inductionHypothesis =>
      rw [List.map_cons, List.mem_cons, not_or] at apart
      simp only [answered, List.foldl_cons]
      rw [List.set_comm _ _ apart.1]
      exact inductionHypothesis apart.2 _

theorem answered_append
    (source : Source) (front back : List (Errand β × Nat))
    (results : List (Option (Except LoadError β))) :
    answered source (front ++ back) results =
      answered source back (answered source front results) :=
  List.foldl_append

/-- A failure that is known stays the first one, whatever is answered where
nothing was known. -/
theorem failure?_set
    {results : List (Option (Except LoadError β))} {position : Nat}
    {error : LoadError} (awaited : results[position]? = some none)
    (failed : failure? results = some error)
    (answer : Except LoadError β) :
    failure? (results.set position (some answer)) = some error := by
  induction results generalizing position with
  | nil => simp [failure?] at failed
  | cons first rest inductionHypothesis =>
      cases first with
      | none => simp [failure?] at failed
      | some known =>
          cases position with
          | zero => simp at awaited
          | succ position =>
              cases known with
              | error other => exact failed
              | ok value => exact inductionHypothesis awaited failed

/-! ## Order -/

/-- Whether everybody in a queue has a position of its own without a result. -/
structure Awaits (queue : List (Errand β × Nat))
    (results : List (Option (Except LoadError β))) : Prop where
  distinct : (queue.map Prod.snd).Nodup
  awaited : ∀ position ∈ queue.map Prod.snd, results[position]? = some none

/-- Whether a crowd is in order: it waits for everybody in its queue, and the
known results leave it open what it comes to. -/
structure Orderly (crowd : Crowd β) : Prop where
  awaits : Awaits crowd.queue crowd.results
  undecided : failure? crowd.results = none

theorem orderly_ofList (errands : List (Errand β)) :
    (ofList errands).Orderly where
  awaits := by
    constructor
    · rw [ofList, List.zipIdx_map_snd]
      exact List.nodup_range'
    · intro position member
      simp only [ofList, List.zipIdx_map_snd, List.mem_range'_1,
        Nat.zero_le, Nat.zero_add, true_and] at member
      simp [ofList, member]
  undecided := by
    cases errands <;> rfl

section Turns

variable {errand : Errand β} {position : Nat}
  {others : List (Errand β × Nat)}
  {results : List (Option (Except LoadError β))}

theorem Awaits.apart
    (awaits : Awaits ((errand, position) :: others) results) :
    position ∉ others.map Prod.snd :=
  (List.nodup_cons.mp awaits.distinct).1

/-- The others are still waited for when the first one has answered. -/
theorem Awaits.answer
    (awaits : Awaits ((errand, position) :: others) results)
    (result : Except LoadError β) :
    Awaits others (results.set position (some result)) where
  distinct := (List.nodup_cons.mp awaits.distinct).2
  awaited other member := by
    have different : position ≠ other := by
      rintro rfl
      exact awaits.apart member
    rw [List.getElem?_set_ne different]
    exact awaits.awaited other (List.mem_cons_of_mem _ member)

/-- Everybody is still waited for when the first one goes to the end. -/
theorem Awaits.rotate
    (awaits : Awaits ((errand, position) :: others) results)
    (waiting : Errand β) :
    Awaits (others ++ [(waiting, position)]) results where
  distinct := by
    rw [List.map_append, List.map_singleton]
    exact List.nodup_append_comm.mp awaits.distinct
  awaited other member := by
    refine awaits.awaited other ?_
    simp only [List.map_append, List.map_cons, List.map_nil,
      List.mem_append, List.mem_singleton] at member
    exact List.mem_cons.mpr member.symm

theorem Orderly.rotate
    (orderly : Orderly ⟨(errand, position) :: others, results⟩)
    (waiting : Errand β) :
    Orderly ⟨others ++ [(waiting, position)], results⟩ :=
  ⟨orderly.awaits.rotate waiting, orderly.undecided⟩

/-- A crowd stays in order when its first member has answered, unless the answer
decides what the crowd comes to. -/
theorem Orderly.answer
    (orderly : Orderly ⟨(errand, position) :: others, results⟩)
    {result : Except LoadError β}
    (undecided : failure? (results.set position (some result)) = none) :
    Orderly ⟨others, results.set position (some result)⟩ :=
  ⟨orderly.awaits.answer result, undecided⟩

/-- What a crowd comes to does not change when its first member goes to the
end. -/
theorem Orderly.run_rotate
    (orderly : Orderly ⟨(errand, position) :: others, results⟩)
    {source : Source} {waiting : Errand β}
    (same : waiting.result source = errand.result source) :
    run source ⟨others ++ [(waiting, position)], results⟩ =
      run source ⟨(errand, position) :: others, results⟩ := by
  have moved :
      answered source others (results.set position
          (some (errand.result source))) =
        (answered source others results).set position
          (some (errand.result source)) :=
    answered_set orderly.awaits.apart results _
  rw [run_eq, run_eq, answered_append]
  refine congrArg verdict ?_
  calc answered source [(waiting, position)] (answered source others results)
      = (answered source others results).set position
          (some (errand.result source)) := by rw [← same]; rfl
    _ = answered source ((errand, position) :: others) results :=
      moved.symm

end Turns

/-- A failure that is known is the first one in the end. -/
theorem failure?_answered
    {source : Source} {queue : List (Errand β × Nat)}
    {results : List (Option (Except LoadError β))} {error : LoadError}
    (awaits : Awaits queue results) (failed : failure? results = some error) :
    failure? (answered source queue results) = some error := by
  induction queue generalizing results with
  | nil => exact failed
  | cons entry rest inductionHypothesis =>
      have isAwaited : results[entry.2]? = some none :=
        awaits.awaited entry.2 List.mem_cons_self
      exact inductionHypothesis (awaits.answer _)
        (failure?_set isAwaited failed _)

/-! ## Polls -/

/-- What a crowd comes to after a poll. -/
def Progress.run (source : Source) :
    Progress β → Except LoadError (List β)
  | .finished values => .ok values
  | .failed error => .error error
  | .pending rest => rest.run source

theorem result_of_poll_waiting
    {source : Source} {errand waiting : Errand β} {journal after : Journal}
    (polled : errand.poll source journal = (.inl waiting, after)) :
    waiting.result source = errand.result source := by
  unfold Errand.poll at polled
  split at polled
  · dsimp only at polled
    split at polled
    · simp at polled
    · simp only [Prod.mk.injEq, Sum.inl.injEq] at polled
      obtain ⟨rfl, _⟩ := polled
      rfl
  · simp at polled
  · simp only [Prod.mk.injEq, Sum.inl.injEq] at polled
    obtain ⟨rfl, _⟩ := polled
    rfl

theorem result_of_poll_over
    {source : Source} {errand : Errand β} {journal after : Journal}
    {result : Except LoadError β}
    (polled : errand.poll source journal = (.inr result, after)) :
    result = errand.result source := by
  unfold Errand.poll at polled
  split at polled
  · dsimp only at polled
    split at polled
    · simp only [Prod.mk.injEq, Sum.inr.injEq] at polled
      exact polled.1.symm
    · simp at polled
  · simp only [Prod.mk.injEq, Sum.inr.injEq] at polled
    exact polled.1.symm
  · simp at polled

/-- A poll does not change what a crowd comes to, and a failure that it tells is
that of the crowd. -/
theorem run_poll
    {source : Source} {held : Bool} {crowd : Crowd β} (orderly : crowd.Orderly)
    (journal : Journal) :
    (crowd.poll source held journal).1.run source = crowd.run source := by
  fun_induction Crowd.poll source held crowd journal with
  | case1 held journal results =>
      show Except.ok (values results) = verdict results
      rw [verdict, orderly.undecided]
  | case2 held journal errand position others results waiting after polled =>
      exact orderly.run_rotate (result_of_poll_waiting polled)
  | case3 held journal errand position others results waiting after polled _ _
      inductionHypothesis =>
      rw [inductionHypothesis (orderly.rotate waiting)]
      exact orderly.run_rotate (result_of_poll_waiting polled)
  | case4 held journal errand position others results result after polled known
      error failed =>
      obtain rfl := result_of_poll_over polled
      have decided : failure? (answered source others known) = some error :=
        failure?_answered (orderly.awaits.answer _) failed
      show Except.error error = verdict (answered source others known)
      rw [verdict, decided]
  | case5 held journal errand position others results result after polled known
      undecided inductionHypothesis =>
      rw [inductionHypothesis (orderly.answer undecided)]
      obtain rfl := result_of_poll_over polled
      rfl

theorem orderly_of_poll
    {source : Source} {held : Bool} {crowd rest : Crowd β} {journal : Journal}
    (orderly : crowd.Orderly)
    (left : (crowd.poll source held journal).1 = .pending rest) :
    rest.Orderly := by
  fun_induction Crowd.poll source held crowd journal with
  | case1 => simp at left
  | case2 held journal errand position others results waiting after polled =>
      simp only [Progress.pending.injEq] at left
      exact left ▸ orderly.rotate waiting
  | case3 held journal errand position others results waiting after polled _ _
      inductionHypothesis =>
      exact inductionHypothesis (orderly.rotate waiting) left
  | case4 => simp at left
  | case5 held journal errand position others results result after polled known
      undecided inductionHypothesis =>
      exact inductionHypothesis (orderly.answer undecided) left

/-- If nobody has started and no fetch has to wait, a crowd is over after one
poll. -/
theorem not_pending_of_prompt
    {source : Source} (prompt : ∀ ticket request,
      source.pauses ticket request = 0)
    {held : Bool} {crowd rest : Crowd β} {journal : Journal}
    (unbegun : ∀ entry ∈ crowd.queue, entry.1.pauses = none) :
    (crowd.poll source held journal).1 ≠ .pending rest := by
  have isOver (errand : Errand β) (journal : Journal)
      (notStarted : errand.pauses = none) :
      ∃ result after, errand.poll source journal = (.inr result, after) := by
    simp [Errand.poll, notStarted, prompt]
  fun_induction Crowd.poll source held crowd journal with
  | case1 => simp
  | case2 held journal errand position others results waiting after polled =>
      obtain ⟨result, after, same⟩ :=
        isOver errand journal (unbegun _ List.mem_cons_self)
      simp [same] at polled
  | case3 held journal errand position others results waiting after polled =>
      obtain ⟨result, after, same⟩ :=
        isOver errand journal (unbegun _ List.mem_cons_self)
      simp [same] at polled
  | case4 => simp
  | case5 held journal errand position others results result after polled known
      undecided inductionHypothesis =>
      exact inductionHypothesis fun entry member =>
        unbegun entry (List.mem_cons_of_mem _ member)

end Crowd

end Stagecraft
