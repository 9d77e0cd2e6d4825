import Mathlib.Data.List.Forall2
import Stagecraft.Content.Library
import Stagecraft.Loading.Settle

/-!
# Loads that match

Two sources of content match if they differ at most in which actors have a model.
Two loads match if they ask for the same and go on alike with answers that match;
polled in step they wait together, fail together, and end with results that
match.
-/

namespace Stagecraft

/-! ## Content without models -/

def ActorData.unseen (data : ActorData) : ActorData :=
  { data with model := none }

def SceneData.unseen (data : SceneData) : SceneData :=
  { data with actors := data.actors.map ActorData.unseen }

def ActorAsset.unseen (asset : ActorAsset) : ActorAsset :=
  ⟨asset.data.unseen, none⟩

namespace Fetch

/-- Whether two requests differ at most in the model of an actor. -/
def Matches : Fetch → Fetch → Prop
  | .scene language index, .scene otherLanguage other =>
      language = otherLanguage ∧ index = other
  | .actor environment ambience data, .actor otherEnvironment other others =>
      environment = otherEnvironment ∧ ambience = other ∧
        data.unseen = others.unseen
  | .scenery key ambience, .scenery otherKey other =>
      key = otherKey ∧ ambience = other
  | _, _ => False

def AnswersMatch :
    (request other : Fetch) → request.Answer → other.Answer → Prop
  | .scene _ _, .scene _ _, found, others =>
      SceneData.unseen found = SceneData.unseen others
  | .actor _ _ _, .actor _ _ _, found, others =>
      ActorAsset.unseen found = ActorAsset.unseen others
  | .scenery _ _, .scenery _ _, found, others =>
      (show Scenery from found) = others
  | _, _, _, _ => False

end Fetch

inductive ResultsMatch {α : Type} (related : α → α → Prop) :
    Except LoadError α → Except LoadError α → Prop
  | ok {value other : α} (same : related value other) :
      ResultsMatch related (.ok value) (.ok other)
  | error (error : LoadError) :
      ResultsMatch related (.error error) (.error error)

/-- Whether two sources differ at most in which actors have a model. -/
structure Source.Matches (source other : Source) : Prop where
  pauses (ticket : Nat) {request otherRequest : Fetch}
    (same : request.Matches otherRequest) :
    source.pauses ticket request = other.pauses ticket otherRequest
  answer {request otherRequest : Fetch}
    (same : request.Matches otherRequest) :
    (∃ value otherValue, source.answer request = .ok value ∧
      other.answer otherRequest = .ok otherValue ∧
      request.AnswersMatch otherRequest value otherValue) ∨
    ∃ error, source.answer request = .error error ∧
      other.answer otherRequest = .error error

/-- Folders match that have the same sceneries and scenes that differ at most in
models. -/
theorem Library.matches {library other : Library}
    {pauses : Nat → Fetch → Nat}
    (scenes : ∀ language index,
      ResultsMatch (fun found other : SceneData => found.unseen = other.unseen)
        (library.answer (.scene language index))
        (other.answer (.scene language index)))
    (sceneries : ∀ key ambience,
      library.answer (.scenery key ambience) =
        other.answer (.scenery key ambience))
    (blind : ∀ ticket request otherRequest, request.Matches otherRequest →
      pauses ticket request = pauses ticket otherRequest) :
    Source.Matches ⟨library.answer, pauses⟩ ⟨other.answer, pauses⟩ := by
  refine ⟨fun ticket _ _ same => blind ticket _ _ same, ?_⟩
  intro request otherRequest same
  cases request with
  | scene language index =>
      cases otherRequest with
      | scene _ _ =>
          obtain ⟨rfl, rfl⟩ := same
          have related := scenes language index
          dsimp only
          generalize library.answer (.scene language index) = found
            at related ⊢
          generalize other.answer (.scene language index) = others
            at related ⊢
          cases related with
          | ok same => exact .inl ⟨_, _, rfl, rfl, same⟩
          | error error => exact .inr ⟨error, rfl, rfl⟩
      | actor _ _ _ => exact same.elim
      | scenery _ _ => exact same.elim
  | actor environment ambience data =>
      cases otherRequest with
      | scene _ _ => exact same.elim
      | actor _ _ _ =>
          exact .inl ⟨_, _, rfl, rfl,
            congrArg (fun data => (⟨data, none⟩ : ActorAsset)) same.2.2⟩
      | scenery _ _ => exact same.elim
  | scenery key ambience =>
      cases otherRequest with
      | scene _ _ => exact same.elim
      | actor _ _ _ => exact same.elim
      | scenery _ _ =>
          obtain ⟨rfl, rfl⟩ := same
          have related := sceneries key ambience
          dsimp only
          rw [← related]
          cases library.answer (.scenery key ambience) with
          | ok scenery => exact .inl ⟨scenery, scenery, rfl, rfl, rfl⟩
          | error error => exact .inr ⟨error, rfl, rfl⟩

structure Journal.Matches (journal other : Journal) : Prop where
  size : journal.size = other.size
  warnings : journal.warnings = other.warnings

theorem Journal.Matches.fetched {journal other : Journal}
    (same : journal.Matches other) (request otherRequest : Fetch) :
    Journal.Matches (journal.push (.fetched request))
      (other.push (.fetched otherRequest)) := by
  refine ⟨by simp [same.size], ?_⟩
  have warnings := same.warnings
  simp only [Journal.warnings, Array.toList_push, List.filterMap_append]
    at warnings ⊢
  rw [warnings]
  rfl

/-! ## Crowds -/

structure Errand.Matches {β : Type} (related : β → β → Prop)
    (errand other : Errand β) : Prop where
  request : errand.request.Matches other.request
  pauses : errand.pauses = other.pauses
  read (answer : errand.request.Answer) (otherAnswer : other.request.Answer)
    (same : errand.request.AnswersMatch other.request answer otherAnswer) :
    related (errand.read answer) (other.read otherAnswer)

def Crowd.QueuesMatch {β : Type} (related : β → β → Prop) :
    List (Errand β × Nat) → List (Errand β × Nat) → Prop :=
  List.Forall₂ fun entry other =>
    entry.1.Matches related other.1 ∧ entry.2 = other.2

structure Crowd.Matches {β : Type} (related : β → β → Prop)
    (crowd other : Crowd β) : Prop where
  queue : Crowd.QueuesMatch related crowd.queue other.queue
  results : List.Forall₂ (Option.Rel (ResultsMatch related)) crowd.results
    other.results

inductive Crowd.ProgressMatches {β : Type} (related : β → β → Prop) :
    Crowd.Progress β → Crowd.Progress β → Prop
  | finished {values others : List β}
      (same : List.Forall₂ related values others) :
      ProgressMatches related (.finished values) (.finished others)
  | failed (error : LoadError) :
      ProgressMatches related (.failed error) (.failed error)
  | pending {rest other : Crowd β} (same : rest.Matches related other) :
      ProgressMatches related (.pending rest) (.pending other)

section Crowds

variable {β : Type} {related : β → β → Prop} {source other : Source}
  {journal otherJournal : Journal}

theorem Errand.Matches.result {errand otherErrand : Errand β}
    (same : errand.Matches related otherErrand)
    (sources : source.Matches other) :
    ResultsMatch related (errand.result source) (otherErrand.result other) := by
  rcases sources.answer same.request with
    ⟨value, otherValue, answered, otherAnswered, match_⟩ |
    ⟨error, answered, otherAnswered⟩
  · rw [Errand.result, Errand.result, answered, otherAnswered]
    exact .ok (same.read value otherValue match_)
  · rw [Errand.result, Errand.result, answered, otherAnswered]
    exact .error error

/-- Errands that match wait together or are over together. -/
theorem Errand.Matches.poll {errand otherErrand : Errand β}
    (same : errand.Matches related otherErrand)
    (sources : source.Matches other) (journals : journal.Matches otherJournal) :
    (errand.poll source journal).2.Matches
        (otherErrand.poll other otherJournal).2 ∧
      ((∃ waiting otherWaiting,
          (errand.poll source journal).1 = .inl waiting ∧
          (otherErrand.poll other otherJournal).1 = .inl otherWaiting ∧
          waiting.Matches related otherWaiting) ∨
        ∃ result otherResult,
          (errand.poll source journal).1 = .inr result ∧
          (otherErrand.poll other otherJournal).1 = .inr otherResult ∧
          ResultsMatch related result otherResult) := by
  have noted := journals.fetched errand.request otherErrand.request
  have results := same.result sources
  have held (pauses : Nat) : Errand.Matches related
      ⟨errand.request, errand.read, some pauses⟩
      ⟨otherErrand.request, otherErrand.read, some pauses⟩ :=
    ⟨same.request, rfl, same.read⟩
  unfold Errand.poll
  rw [← same.pauses]
  cases errand.pauses with
  | none =>
      simp only [← journals.size, ← sources.pauses journal.size same.request]
      cases source.pauses journal.size errand.request with
      | zero => exact ⟨noted, .inr ⟨_, _, rfl, rfl, results⟩⟩
      | succ pauses => exact ⟨noted, .inl ⟨_, _, rfl, rfl, held pauses⟩⟩
  | some pauses =>
      cases pauses with
      | zero => exact ⟨journals, .inr ⟨_, _, rfl, rfl, results⟩⟩
      | succ pauses => exact ⟨journals, .inl ⟨_, _, rfl, rfl, held pauses⟩⟩

theorem Errand.Matches.poll_inl {errand otherErrand waiting : Errand β}
    {after : Journal} (same : errand.Matches related otherErrand)
    (sources : source.Matches other) (journals : journal.Matches otherJournal)
    (polled : errand.poll source journal = (.inl waiting, after)) :
    ∃ otherWaiting otherAfter,
      otherErrand.poll other otherJournal = (.inl otherWaiting, otherAfter) ∧
      waiting.Matches related otherWaiting ∧ after.Matches otherAfter := by
  obtain ⟨noted, held | ended⟩ := same.poll sources journals
  · obtain ⟨_, otherWaiting, isHeld, otherHeld, sameWaiting⟩ := held
    rw [polled] at noted isHeld
    cases isHeld
    exact ⟨otherWaiting, _, Prod.ext otherHeld rfl, sameWaiting, noted⟩
  · obtain ⟨_, _, isOver, _⟩ := ended
    rw [polled] at isOver
    cases isOver

theorem Errand.Matches.poll_inr {errand otherErrand : Errand β}
    {result : Except LoadError β} {after : Journal}
    (same : errand.Matches related otherErrand)
    (sources : source.Matches other) (journals : journal.Matches otherJournal)
    (polled : errand.poll source journal = (.inr result, after)) :
    ∃ otherResult otherAfter,
      otherErrand.poll other otherJournal = (.inr otherResult, otherAfter) ∧
      ResultsMatch related result otherResult ∧ after.Matches otherAfter := by
  obtain ⟨noted, held | ended⟩ := same.poll sources journals
  · obtain ⟨_, _, isHeld, _⟩ := held
    rw [polled] at isHeld
    cases isHeld
  · obtain ⟨_, otherResult, isOver, otherOver, sameResult⟩ := ended
    rw [polled] at noted isOver
    cases isOver
    exact ⟨otherResult, _, Prod.ext otherOver rfl, sameResult, noted⟩

theorem Crowd.failure?_matches
    {results others : List (Option (Except LoadError β))}
    (same : List.Forall₂ (Option.Rel (ResultsMatch related)) results others) :
    Crowd.failure? results = Crowd.failure? others := by
  induction same with
  | nil => rfl
  | cons first rest inductionHypothesis =>
      cases first with
      | none => rfl
      | some same =>
          cases same with
          | ok _ => exact inductionHypothesis
          | error _ => rfl

theorem Crowd.values_matches
    {results others : List (Option (Except LoadError β))}
    (same : List.Forall₂ (Option.Rel (ResultsMatch related)) results others) :
    List.Forall₂ related (Crowd.values results) (Crowd.values others) := by
  induction same with
  | nil => exact .nil
  | cons first rest inductionHypothesis =>
      cases first with
      | none => exact inductionHypothesis
      | some same =>
          cases same with
          | ok same => exact .cons same inductionHypothesis
          | error _ => exact inductionHypothesis

theorem forall₂_set {γ : Type} {relation : γ → γ → Prop}
    {items others : List γ} (same : List.Forall₂ relation items others)
    (position : Nat) {item other : γ} (new : relation item other) :
    List.Forall₂ relation (items.set position item)
      (others.set position other) := by
  induction same generalizing position with
  | nil => exact .nil
  | cons first rest inductionHypothesis =>
      cases position with
      | zero => exact .cons new rest
      | succ position => exact .cons first (inductionHypothesis position)

/-- The first entries of queues that match, and the queues after them. -/
theorem Crowd.QueuesMatch.uncons {errand : Errand β} {position : Nat}
    {others queue : List (Errand β × Nat)}
    (same : Crowd.QueuesMatch related ((errand, position) :: others) queue) :
    ∃ otherErrand rest, queue = (otherErrand, position) :: rest ∧
      errand.Matches related otherErrand ∧
      Crowd.QueuesMatch related others rest ∧ others.isEmpty = rest.isEmpty := by
  cases same with
  | @cons _ entry _ rest first later =>
      obtain ⟨otherErrand, otherPosition⟩ := entry
      obtain ⟨sameErrand, rfl⟩ := first
      refine ⟨otherErrand, rest, rfl, sameErrand, later, ?_⟩
      cases later <;> rfl

theorem Crowd.QueuesMatch.requeue {others rest : List (Errand β × Nat)}
    (same : Crowd.QueuesMatch related others rest) {errand other : Errand β}
    (sameErrand : errand.Matches related other) (position : Nat) :
    Crowd.QueuesMatch related (others ++ [(errand, position)])
      (rest ++ [(other, position)]) :=
  List.rel_append same (.cons ⟨sameErrand, rfl⟩ .nil)

/-- Crowds that match take the same turns. -/
theorem Crowd.Matches.poll {crowd otherCrowd : Crowd β}
    (same : crowd.Matches related otherCrowd) (held : Bool)
    (sources : source.Matches other) (journals : journal.Matches otherJournal) :
    (crowd.poll source held journal).2.Matches
        (otherCrowd.poll other held otherJournal).2 ∧
      Crowd.ProgressMatches related (crowd.poll source held journal).1
        (otherCrowd.poll other held otherJournal).1 := by
  revert otherCrowd otherJournal
  -- The queues have the same places in the same order, so each turn goes to
  -- counterparts and both rounds end together.
  fun_induction Crowd.poll source held crowd journal with
  | case1 held journal results =>
      rintro _ ⟨queue, otherResults⟩ ⟨same, known⟩ journals
      cases same
      rw [Crowd.poll]
      exact ⟨journals, .finished (Crowd.values_matches known)⟩
  | case2 held journal errand position others results waiting after polled
      rest =>
      rename_i ends
      rintro _ ⟨queue, otherResults⟩ ⟨same, known⟩ journals
      obtain ⟨otherErrand, otherRest, rfl, sameErrand, later, sameEnd⟩ :=
        same.uncons
      obtain ⟨otherWaiting, otherAfter, otherPolled, sameWaiting, noted⟩ :=
        sameErrand.poll_inl sources journals polled
      rw [Crowd.poll, otherPolled]
      simp only [← sameEnd, ends, if_true]
      exact ⟨noted, .pending ⟨later.requeue sameWaiting position, known⟩⟩
  | case3 held journal errand position others results waiting after polled
      rest goesOn =>
      rename_i inductionHypothesis
      rintro _ ⟨queue, otherResults⟩ ⟨same, known⟩ journals
      obtain ⟨otherErrand, otherRest, rfl, sameErrand, later, sameEnd⟩ :=
        same.uncons
      obtain ⟨otherWaiting, otherAfter, otherPolled, sameWaiting, noted⟩ :=
        sameErrand.poll_inl sources journals polled
      rw [Crowd.poll, otherPolled]
      simp only [← sameEnd, goesOn]
      exact inductionHypothesis
        ⟨later.requeue sameWaiting position, known⟩ noted
  | case4 held journal errand position others results result after polled all
      error =>
      rename_i failed
      rintro _ ⟨queue, otherResults⟩ ⟨same, known⟩ journals
      obtain ⟨otherErrand, otherRest, rfl, sameErrand, later, sameEnd⟩ :=
        same.uncons
      obtain ⟨otherResult, otherAfter, otherPolled, sameResult, noted⟩ :=
        sameErrand.poll_inr sources journals polled
      have sameFailure :=
        Crowd.failure?_matches (forall₂_set known position (.some sameResult))
      rw [Crowd.poll, otherPolled]
      simp only [sameFailure.symm.trans failed]
      exact ⟨noted, .failed error⟩
  | case5 held journal errand position others results result after polled all
      goesOn =>
      rename_i inductionHypothesis
      rintro _ ⟨queue, otherResults⟩ ⟨same, known⟩ journals
      obtain ⟨otherErrand, otherRest, rfl, sameErrand, later, sameEnd⟩ :=
        same.uncons
      obtain ⟨otherResult, otherAfter, otherPolled, sameResult, noted⟩ :=
        sameErrand.poll_inr sources journals polled
      have sameKnown := forall₂_set known position (.some sameResult)
      have sameFailure := Crowd.failure?_matches sameKnown
      rw [Crowd.poll, otherPolled]
      simp only [sameFailure.symm.trans goesOn]
      exact inductionHypothesis ⟨later, sameKnown⟩ noted

end Crowds

end Stagecraft
