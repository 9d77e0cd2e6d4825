import Stagecraft.Content.Failure
import Stagecraft.Journal

/-!
# Sources

Where content comes from, and a fetch under way as a value.
-/

namespace Stagecraft

/-- Where content comes from: the answer to each fetch, and how often the
fetch that is started as the `ticket`-th entry of the journal keeps a load
waiting. -/
structure Source where
  answer : (fetch : Fetch) → Except LoadError fetch.Answer
  pauses : (ticket : Nat) → Fetch → Nat

def Source.since (source : Source) (start : Nat) : Source :=
  { source with pauses := fun ticket => source.pauses (ticket - start) }

/-- A fetch that is not over, with what becomes of its answer. It has not started
yet, or it has started and keeps waiting a number of times. -/
structure Errand (β : Type) where
  request : Fetch
  read : request.Answer → β
  pauses : Option Nat

namespace Errand

/-- The errand of a request that has not started. -/
def ofRequest (request : Fetch) : Errand request.Answer := ⟨request, id, none⟩

def result {β : Type} (source : Source) (errand : Errand β) :
    Except LoadError β :=
  (source.answer errand.request).map errand.read

/-- Polls an errand: it has to wait, or it has a result. Its fetch is noted in the
journal when it starts. -/
def poll {β : Type} (source : Source) (errand : Errand β) (journal : Journal) :
    (Errand β ⊕ Except LoadError β) × Journal :=
  match errand.pauses with
  | none =>
      let started := journal.push (.fetched errand.request)
      match source.pauses journal.size errand.request with
      | 0 => (.inr (errand.result source), started)
      | pauses + 1 =>
          (.inl ⟨errand.request, errand.read, some pauses⟩, started)
  | some 0 => (.inr (errand.result source), journal)
  | some (pauses + 1) =>
      (.inl ⟨errand.request, errand.read, some pauses⟩, journal)

end Errand

end Stagecraft
