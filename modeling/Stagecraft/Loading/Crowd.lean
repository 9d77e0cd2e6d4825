import Stagecraft.Loading.Source

/-!
# Crowds

Errands that are too many to be polled all together. They stand in a queue and
take turns, and a poll ends as soon as two of them in a row have to wait. Their
results count in the order of the errands, whichever of them is over first.
-/

namespace Stagecraft

/-- Errands that take turns: those that are not over, each with its position, and
the results by position. -/
structure Crowd (β : Type) where
  queue : List (Errand β × Nat)
  results : List (Option (Except LoadError β))

namespace Crowd

/-- A crowd in which nobody has had a turn. -/
def ofList {β : Type} (errands : List (Errand β)) : Crowd β :=
  ⟨errands.zipIdx, errands.map fun _ => none⟩

/-! ## Results -/

/-- The first failure among results, if all results before it are known. -/
def failure? {β : Type} : List (Option (Except LoadError β)) →
    Option LoadError
  | some (.ok _) :: rest => failure? rest
  | some (.error error) :: _ => some error
  | _ => none

def values {β : Type} (results : List (Option (Except LoadError β))) :
    List β :=
  results.filterMap fun result => result.bind Except.toOption

/-- The values of all members, or the first failure, if nobody has to wait. -/
def run {β : Type} (source : Source) (crowd : Crowd β) :
    Except LoadError (List β) :=
  let results :=
    crowd.queue.foldl
      (fun results (errand, position) =>
        results.set position (some (errand.result source)))
      crowd.results
  match failure? results with
  | some error => .error error
  | none => .ok (values results)

/-! ## Turns -/

inductive Progress (β : Type) where
  | finished (values : List β)
  | failed (error : LoadError)
  | pending (rest : Crowd β)

/-- Lets the members take turns. One that has to wait goes to the end of the
queue. The poll ends when the only one left has to wait, or one right after
another that had to: `held` tells whether the last one had to. -/
def poll {β : Type} (source : Source) (held : Bool) (crowd : Crowd β)
    (journal : Journal) : Progress β × Journal :=
  match crowd with
  | ⟨[], results⟩ => (.finished (values results), journal)
  | ⟨(errand, position) :: others, results⟩ =>
      match errand.poll source journal with
      | (.inl waiting, after) =>
          let rest : Crowd β := ⟨others ++ [(waiting, position)], results⟩
          if held || others.isEmpty then
            (.pending rest, after)
          else
            poll source true rest after
      | (.inr result, after) =>
          let known := results.set position (some result)
          match failure? known with
          | some error => (.failed error, after)
          | none => poll source false ⟨others, known⟩ after
termination_by 2 * crowd.queue.length + (if held then 0 else 1)
decreasing_by all_goals simp_all <;> omega

end Crowd

end Stagecraft
