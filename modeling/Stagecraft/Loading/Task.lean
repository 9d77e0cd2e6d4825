import Stagecraft.Loading.Crowd

/-!
# Tasks

A load in progress as a value: what it fetches next and how it goes on with the
answer. Polling a task lets it run until it waits for a fetch, finishes or fails;
`Task.run` is the result that it comes to when nothing is waited for.
-/

namespace Stagecraft

/-- A load that ends with a value. The members of a joined group run side by
side, those of a crowd take turns. -/
inductive Task : Type → Type 1 where
  | done {α : Type} (value : α) : Task α
  | failed {α : Type} (error : LoadError) : Task α
  | fetch {α : Type} (request : Fetch) (next : request.Answer → Task α) :
      Task α
  | waiting {α : Type} (request : Fetch) (pauses : Nat)
      (next : request.Answer → Task α) : Task α
  | join {α β : Type} (size : Nat) (members : Fin size → Task β)
      (next : (Fin size → β) → Task α) : Task α
  | turns {α β : Type} (crowd : Crowd β) (next : List β → Task α) : Task α

universe u

namespace Task

/-! ## Groups of values -/

/-- A group of values with one more in front. Asking for one value computes that
value alone. -/
def inFront {α : Type u} {size : Nat} (first : α) (others : Fin size → α) :
    Fin (size + 1) → α
  | ⟨0, _⟩ => first
  | ⟨position + 1, bound⟩ => others ⟨position, Nat.lt_of_succ_lt_succ bound⟩

@[simp]
theorem inFront_zero {α : Type u} {size : Nat} (first : α)
    (others : Fin size → α) :
    inFront first others 0 = first := rfl

@[simp]
theorem inFront_succ {α : Type u} {size : Nat} (first : α)
    (others : Fin size → α) (index : Fin size) :
    inFront first others index.succ = others index := rfl

/-! ## Building tasks -/

def andThen {α β : Type} (task : Task α) (after : α → Task β) : Task β :=
  match task with
  | .done value => after value
  | .failed error => .failed error
  | .fetch request next => .fetch request fun answer => (next answer).andThen after
  | .waiting request pauses next =>
      .waiting request pauses fun answer => (next answer).andThen after
  | .join size members next =>
      .join size members fun values => (next values).andThen after
  | .turns crowd next =>
      .turns crowd fun values => (next values).andThen after

instance : Monad Task where
  pure := .done
  bind := andThen

def ask (request : Fetch) : Task request.Answer :=
  .fetch request .done

def ofExcept {α : Type} : Except LoadError α → Task α
  | .ok value => .done value
  | .error error => .failed error

/-- The values of tasks that run side by side. -/
def together {α : Type} (tasks : List (Task α)) : Task (List α) :=
  .join tasks.length (fun index => tasks[index])
    fun values => .done (List.ofFn values)

/-- The largest number of errands that are polled all together. -/
def groupLimit : Nat := 30

/-- The values of errands that are run side by side. Beyond a certain number they
take turns. -/
def runErrands {α : Type} (errands : List (Errand α)) : Task (List α) :=
  if errands.length ≤ groupLimit then
    together <| errands.map fun errand =>
      .fetch errand.request fun answer => .done (errand.read answer)
  else
    .turns (.ofList errands) .done

/-! ## The result of a task -/

def collect {α : Type} : (size : Nat) → (Fin size → Except LoadError α) →
    Except LoadError (Fin size → α)
  | 0, _ => .ok fun index => index.elim0
  | size + 1, results =>
      match results 0 with
      | .error error => .error error
      | .ok first =>
          match collect size fun index => results index.succ with
          | .error error => .error error
          | .ok others => .ok (inFront first others)

/-- What a task comes to if its fetches are answered one after the other. -/
@[simp]
def run {α : Type} (source : Source) : Task α → Except LoadError α
  | .done value => .ok value
  | .failed error => .error error
  | .fetch request next =>
      match source.answer request with
      | .ok answer => run source (next answer)
      | .error error => .error error
  | .waiting request _ next =>
      match source.answer request with
      | .ok answer => run source (next answer)
      | .error error => .error error
  | .join size members next =>
      match collect size fun index => run source (members index) with
      | .ok values => run source (next values)
      | .error error => .error error
  | .turns crowd next =>
      match crowd.run source with
      | .ok values => run source (next values)
      | .error error => .error error

/-! ## Polling -/

inductive Progress (α : Type) : Type 1 where
  | finished (value : α)
  | failed (error : LoadError)
  | pending (rest : Task α)

def Progress.rest {α : Type} : Progress α → Task α
  | .finished value => .done value
  | .failed error => .failed error
  | .pending rest => rest

def Progress.value? {α : Type} : Progress α → Option α
  | .finished value => some value
  | _ => none

/-- A task as a function of the journal: what polling it leads to. -/
abbrev Polling (α : Type) := Journal → Progress α × Journal

/-- Polls the members of a group in order. The first one that fails ends the
group, and the ones after it are not polled. -/
def pollMembers {α : Type} : (size : Nat) → (Fin size → Polling α) → Journal →
    Except LoadError (Fin size → Progress α) × Journal
  | 0, _, journal => (.ok fun index => index.elim0, journal)
  | size + 1, members, journal =>
      match members 0 journal with
      | (.failed error, after) => (.error error, after)
      | (first, after) =>
          match pollMembers size (fun index => members index.succ) after with
          | (.error error, afterAll) => (.error error, afterAll)
          | (.ok others, afterAll) => (.ok (inFront first others), afterAll)

/-- The values of a group whose members have all finished. -/
def allFinished {α : Type} : (size : Nat) → (Fin size → Progress α) →
    Option (Fin size → α)
  | 0, _ => some fun index => index.elim0
  | size + 1, progress => do
      let first ← (progress 0).value?
      let others ← allFinished size fun index => progress index.succ
      return inFront first others

/-- Lets a task run until it has to wait, finishes or fails. Every fetch is
noted in the journal when it starts. -/
def poll {α : Type} (source : Source) : Task α → Polling α
  | .done value, journal => (.finished value, journal)
  | .failed error, journal => (.failed error, journal)
  | .fetch request next, journal =>
      let started := journal.push (.fetched request)
      match source.pauses journal.size request with
      | pauses + 1 => (.pending (.waiting request pauses next), started)
      | 0 =>
          match source.answer request with
          | .ok answer => poll source (next answer) started
          | .error error => (.failed error, started)
  | .waiting request pauses next, journal =>
      match pauses with
      | pauses + 1 => (.pending (.waiting request pauses next), journal)
      | 0 =>
          match source.answer request with
          | .ok answer => poll source (next answer) journal
          | .error error => (.failed error, journal)
  | .join size members next, journal =>
      match pollMembers size (fun index => poll source (members index))
          journal with
      | (.error error, after) => (.failed error, after)
      | (.ok progress, after) =>
          match allFinished size progress with
          | some values => poll source (next values) after
          | none =>
              (.pending (.join size (fun index => (progress index).rest) next),
                after)
  | .turns crowd next, journal =>
      match crowd.poll source false journal with
      | (.finished values, after) => poll source (next values) after
      | (.failed error, after) => (.failed error, after)
      | (.pending rest, after) => (.pending (.turns rest next), after)

end Task

end Stagecraft
