import Mathlib.Data.List.OfFn
import Stagecraft.Loading.Sequential
import Stagecraft.Proofs.Loading.Crowds

/-!
# The result of a load is that of loading in order

What a task comes to when nothing is waited for: whatever runs side by side is
answered one after the other, and the first failure in order decides.
-/

namespace Stagecraft

/-! ## Groups and crowds -/

section Groups

variable {α β : Type}

theorem Task.collect_eq (size : Nat)
    (results : Fin size → Except LoadError α) :
    (Task.collect size results).map List.ofFn =
      (List.ofFn results).mapM id := by
  induction size with
  | zero => rfl
  | succ size inductionHypothesis =>
      have others := inductionHypothesis fun index => results index.succ
      rw [List.ofFn_succ, List.mapM_cons, ← others]
      simp only [Task.collect, id]
      cases results 0 with
      | error error => rfl
      | ok first =>
          cases Task.collect size fun index => results index.succ with
          | error error => rfl
          | ok values =>
              show Except.ok (List.ofFn (Task.inFront first values)) =
                Except.ok (first :: List.ofFn values)
              rw [List.ofFn_succ]
              rfl

theorem Task.run_together (source : Source) (tasks : List (Task α)) :
    (Task.together tasks).run source = tasks.mapM (Task.run source) := by
  have results :
      (List.ofFn fun index : Fin tasks.length => tasks[index].run source) =
        tasks.map (Task.run source) := by
    have each :
        (List.ofFn fun index : Fin tasks.length => tasks[index]).map
            (Task.run source) =
          List.ofFn fun index : Fin tasks.length => tasks[index].run source :=
      List.map_ofFn
    exact each.symm.trans
      (congrArg (List.map (Task.run source)) List.ofFn_getElem)
  have collected :=
    Task.collect_eq tasks.length fun index => tasks[index].run source
  rw [results, List.mapM_map] at collected
  unfold Task.together
  rw [Task.run]
  refine Eq.trans ?_ collected
  cases Task.collect tasks.length fun index => tasks[index].run source with
  | error error => rfl
  | ok values => rfl

/-- Errands that stand in their order answer in their order. -/
theorem Crowd.answered_zipIdx (source : Source) (errands : List (Errand β))
    (known : List (Option (Except LoadError β))) :
    answered source (errands.zipIdx known.length)
        (known ++ errands.map fun _ => none) =
      known ++ errands.map fun errand => some (errand.result source) := by
  induction errands generalizing known with
  | nil => rfl
  | cons first rest inductionHypothesis =>
      have head :
          (known ++ none :: rest.map fun _ => none).set known.length
              (some (first.result source)) =
            (known ++ [some (first.result source)]) ++
              rest.map fun _ => none := by
        simp
      have onward :=
        inductionHypothesis (known ++ [some (first.result source)])
      rw [List.length_append, List.length_singleton] at onward
      rw [List.map_cons, List.zipIdx_cons]
      simp only [answered, List.foldl_cons] at onward ⊢
      rw [head, onward, List.append_assoc, List.singleton_append]
      rfl

theorem Crowd.verdict_map_some (results : List (Except LoadError β)) :
    verdict (results.map some) = results.mapM id := by
  induction results with
  | nil => rfl
  | cons first rest inductionHypothesis =>
      rw [List.mapM_cons, ← inductionHypothesis]
      cases first with
      | error error => rfl
      | ok value =>
          simp only [verdict, List.map_cons, failure?]
          cases failure? (rest.map some) with
          | some error => rfl
          | none => rfl

theorem Crowd.run_ofList (source : Source) (errands : List (Errand β)) :
    (Crowd.ofList errands).run source =
      errands.mapM (Errand.result source) := by
  have everybody := answered_zipIdx source errands []
  have judged := verdict_map_some (errands.map (Errand.result source))
  rw [List.mapM_map, List.map_map] at judged
  simp only [List.nil_append, List.length_nil] at everybody
  rw [run_eq, ofList, everybody]
  exact judged

theorem Task.run_runErrands (source : Source) (errands : List (Errand β)) :
    (Task.runErrands errands).run source =
      errands.mapM (Errand.result source) := by
  unfold Task.runErrands
  split
  · rw [Task.run_together, List.mapM_map]
    congr 1
    funext errand
    simp only [Function.comp_apply, Task.run, Errand.result]
    cases source.answer errand.request <;> rfl
  · simp only [Task.run, Crowd.run_ofList]
    cases errands.mapM (Errand.result source) <;> rfl

end Groups

/-! ## Tasks -/

namespace Task

variable {α β : Type}

theorem run_bind (source : Source) (task : Task α) (after : α → Task β) :
    (task >>= after).run source =
      task.run source >>= fun value => (after value).run source := by
  show (task.andThen after).run source = _
  induction task with
  | done value => rfl
  | failed error => rfl
  | fetch request next inductionHypothesis =>
      simp only [andThen, run]
      cases source.answer request with
      | ok answer => exact inductionHypothesis answer after
      | error error => rfl
  | waiting request pauses next inductionHypothesis =>
      simp only [andThen, run]
      cases source.answer request with
      | ok answer => exact inductionHypothesis answer after
      | error error => rfl
  | join size members next _ inductionHypothesis =>
      simp only [andThen, run]
      cases collect size fun index => (members index).run source with
      | ok values => exact inductionHypothesis values after
      | error error => rfl
  | turns crowd next inductionHypothesis =>
      simp only [andThen, run]
      cases crowd.run source with
      | ok values => exact inductionHypothesis values after
      | error error => rfl

theorem run_bind_eq_ok
    {source : Source} {task : Task α} {after : α → Task β} {value : β} :
    (task >>= after).run source = .ok value ↔
      ∃ middle, task.run source = .ok middle ∧
        (after middle).run source = .ok value := by
  rw [run_bind]
  cases task.run source with
  | error error => simp [bind, Except.bind]
  | ok middle => simp [bind, Except.bind]

theorem run_ask (source : Source) (request : Fetch) :
    (ask request).run source = source.answer request := by
  unfold ask
  rw [run]
  cases source.answer request <;> rfl

theorem run_ofExcept (source : Source) (result : Except LoadError α) :
    (ofExcept result).run source = result := by
  cases result <;> rfl

end Task

/-! ## Pauses -/

/-- What a task comes to does not depend on the pauses of its fetches. -/
theorem Task.run_pauses {α : Type} (source : Source)
    (pauses : Nat → Fetch → Nat) (task : Task α) :
    task.run { source with pauses := pauses } = task.run source := by
  induction task with
  | done value => rfl
  | failed error => rfl
  | fetch request next inductionHypothesis =>
      rw [run, run]
      cases source.answer request with
      | ok answer => exact inductionHypothesis answer
      | error error => rfl
  | waiting request left next inductionHypothesis =>
      rw [run, run]
      cases source.answer request with
      | ok answer => exact inductionHypothesis answer
      | error error => rfl
  | join size members next membersHypothesis nextHypothesis =>
      rw [run, run]
      simp only [membersHypothesis]
      cases collect size fun index => (members index).run source with
      | ok values => exact nextHypothesis values
      | error error => rfl
  | turns crowd next inductionHypothesis =>
      have same :
          crowd.run { source with pauses := pauses } = crowd.run source := rfl
      rw [run, run, same]
      cases crowd.run source with
      | ok values => exact inductionHypothesis values
      | error error => rfl

/-! ## Loads -/

namespace LoadContext

theorem mapM_actorErrands
    {source : Source} {environment : Environment} {ambience : Ambience}
    {errand : ActorData → Errand ActorAsset}
    (fetches : ∀ data, (errand data).result source =
      source.answer (.actor environment ambience data))
    (actors : List ActorData) :
    (actors.map errand).mapM (Errand.result source) =
      assetsInOrder source environment ambience actors := by
  induction actors with
  | nil => rfl
  | cons first rest inductionHypothesis =>
      rw [List.map_cons, List.mapM_cons, inductionHypothesis, fetches,
        assetsInOrder]
      cases source.answer (.actor environment ambience first) with
      | error error => rfl
      | ok asset =>
          cases assetsInOrder source environment ambience rest <;> rfl

theorem run_actorRequests (source : Source) (context : LoadContext)
    (kind : SceneKind) (data : SceneData) :
    (Task.runErrands (context.actorRequests kind data)).run source =
      assetsInOrder source
        (context.environmentOf (context.islandOf kind) data.ambience)
        data.ambience data.actors := by
  rw [Task.run_runErrands]
  apply mapM_actorErrands
  intro actor
  show (source.answer _).map id = source.answer _
  cases source.answer _ <;> rfl

theorem run_sceneryFor (source : Source) (context : LoadContext)
    (kind : SceneKind) (ambience : Ambience) (shared : Option Scenery) :
    (context.sceneryFor kind ambience shared).run source =
      match shared with
      | some scenery => .ok scenery
      | none => source.answer (.scenery (context.sceneryKey kind) ambience) := by
  cases shared with
  | some scenery => rfl
  | none => exact Task.run_ask source _

theorem run_scene (source : Source) (context : LoadContext)
    (index : SceneIndex) (shared : Option Scenery) :
    (context.scene index shared).run source =
      sceneInOrder source context index shared := by
  unfold scene sceneInOrder
  cases context.map.kind? index with
  | none => rfl
  | some kind =>
      refine (Task.run_bind ..).trans ?_
      rw [Task.run_ask]
      refine bind_congr fun (data : SceneData) => ?_
      rw [Task.run_bind, run_actorRequests]
      refine bind_congr fun assets => ?_
      rw [Task.run_bind, Task.run_ofExcept]
      refine bind_congr fun actors => ?_
      rw [Task.run_bind, run_sceneryFor]
      simp only [Task.run_bind, Task.run_ofExcept]
      cases shared with
      | some scenery => rfl
      | none => rfl

theorem mapM_sides (source : Source) (context : LoadContext)
    (scenery : Scenery) (indices : List SceneIndex) :
    (indices.mapM fun index =>
        sceneInOrder source context index (some scenery)).map
          (List.map Prod.fst) =
      sidesInOrder source context scenery indices := by
  induction indices with
  | nil => rfl
  | cons first rest inductionHypothesis =>
      rw [List.mapM_cons, sidesInOrder, ← inductionHypothesis]
      cases sceneInOrder source context first (some scenery) with
      | error error => rfl
      | ok value =>
          cases rest.mapM fun index =>
            sceneInOrder source context index (some scenery) <;> rfl

/-- What a load comes to is what loading in order comes to. -/
theorem run_family (source : Source) (context : LoadContext)
    (index : SceneIndex) :
    (context.family index).run source =
      familyInOrder source context index := by
  unfold family familyInOrder
  rw [Task.run_bind, run_scene]
  refine bind_congr fun ⟨main, scenery⟩ => ?_
  dsimp only
  rw [Task.run_bind, Task.run_together, List.mapM_map, ← mapM_sides]
  simp only [Function.comp_def, run_scene]
  cases (context.map.sideScenes index).mapM fun index =>
    sceneInOrder source context index (some scenery) <;> rfl

theorem familyInOrder_pauses (source : Source)
    (pauses : Nat → Fetch → Nat) (context : LoadContext)
    (index : SceneIndex) :
    context.familyInOrder { source with pauses := pauses } index =
      context.familyInOrder source index := by
  rw [← run_family, Task.run_pauses, run_family]

end LoadContext

end Stagecraft
