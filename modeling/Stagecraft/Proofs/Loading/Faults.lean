import Stagecraft.Proofs.Loading.InOrder
import Stagecraft.Proofs.Loading.Schedules
import Stagecraft.Proofs.SceneMap.Relatives

/-!
# Why loads fail

Every error of a load is the fault of one scene: of one of its fetches, of its
scripts, or of its place on the scenery. Each fault is said of that scene alone,
whatever else is loaded along with it.
-/

namespace Stagecraft

/-! ## Building tasks -/

namespace Task

variable {α β : Type} {source : Source} {blamed : LoadError → Prop}

theorem failsOnly_bind
    {task : Task α} {after : α → Task β}
    (fails : task.FailsOnly source blamed)
    (continues : ∀ value, task.run source = .ok value →
      (after value).FailsOnly source blamed) :
    (task >>= after).FailsOnly source blamed := by
  show (task.andThen after).FailsOnly source blamed
  induction task with
  | done value => exact continues value rfl
  | failed error => exact fails
  | fetch request next inductionHypothesis =>
      refine ⟨fails.1, fun answer answered => ?_⟩
      refine inductionHypothesis answer (fails.2 answer answered) ?_
      intro value comes
      exact continues value (by rw [run, answered]; exact comes)
  | waiting request pauses next inductionHypothesis =>
      refine ⟨fails.1, fun answer answered => ?_⟩
      refine inductionHypothesis answer (fails.2 answer answered) ?_
      intro value comes
      exact continues value (by rw [run, answered]; exact comes)
  | join size members next _ inductionHypothesis =>
      refine ⟨fails.1, fun values come => ?_⟩
      refine inductionHypothesis values (fails.2 values come) ?_
      intro value comes
      exact continues value (by rw [run_join come]; exact comes)
  | turns crowd next inductionHypothesis =>
      refine ⟨fails.1, fun values come => ?_⟩
      refine inductionHypothesis values (fails.2 values come) ?_
      intro value comes
      exact continues value (by rw [run, come]; exact comes)

theorem FailsOnly.mono
    {task : Task α} {others : LoadError → Prop}
    (fails : task.FailsOnly source blamed)
    (wider : ∀ error, blamed error → others error) :
    task.FailsOnly source others := by
  induction task with
  | done value => trivial
  | failed error => exact wider error fails
  | fetch request next inductionHypothesis =>
      exact ⟨fun error refused => wider error (fails.1 error refused),
        fun answer answered =>
          inductionHypothesis answer (fails.2 answer answered)⟩
  | waiting request pauses next inductionHypothesis =>
      exact ⟨fun error refused => wider error (fails.1 error refused),
        fun answer answered =>
          inductionHypothesis answer (fails.2 answer answered)⟩
  | join size members next membersHypothesis nextHypothesis =>
      exact ⟨fun index => membersHypothesis index (fails.1 index),
        fun values come => nextHypothesis values (fails.2 values come)⟩
  | turns crowd next inductionHypothesis =>
      exact ⟨fun error failed => wider error (fails.1 error failed),
        fun values come => inductionHypothesis values (fails.2 values come)⟩

theorem failsOnly_ask
    {request : Fetch}
    (refused : ∀ error, source.answer request = .error error → blamed error) :
    (ask request).FailsOnly source blamed :=
  ⟨refused, fun _ _ => trivial⟩

theorem failsOnly_ofExcept
    {result : Except LoadError α}
    (failed : ∀ error, result = .error error → blamed error) :
    (ofExcept result).FailsOnly source blamed := by
  cases result with
  | ok value => trivial
  | error error => exact failed error rfl

theorem failsOnly_together
    {tasks : List (Task α)}
    (fails : ∀ task ∈ tasks, task.FailsOnly source blamed) :
    (together tasks).FailsOnly source blamed :=
  ⟨fun _ => fails _ (List.getElem_mem _), fun _ _ => trivial⟩

/-- The first failure of a list of results is one of them. -/
theorem error_of_mapM
    {items : List α} {result : α → Except LoadError β} {error : LoadError}
    (failed : items.mapM result = .error error) :
    ∃ item ∈ items, result item = .error error := by
  induction items with
  | nil => cases failed
  | cons first rest inductionHypothesis =>
      rw [List.mapM_cons] at failed
      cases known : result first with
      | error other =>
          rw [known] at failed
          cases failed
          exact ⟨first, List.mem_cons_self, known⟩
      | ok value =>
          rw [known] at failed
          cases others : rest.mapM result with
          | error other =>
              rw [others] at failed
              cases failed
              obtain ⟨item, member, itemFailed⟩ := inductionHypothesis others
              exact ⟨item, List.mem_cons_of_mem _ member, itemFailed⟩
          | ok values =>
              rw [others] at failed
              cases failed

theorem failsOnly_runErrands
    {errands : List (Errand α)}
    (refused : ∀ errand ∈ errands, ∀ error,
      source.answer errand.request = .error error → blamed error) :
    (runErrands errands).FailsOnly source blamed := by
  unfold runErrands
  split
  · refine failsOnly_together fun task member => ?_
    obtain ⟨errand, isErrand, rfl⟩ := List.mem_map.mp member
    exact ⟨refused errand isErrand, fun _ _ => trivial⟩
  · refine ⟨fun error failed => ?_, fun _ _ => trivial⟩
    rw [Crowd.run_ofList] at failed
    obtain ⟨errand, isErrand, errandFailed⟩ := error_of_mapM failed
    refine refused errand isErrand error ?_
    unfold Errand.result at errandFailed
    cases answered : source.answer errand.request with
    | error other =>
        rw [answered] at errandFailed
        cases errandFailed
        rfl
    | ok answer =>
        rw [answered] at errandFailed
        cases errandFailed

theorem unbegun_bind
    {task : Task α} {after : α → Task β} (unbegun : task.Unbegun)
    (continues : ∀ value, (after value).Unbegun) :
    (task >>= after).Unbegun := by
  show (task.andThen after).Unbegun
  induction task with
  | done value => exact continues value
  | failed error => trivial
  | fetch request next inductionHypothesis =>
      exact fun answer => inductionHypothesis answer (unbegun answer) continues
  | waiting request pauses next => exact unbegun.elim
  | join size members next _ inductionHypothesis =>
      exact ⟨unbegun.1, fun values =>
        inductionHypothesis values (unbegun.2 values) continues⟩
  | turns crowd next inductionHypothesis =>
      exact ⟨unbegun.1, fun values =>
        inductionHypothesis values (unbegun.2 values) continues⟩

theorem unbegun_ask (request : Fetch) : (ask request).Unbegun :=
  fun _ => trivial

theorem unbegun_ofExcept (result : Except LoadError α) :
    (ofExcept result).Unbegun := by
  cases result <;> trivial

theorem unbegun_together
    {tasks : List (Task α)} (unbegun : ∀ task ∈ tasks, task.Unbegun) :
    (together tasks).Unbegun :=
  ⟨fun _ => unbegun _ (List.getElem_mem _), fun _ => trivial⟩

theorem unbegun_runErrands
    {errands : List (Errand α)}
    (notStarted : ∀ errand ∈ errands, errand.pauses = none) :
    (runErrands errands).Unbegun := by
  unfold runErrands
  split
  · refine unbegun_together fun task member => ?_
    obtain ⟨errand, _, rfl⟩ := List.mem_map.mp member
    exact fun _ => trivial
  · exact ⟨⟨errands, rfl, notStarted⟩, fun _ => trivial⟩

end Task

namespace LoadContext

/-! ## Faults of a scene -/

/-- Whether a scene of some data stands on a scenery: the one that it shares, or
its own. -/
def StandsOn (source : Source) (context : LoadContext) (kind : SceneKind)
    (data : SceneData) (shared : Option Scenery) (scenery : Scenery) : Prop :=
  match shared with
  | some given => scenery = given
  | none =>
      source.answer (.scenery (context.sceneryKey kind) data.ambience) =
        .ok scenery

/-- What is wrong with one scene taken by itself. -/
inductive SceneFault (source : Source) (context : LoadContext)
    (index : SceneIndex) (kind : SceneKind) (shared : Option Scenery) :
    LoadError → Prop where
  | data {error : LoadError}
      (refused :
        source.answer (.scene context.language index) = .error error) :
      SceneFault source context index kind shared error
  | actor {data : SceneData} {actor : ActorData} {error : LoadError}
      (fetched : source.answer (.scene context.language index) = .ok data)
      (member : actor ∈ data.actors)
      (refused :
        source.answer
          (.actor
            (context.environmentOf (context.islandOf kind) data.ambience)
            data.ambience actor) = .error error) :
      SceneFault source context index kind shared error
  | script {data : SceneData} {assets : List ActorAsset} {error : LoadError}
      (fetched : source.answer (.scene context.language index) = .ok data)
      (complete :
        assetsInOrder source
          (context.environmentOf (context.islandOf kind) data.ambience)
          data.ambience data.actors = .ok assets)
      (bad : compileActors index 0 assets = .error error) :
      SceneFault source context index kind shared error
  | scenery {data : SceneData} {error : LoadError}
      (fetched : source.answer (.scene context.language index) = .ok data)
      (alone : shared = none)
      (refused :
        source.answer (.scenery (context.sceneryKey kind) data.ambience) =
          .error error) :
      SceneFault source context index kind shared error
  | place {data : SceneData} {scenery : Scenery} {error : LoadError}
      (fetched : source.answer (.scene context.language index) = .ok data)
      (stands : context.StandsOn source kind data shared scenery)
      (missing : offsetOf index kind scenery = .error error) :
      SceneFault source context index kind shared error

variable {source : Source} {context : LoadContext} {index : SceneIndex}

theorem standsOn_of_run
    {kind : SceneKind} {data : SceneData} {shared : Option Scenery}
    {scenery : Scenery}
    (comes :
      (context.sceneryFor kind data.ambience shared).run source =
        .ok scenery) :
    context.StandsOn source kind data shared scenery := by
  rw [run_sceneryFor] at comes
  cases shared with
  | some given => exact (Except.ok.inj comes).symm
  | none => exact comes

/-- A scene fails to load by its own fault. -/
theorem failsOnly_scene
    {kind : SceneKind} (known : context.map.kind? index = some kind)
    (shared : Option Scenery) :
    (context.scene index shared).FailsOnly source
      (context.SceneFault source index kind shared) := by
  unfold scene
  rw [known]
  refine Task.failsOnly_bind
    (Task.failsOnly_ask fun error refused => .data refused)
    fun (data : SceneData) fetched => ?_
  rw [Task.run_ask] at fetched
  refine Task.failsOnly_bind
    (Task.failsOnly_runErrands fun errand member error refused => ?_)
    fun assets complete => ?_
  · obtain ⟨actor, isActor, rfl⟩ := List.mem_map.mp member
    exact .actor fetched isActor refused
  rw [run_actorRequests] at complete
  refine Task.failsOnly_bind
    (Task.failsOnly_ofExcept fun error bad => .script fetched complete bad)
    fun actors _ => ?_
  refine Task.failsOnly_bind ?_ fun scenery comes => ?_
  · cases shared with
    | some given => trivial
    | none =>
        exact Task.failsOnly_ask fun error refused =>
          .scenery fetched rfl refused
  have stands : context.StandsOn source kind data shared scenery :=
    standsOn_of_run comes
  exact Task.failsOnly_bind
    (Task.failsOnly_ofExcept fun error missing =>
      .place fetched stands missing)
    fun offset _ => trivial

/-! ## Faults of a family -/

/-- What is wrong with one scene of a family: with the main scene, or with a side
scene on the scenery of the main scene. -/
inductive FamilyFault (source : Source) (context : LoadContext)
    (index : SceneIndex) : LoadError → Prop where
  | main {kind : SceneKind} {error : LoadError}
      (known : context.map.kind? index = some kind)
      (fault : context.SceneFault source index kind none error) :
      FamilyFault source context index error
  | side {kind : SceneKind} {data : SceneData} {scenery : Scenery}
      {side : SceneIndex} {sideKind : SceneKind} {error : LoadError}
      (known : context.map.kind? index = some kind)
      (fetched : source.answer (.scene context.language index) = .ok data)
      (stands : context.StandsOn source kind data none scenery)
      (member : side ∈ context.map.sideScenes index)
      (sideKnown : context.map.kind? side = some sideKind)
      (fault :
        context.SceneFault source side sideKind (some scenery) error) :
      FamilyFault source context index error

/-- The scenery that a main scene hands on is the one it stands on. -/
theorem standsOn_of_scene
    {kind : SceneKind} (known : context.map.kind? index = some kind)
    {loaded : LoadedScene} {scenery : Scenery}
    (comes :
      (context.scene index none).run source = .ok (loaded, scenery)) :
    ∃ data : SceneData,
      source.answer (.scene context.language index) = .ok data ∧
        context.StandsOn source kind data none scenery := by
  unfold scene at comes
  rw [known] at comes
  obtain ⟨data, fetched, comes⟩ := Task.run_bind_eq_ok.mp comes
  obtain ⟨assets, _, comes⟩ := Task.run_bind_eq_ok.mp comes
  obtain ⟨actors, _, comes⟩ := Task.run_bind_eq_ok.mp comes
  obtain ⟨own, stands, comes⟩ := Task.run_bind_eq_ok.mp comes
  obtain ⟨offset, _, comes⟩ := Task.run_bind_eq_ok.mp comes
  rw [Task.run_ask] at fetched
  cases comes
  exact ⟨data, fetched, standsOn_of_run stands⟩

/-- A family fails to load by the fault of one of its scenes. -/
theorem failsOnly_family
    {kind : SceneKind} (known : context.map.kind? index = some kind) :
    (context.family index).FailsOnly source
      (context.FamilyFault source index) := by
  unfold family
  refine Task.failsOnly_bind
    ((context.failsOnly_scene known none).mono fun error => .main known) ?_
  rintro ⟨main, scenery⟩ comes
  obtain ⟨data, fetched, stands⟩ := standsOn_of_scene known comes
  refine Task.failsOnly_bind
    (Task.failsOnly_together fun task member => ?_) fun _ _ => trivial
  obtain ⟨side, isSide, rfl⟩ := List.mem_map.mp member
  obtain ⟨sideKind, sideKnown⟩ := SceneMap.kind?_of_mem_sideScenes known isSide
  exact (context.failsOnly_scene sideKnown (some scenery)).mono fun error =>
    .side known fetched stands isSide sideKnown

/-! ## Loads that have not begun -/

theorem unbegun_scene (context : LoadContext) (index : SceneIndex)
    (shared : Option Scenery) :
    (context.scene index shared).Unbegun := by
  unfold scene
  split
  · trivial
  · refine Task.unbegun_bind (Task.unbegun_ask _) fun data => ?_
    refine Task.unbegun_bind
      (Task.unbegun_runErrands fun errand member => ?_) fun assets => ?_
    · obtain ⟨actor, _, rfl⟩ := List.mem_map.mp member
      rfl
    refine Task.unbegun_bind (Task.unbegun_ofExcept _) fun actors => ?_
    refine Task.unbegun_bind ?_ fun scenery => ?_
    · cases shared with
      | some given => trivial
      | none => exact Task.unbegun_ask _
    exact Task.unbegun_bind (Task.unbegun_ofExcept _) fun offset => trivial

theorem unbegun_family (context : LoadContext) (index : SceneIndex) :
    (context.family index).Unbegun := by
  unfold family
  refine Task.unbegun_bind (context.unbegun_scene index none) ?_
  rintro ⟨main, scenery⟩
  refine Task.unbegun_bind
    (Task.unbegun_together fun task member => ?_) fun _ => trivial
  obtain ⟨side, _, rfl⟩ := List.mem_map.mp member
  exact context.unbegun_scene side (some scenery)

end LoadContext

end Stagecraft
