import Stagecraft.Loading.Family
import Stagecraft.Proofs.Loading.Returns

/-!
# What a family load returns

The main scene that was asked for, and one side scene for each number that the map
gives, in the order of the map. Every scene is put together as the map says.
-/

namespace Stagecraft

/-- Whether a loaded scene was put together for a number of the map. -/
def LoadContext.Assembles (context : LoadContext) (index : SceneIndex)
    (loaded : LoadedScene) : Prop :=
  ∃ kind data actors offset, context.map.kind? index = some kind ∧
    loaded = context.assemble index kind data actors offset

/-- Whether a loaded family is what the map has for a number. -/
structure LoadedFamily.Fits (map : SceneMap) (target : SceneIndex)
    (loaded : LoadedFamily) : Prop where
  mainIndex : loaded.main.index = target
  mainKind : map.kind? target = some loaded.main.kind
  sidesIndex :
    loaded.sides.map LoadedScene.index = map.sideScenes target
  sidesKind : ∀ side ∈ loaded.sides, map.kind? side.index = some side.kind

namespace LoadContext

theorem returns_scene (context : LoadContext) (index : SceneIndex)
    (shared : Option Scenery) :
    (context.scene index shared).Returns fun value =>
      context.Assembles index value.1 := by
  unfold scene
  cases known : context.map.kind? index with
  | none =>
      trivial
  | some kind =>
      refine Task.returns_bind (Task.returns_trivially _) fun data _ => ?_
      refine Task.returns_bind (Task.returns_trivially _) fun assets _ => ?_
      refine Task.returns_bind (Task.returns_trivially _) fun actors _ => ?_
      refine Task.returns_bind (Task.returns_trivially _) fun scenery _ => ?_
      refine Task.returns_bind (Task.returns_trivially _) fun offset _ => ?_
      exact ⟨kind, data, actors, offset, known, rfl⟩

theorem returns_sides (context : LoadContext) (scenery : Scenery)
    (indices : List SceneIndex) :
    (Task.together <| indices.map fun index =>
      context.scene index (some scenery)).Returns
        (List.Forall₂ (fun index value => context.Assembles index value.1)
          indices) :=
  Task.returns_together fun index _ =>
    context.returns_scene index (some scenery)

theorem assembles_index
    {context : LoadContext} {index : SceneIndex} {loaded : LoadedScene}
    (assembled : context.Assembles index loaded) :
    loaded.index = index := by
  obtain ⟨kind, data, actors, offset, _, rfl⟩ := assembled
  rfl

theorem assembles_kind
    {context : LoadContext} {index : SceneIndex} {loaded : LoadedScene}
    (assembled : context.Assembles index loaded) :
    context.map.kind? index = some loaded.kind := by
  obtain ⟨kind, data, actors, offset, known, rfl⟩ := assembled
  exact known

theorem map_index_of_assembles
    {context : LoadContext} {indices : List SceneIndex}
    {values : List (LoadedScene × Scenery)}
    (assembled : List.Forall₂
      (fun index value => context.Assembles index value.1) indices values) :
    (values.map Prod.fst).map LoadedScene.index = indices := by
  induction assembled with
  | nil =>
      rfl
  | cons first rest inductionHypothesis =>
      simp only [List.map_cons, inductionHypothesis, assembles_index first]

theorem kind_of_assembles
    {context : LoadContext} {indices : List SceneIndex}
    {values : List (LoadedScene × Scenery)}
    (assembled : List.Forall₂
      (fun index value => context.Assembles index value.1) indices values) :
    ∀ side ∈ values.map Prod.fst,
      context.map.kind? side.index = some side.kind := by
  induction assembled with
  | nil =>
      simp
  | cons first rest inductionHypothesis =>
      rw [List.map_cons, List.forall_mem_cons]
      refine ⟨?_, inductionHypothesis⟩
      rw [assembles_index first]
      exact assembles_kind first

/-- Whatever a family load comes to is what the map has for its number. -/
theorem returns_family (context : LoadContext) (index : SceneIndex) :
    (context.family index).Returns (LoadedFamily.Fits context.map index) := by
  unfold family
  refine Task.returns_bind (context.returns_scene index none) ?_
  rintro ⟨main, scenery⟩ mainAssembled
  refine Task.returns_bind (context.returns_sides scenery _) ?_
  intro sides sidesAssembled
  exact ⟨assembles_index mainAssembled, assembles_kind mainAssembled,
    map_index_of_assembles sidesAssembled, kind_of_assembles sidesAssembled⟩

end LoadContext

end Stagecraft
