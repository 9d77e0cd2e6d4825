import Stagecraft.Proofs.Loading.Family

/-!
# What a load compiles

The actors of a loaded scene have the programs that their scripts compile to, and
the scene has room for the cube variables that those programs mention. So whoever
loads the same actors gets the same programs and the same room.
-/

namespace Stagecraft

namespace LoadContext

/-- Compiling keeps the actors in their order. -/
theorem assets_of_compileActors {scene : SceneIndex} {position : Nat}
    {assets : List ActorAsset} {actors : List LoadedActor}
    (compiled : compileActors scene position assets = .ok actors) :
    actors.map LoadedActor.asset = assets := by
  induction assets generalizing position actors with
  | nil =>
      obtain rfl := Except.ok.inj compiled
      rfl
  | cons asset rest inductionHypothesis =>
      simp only [compileActors] at compiled
      split at compiled
      · cases compiled
      · split at compiled
        · cases compiled
        · split at compiled
          · cases compiled
          · next others compiledOthers =>
              obtain rfl := Except.ok.inj compiled
              rw [List.map_cons, inductionHypothesis compiledOthers]

end LoadContext

/-- Whether the actors of a loaded scene have the programs that their scripts
compile to, and the scene room for the cube variables that these mention. -/
structure LoadedScene.Compiled (loaded : LoadedScene) : Prop where
  programs : LoadContext.compileActors loaded.index 0
    (loaded.actors.map LoadedActor.asset) = .ok loaded.actors
  size : loaded.cubeSize =
    Stagecraft.cubeSize (LoadContext.programsOf loaded.actors)

def LoadedFamily.Compiled (loaded : LoadedFamily) : Prop :=
  ∀ part ∈ loaded.main :: loaded.sides, part.Compiled

theorem Task.returns_ofExcept {α : Type} {result : Except LoadError α}
    {holds : α → Prop} (each : ∀ value, result = .ok value → holds value) :
    (Task.ofExcept result).Returns holds := by
  cases result with
  | ok value => exact each value rfl
  | error error => trivial

namespace LoadContext

theorem compiled_assemble (context : LoadContext) {index : SceneIndex}
    {assets : List ActorAsset} {actors : List LoadedActor}
    (compiled : compileActors index 0 assets = .ok actors) (kind : SceneKind)
    (data : SceneData) (offset : Vec3) :
    (context.assemble index kind data actors offset).Compiled := by
  refine ⟨?_, rfl⟩
  dsimp only [assemble]
  rw [assets_of_compileActors compiled]
  exact compiled

theorem returns_compiled_scene (context : LoadContext) (index : SceneIndex)
    (shared : Option Scenery) :
    (context.scene index shared).Returns fun value => value.1.Compiled := by
  unfold scene
  cases context.map.kind? index with
  | none => trivial
  | some kind =>
      refine Task.returns_bind (Task.returns_trivially _) fun data _ => ?_
      refine Task.returns_bind (Task.returns_trivially _) fun assets _ => ?_
      refine Task.returns_bind
        (Task.returns_ofExcept fun _ compiled => compiled)
        fun actors compiled => ?_
      refine Task.returns_bind (Task.returns_trivially _) fun scenery _ => ?_
      refine Task.returns_bind (Task.returns_trivially _) fun offset _ => ?_
      exact context.compiled_assemble compiled kind data offset

/-- All scenes that a load puts together are compiled. -/
theorem returns_compiled (context : LoadContext) (index : SceneIndex) :
    (context.family index).Returns LoadedFamily.Compiled := by
  unfold family
  refine Task.returns_bind (context.returns_compiled_scene index none) ?_
  rintro ⟨main, scenery⟩ mainCompiled
  refine Task.returns_bind
    (Task.returns_together fun side (_ : side ∈ context.map.sideScenes index) =>
      context.returns_compiled_scene side (some scenery)) ?_
  intro sides sidesCompiled
  refine List.forall_mem_cons.mpr ⟨mainCompiled, ?_⟩
  show ∀ part ∈ sides.map Prod.fst, part.Compiled
  generalize context.map.sideScenes index = indices at sidesCompiled
  induction sidesCompiled with
  | nil => simp
  | cons first rest inductionHypothesis =>
      rw [List.map_cons, List.forall_mem_cons]
      exact ⟨first, inductionHypothesis⟩

end LoadContext

end Stagecraft
