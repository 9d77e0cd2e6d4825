import Stagecraft.Proofs.Stage.Recast
import Stagecraft.Proofs.Stage.Reachable

/-!
# What all loaded scenes have in common

A property that scenes have when they are attached, and that nothing which can
happen to a scene ends, goes on holding of all scenes of a stage, whatever the stage
does with them.
-/

namespace Stagecraft

/-- Whether all scenes of a family were put together by loads. -/
def LoadedFamily.Assembled (loaded : LoadedFamily) : Prop :=
  ∀ scene ∈ loaded.main :: loaded.sides, ∃ context index,
    LoadContext.Assembles context index scene

theorem LoadContext.assembled_sides
    {context : LoadContext} {indices : List SceneIndex}
    {values : List (LoadedScene × Scenery)}
    (assembled : List.Forall₂
      (fun index value => context.Assembles index value.1) indices values) :
    ∀ side ∈ values.map Prod.fst, ∃ context index,
      LoadContext.Assembles context index side := by
  induction assembled with
  | nil =>
      simp
  | @cons index _ _ _ first rest inductionHypothesis =>
      rw [List.map_cons, List.forall_mem_cons]
      exact ⟨⟨context, index, first⟩, inductionHypothesis⟩

theorem LoadContext.returns_assembled (context : LoadContext)
    (index : SceneIndex) :
    (context.family index).Returns LoadedFamily.Assembled := by
  unfold family
  refine Task.returns_bind (context.returns_scene index none) ?_
  rintro ⟨main, scenery⟩ mainAssembled
  refine Task.returns_bind (context.returns_sides scenery _) ?_
  intro sides sidesAssembled
  exact List.forall_mem_cons.mpr
    ⟨⟨context, index, mainAssembled⟩, assembled_sides sidesAssembled⟩

/-- A property that nothing which happens to a scene ends. -/
structure Scene.Enduring (holds : Scene → Prop) : Prop where
  active : ∀ {scene : Scene} active, holds scene →
    holds (scene.withActive active)
  link : ∀ {scene : Scene} link, holds scene → holds (scene.withLink link)
  slept : ∀ {scene : Scene} nodes, holds scene →
    holds (scene.changeProtagonist Actor.kill nodes).1
  woken : ∀ {scene : Scene} nodes, holds scene →
    holds (scene.changeProtagonist Actor.revive nodes).1
  played : ∀ {scene : Scene} game nodes budget, holds scene →
    holds (Stage.playedScene ((Stage.playOf scene game nodes).tick budget)
      scene)
  restored : ∀ {scene : Scene} nodes, holds scene →
    holds (Stage.resetScene scene nodes).1

/-- A property that every newly attached scene has, and that nothing which happens
to a scene ends. -/
structure Scene.Lasting (holds : Scene → Prop) : Prop
    extends Scene.Enduring holds where
  attached : ∀ {context : LoadContext} {index : SceneIndex}
    {loaded : LoadedScene}, context.Assembles index loaded →
      ∀ markers scenery root link nodes,
        holds (Attach.scene markers scenery root link loaded nodes).1

/-- Whether a property holds of all scenes of a family as they are attached. -/
def LoadedFamily.Attaches (holds : Scene → Prop) (loaded : LoadedFamily) :
    Prop :=
  ∀ part ∈ loaded.main :: loaded.sides, ∀ markers scenery root link nodes,
    holds (Attach.scene markers scenery root link part nodes).1

theorem Scene.Lasting.attaches {holds : Scene → Prop}
    (lasting : Scene.Lasting holds) {loaded : LoadedFamily}
    (assembled : loaded.Assembled) :
    loaded.Attaches holds := by
  intro part listed
  obtain ⟨context, index, partAssembled⟩ := assembled part listed
  exact lasting.attached partAssembled

/-! ## Arenas -/

namespace Arena

/-- Whether all scenes of an arena have a property. -/
def Every (holds : Scene → Prop) (arena : Arena) : Prop :=
  ∀ id scene, arena.scene? id = some scene → holds scene

variable {holds : Scene → Prop} {arena : Arena}

theorem Every.addScene (every : arena.Every holds) {scene : Scene}
    (new : holds scene) :
    (arena.addScene scene).Every holds := by
  intro id other found
  rw [scene?_addScene] at found
  split at found
  · exact Option.some.inj found ▸ new
  · exact every id other found

theorem Every.modifyScene (every : arena.Every holds) (changed : SceneId)
    {change : Scene → Scene}
    (keeps : ∀ scene, arena.scene? changed = some scene → holds scene →
      holds (change scene)) :
    (arena.modifyScene changed change).Every holds := by
  intro id scene found
  rw [scene?_modifyScene] at found
  split at found
  · next same =>
      subst same
      obtain ⟨before, was, rfl⟩ := Option.map_eq_some_iff.mp found
      exact keeps before was (every id before was)
  · exact every id scene found

theorem Every.promote (every : arena.Every holds)
    (enduring : Scene.Enduring holds) (outgoing incoming : SceneId) :
    (arena.promote outgoing incoming).Every holds := by
  unfold Arena.promote
  split
  · exact every
  · split
    · refine Every.modifyScene ?_ incoming fun _ _ => enduring.link _
      intro id scene found
      rw [scene?_relink] at found
      split at found
      · obtain ⟨before, was, rfl⟩ := Option.map_eq_some_iff.mp found
        exact enduring.link _ (every id before was)
      · exact every id scene found
    · exact every

theorem Every.removeFamily (every : arena.Every holds) (id : SceneId)
    (nodes : NodeTree) :
    (arena.removeFamily id nodes).1.Every holds := by
  intro other scene found
  have left :
      ((arena.familyOf id).foldl Slots.erase arena.scenes).get? other =
        some scene := by
    unfold Arena.removeFamily at found
    dsimp only at found
    split at found <;> exact found
  rw [Slots.get?_foldl_erase] at left
  split at left
  · simp at left
  · exact every other scene left

end Arena

namespace Attach

variable {holds : Scene → Prop} {arena : Arena}

theorem every_sides (enduring : Scene.Enduring holds) (markers : Bool)
    (main : SceneId) (scenery : SceneryId) (root : NodeId)
    {loaded : List LoadedScene}
    (attached : ∀ part ∈ loaded, ∀ markers scenery root link nodes,
      holds (scene markers scenery root link part nodes).1)
    (every : arena.Every holds) (nodes : NodeTree) :
    (sides markers main scenery root loaded arena nodes).2.1.Every holds := by
  induction loaded generalizing arena nodes with
  | nil => exact every
  | cons side rest inductionHypothesis =>
      rw [List.forall_mem_cons] at attached
      have placed := attached.1 markers scenery root (.side main) nodes
      exact inductionHypothesis attached.2
        (every.addScene (enduring.slept _ placed)) _

theorem every_family (enduring : Scene.Enduring holds) (markers : Bool)
    {loaded : LoadedFamily} (attaches : loaded.Attaches holds)
    (every : arena.Every holds) (nodes : NodeTree) :
    (family markers loaded arena nodes).1.Every holds := by
  obtain ⟨mainAttached, sidesAttached⟩ := List.forall_mem_cons.mp attaches
  have placed :=
    mainAttached markers arena.nextScenery nodes.nextId
      (mainLink loaded.main.kind [])
      ((nodes.create (rootName loaded.main.kind)).addBelow nodes.nextId
        ("scenery_" ++ loaded.scenery.name) Vec3.zero)
  have sceneryAdded : (arena.addScenery loaded.scenery).Every holds := every
  exact (every_sides enduring markers _ _ _ sidesAttached
    (sceneryAdded.addScene placed) _).modifyScene _ fun _ _ =>
      enduring.link _

end Attach

/-! ## Stages -/

namespace Stage

variable {holds : Scene → Prop} {stage : Stage}
  (enduring : Scene.Enduring holds)

include enduring

theorem every_setActivity (every : stage.arena.Every holds)
    (id : Option SceneId) (active : Bool) :
    (stage.setActivity id active).arena.Every holds := by
  cases id with
  | none => exact every
  | some id => exact every.modifyScene id fun _ _ => enduring.active active

theorem every_leave (every : stage.arena.Every holds) (id : SceneId) :
    (stage.leave id).arena.Every holds := by
  have asleep :
      (stage.changeScene id fun scene =>
        scene.changeProtagonist Actor.kill).arena.Every holds := by
    rw [changeScene_arena]
    exact every.modifyScene id fun _ _ => enduring.slept _
  exact every_setActivity enduring asleep (some id) false

theorem every_enter (every : stage.arena.Every holds) (id : SceneId) :
    (stage.enter id).arena.Every holds := by
  have awake :
      (stage.changeScene id fun scene =>
        scene.changeProtagonist Actor.revive).arena.Every holds := by
    rw [changeScene_arena]
    exact every.modifyScene id fun _ _ => enduring.woken _
  exact every_setActivity enduring awake (some id) true

theorem every_swap (every : stage.arena.Every holds)
    (outgoing incoming : SceneId) :
    (stage.swap outgoing incoming).arena.Every holds := by
  have left := every_leave enduring every outgoing
  have promoted :
      ((stage.leave outgoing).promote outgoing incoming).arena.Every holds :=
    left.promote enduring outgoing incoming
  unfold swap
  rw [(sameScenes_resumeActiveMusic _).arena]
  exact every_enter enduring promoted incoming

theorem every_activate (every : stage.arena.Every holds) (id : SceneId) :
    (stage.activate id).arena.Every holds := by
  unfold activate
  split
  · exact every
  · next scene _ =>
      have chosen := every_setActivity enduring every (some id) true
      rw [(sameScenes_call _ _).arena, (sameScenes_resumeMusic _ _).arena,
        (sameScenes_present _ scene).arena]
      exact chosen

theorem every_replace {previous : Option SceneId}
    (cleared : (stage.clear previous).arena.Every holds)
    {loaded : LoadedFamily} (attaches : loaded.Attaches holds) :
    (stage.replace previous loaded).arena.Every holds := by
  have attached :
      ((stage.clear previous).attach loaded).arena.Every holds :=
    Attach.every_family enduring (stage.clear previous).settings.editorMarkers
      attaches cleared (stage.clear previous).host.nodes
  unfold replace
  exact every_activate enduring attached _

theorem every_release (every : stage.arena.Every holds) (held : Bool)
    (flight : Flight) :
    (stage.release held flight).arena.Every holds := by
  unfold release
  cases held with
  | true =>
      simp only [if_true]
      cases flight.previous <;> exact every
  | false =>
      have landed : { stage with flight := none }.arena.Every holds := every
      exact every_setActivity enduring landed flight.previous true

theorem every_tick (every : stage.arena.Every holds) (game : GameBank) :
    (stage.tick game).2.2.arena.Every holds := by
  have ticks := stage.ticks game
  generalize (stage.tick game).2.2 = after at ticks
  cases ticks with
  | idles => exact every
  | @plays id scene active found =>
      refine every.modifyScene id fun stored storedFound had => ?_
      obtain rfl : stored = scene :=
        Option.some.inj (storedFound.symm.trans found)
      exact enduring.played _ _ _ had

theorem every_reset (every : stage.arena.Every holds) :
    stage.reset.2.arena.Every holds := by
  have resets := stage.resets
  generalize stage.reset.2 = after at resets
  cases resets with
  | idles => exact every
  | @restores id _ active same =>
      rw [same.arena, changeScene_arena]
      exact every.modifyScene id fun _ _ => enduring.restored _

omit enduring in
theorem every_unload (every : stage.arena.Every holds) :
    stage.unload.2.arena.Every holds := by
  unfold unload
  split
  · exact every
  · cases stage.active with
    | none => exact every
    | some id => exact every.removeFamily id _

end Stage

end Stagecraft
