import Stagecraft.Stage.Order

/-!
# What a stage keeps

No operation changes the map or the settings of a stage, and the parts of a
transition leave the load under way alone. Calls to the host leave scenes and
sceneries alone.
-/

namespace Stagecraft

namespace Stage

/-! ## Calls to the host -/

/-- Whether two stages differ at most in their hosts and journals. -/
structure SameScenes (before after : Stage) : Prop where
  map : after.map = before.map
  settings : after.settings = before.settings
  arena : after.arena = before.arena
  active : after.active = before.active
  flight : after.flight = before.flight

theorem SameScenes.refl (stage : Stage) : SameScenes stage stage :=
  ⟨rfl, rfl, rfl, rfl, rfl⟩

theorem SameScenes.trans
    {first second third : Stage}
    (same : SameScenes first second) (sameAgain : SameScenes second third) :
    SameScenes first third :=
  ⟨sameAgain.map.trans same.map, sameAgain.settings.trans same.settings,
    sameAgain.arena.trans same.arena, sameAgain.active.trans same.active,
    sameAgain.flight.trans same.flight⟩

theorem sameScenes_note (stage : Stage) (entry : Note) :
    SameScenes stage (stage.note entry) :=
  ⟨rfl, rfl, rfl, rfl, rfl⟩

theorem sameScenes_call (stage : Stage) (call : HostCall) :
    SameScenes stage (stage.call call) :=
  ⟨rfl, rfl, rfl, rfl, rfl⟩

theorem sameScenes_changeNodes (stage : Stage) (change : NodeTree → NodeTree) :
    SameScenes stage (stage.changeNodes change) :=
  ⟨rfl, rfl, rfl, rfl, rfl⟩

theorem sameScenes_calls (stage : Stage) (calls : List HostCall) :
    SameScenes stage (calls.foldl call stage) := by
  induction calls generalizing stage with
  | nil =>
      exact SameScenes.refl stage
  | cons first rest inductionHypothesis =>
      exact (sameScenes_call stage first).trans (inductionHypothesis _)

theorem sameScenes_resumeMusic (stage : Stage) (track : UInt16) :
    SameScenes stage (stage.resumeMusic track) :=
  sameScenes_calls stage _

theorem sameScenes_resumeActiveMusic (stage : Stage) :
    SameScenes stage stage.resumeActiveMusic := by
  unfold resumeActiveMusic
  split
  · exact sameScenes_resumeMusic stage _
  · exact SameScenes.refl stage

theorem sameScenes_present (stage : Stage) (scene : Scene) :
    SameScenes stage (stage.present scene) := by
  have rooted :=
    sameScenes_changeNodes stage (·.setActiveRoot (some scene.root))
  unfold present
  split
  · exact rooted.trans (sameScenes_changeNodes _ _)
  · exact rooted

/-! ## The setting of a stage -/

/-- Whether two stages have the same map, the same settings and the same load
under way. -/
structure SameSetting (before after : Stage) : Prop where
  map : after.map = before.map
  settings : after.settings = before.settings
  flight : after.flight = before.flight

theorem SameSetting.refl (stage : Stage) : SameSetting stage stage :=
  ⟨rfl, rfl, rfl⟩

theorem SameSetting.trans
    {first second third : Stage}
    (same : SameSetting first second) (sameAgain : SameSetting second third) :
    SameSetting first third :=
  ⟨sameAgain.map.trans same.map, sameAgain.settings.trans same.settings,
    sameAgain.flight.trans same.flight⟩

theorem SameScenes.sameSetting
    {before after : Stage} (same : SameScenes before after) :
    SameSetting before after :=
  ⟨same.map, same.settings, same.flight⟩

theorem sameSetting_changeScene (stage : Stage) (id : SceneId)
    (change : Scene → NodeTree → Scene × NodeTree) :
    SameSetting stage (stage.changeScene id change) := by
  unfold changeScene
  split
  · exact SameSetting.refl stage
  · exact ⟨rfl, rfl, rfl⟩

theorem changeScene_active (stage : Stage) (changed : SceneId)
    (change : Scene → NodeTree → Scene × NodeTree) :
    (stage.changeScene changed change).active = stage.active := by
  unfold changeScene
  split
  · rfl
  · rfl

theorem sameSetting_setActivity (stage : Stage) (id : Option SceneId)
    (active : Bool) :
    SameSetting stage (stage.setActivity id active) := by
  cases id <;> exact ⟨rfl, rfl, rfl⟩

theorem sameSetting_removeFamily (stage : Stage) (id : SceneId) :
    SameSetting stage (stage.removeFamily id) :=
  ⟨rfl, rfl, rfl⟩

theorem sameSetting_leave (stage : Stage) (id : SceneId) :
    SameSetting stage (stage.leave id) :=
  (sameSetting_changeScene stage id _).trans (sameSetting_setActivity _ _ _)

theorem sameSetting_enter (stage : Stage) (id : SceneId) :
    SameSetting stage (stage.enter id) := by
  have awake :=
    (sameSetting_changeScene stage id fun scene =>
      scene.changeProtagonist Actor.revive).trans
        (sameSetting_setActivity _ (some id) true)
  exact ⟨awake.map, awake.settings, awake.flight⟩

theorem sameSetting_swap (stage : Stage) (outgoing incoming : SceneId) :
    SameSetting stage (stage.swap outgoing incoming) := by
  have left := sameSetting_leave stage outgoing
  have promoted :
      SameSetting (stage.leave outgoing)
        ((stage.leave outgoing).promote outgoing incoming) :=
    ⟨rfl, rfl, rfl⟩
  have entered :=
    (left.trans promoted).trans (sameSetting_enter _ incoming)
  exact entered.trans (sameScenes_resumeActiveMusic _).sameSetting

theorem sameSetting_activate (stage : Stage) (id : SceneId) :
    SameSetting stage (stage.activate id) := by
  unfold activate
  split
  · exact SameSetting.refl stage
  · next scene _ =>
      have chosen :
          SameSetting stage
            { stage.setActivity (some id) true with active := some id } :=
        ⟨rfl, rfl, rfl⟩
      have presented :=
        chosen.trans (sameScenes_present _ scene).sameSetting
      have playing :=
        presented.trans
          (sameScenes_resumeMusic _ scene.ambience.track).sameSetting
      exact playing.trans (sameScenes_call _ _).sameSetting

theorem sameSetting_clear (stage : Stage) (previous : Option SceneId) :
    SameSetting stage (stage.clear previous) := by
  cases previous with
  | none => exact SameSetting.refl stage
  | some id => exact sameSetting_removeFamily stage id

theorem sameSetting_attach (stage : Stage) (loaded : LoadedFamily) :
    SameSetting stage (stage.attach loaded) :=
  ⟨rfl, rfl, rfl⟩

theorem sameSetting_replace (stage : Stage) (previous : Option SceneId)
    (loaded : LoadedFamily) :
    SameSetting stage (stage.replace previous loaded) :=
  ((sameSetting_clear stage previous).trans
    (sameSetting_attach _ loaded)).trans (sameSetting_activate _ _)

theorem sameSetting_unload (stage : Stage) :
    SameSetting stage stage.unload.2 := by
  unfold unload
  by_cases loading : stage.isLoading = true
  · rw [if_pos loading]
    exact SameSetting.refl stage
  · rw [if_neg loading]
    cases stage.active with
    | none => exact SameSetting.refl stage
    | some id => exact ⟨rfl, rfl, rfl⟩

theorem sameSetting_conclude (stage : Stage) (flight : Flight)
    (result : Except LoadError LoadedFamily) :
    SameSetting { stage with flight := none }
      (stage.conclude flight result).2 := by
  cases result with
  | ok loaded => exact sameSetting_replace _ _ _
  | error error =>
      exact (sameScenes_note _ _).sameSetting.trans
        (sameSetting_setActivity _ _ _)

end Stage

end Stagecraft
