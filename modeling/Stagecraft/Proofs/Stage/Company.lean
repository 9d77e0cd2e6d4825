import Stagecraft.Proofs.Stage.Attachment
import Stagecraft.Proofs.Stage.Courses

/-!
# The company of a stage

Between any two acts the arena of a stage holds the family of the active scene and
nothing else, or nothing at all if there is no active scene. Swaps keep the family
together and change only its main scene.
-/

namespace Stagecraft

/-- Whether no scene but one is active. -/
def Arena.AsleepBut (awake : Option SceneId) (arena : Arena) : Prop :=
  ∀ id scene, arena.scene? id = some scene →
    some id ≠ awake → scene.active = false

/-- Whether two casts are the same family, whoever leads it. -/
def SameCompany (before after : Option Cast) : Prop :=
  after.map (Cast.ledBy 0) = before.map (Cast.ledBy 0)

theorem SameCompany.refl (cast? : Option Cast) : SameCompany cast? cast? :=
  rfl

theorem SameCompany.trans
    {first second third : Option Cast}
    (same : SameCompany first second) (sameAgain : SameCompany second third) :
    SameCompany first third :=
  Eq.trans sameAgain same

theorem SameCompany.symm
    {before after : Option Cast} (same : SameCompany before after) :
    SameCompany after before :=
  Eq.symm same

/-- A family and its leader are all that there is to a cast. -/
theorem SameCompany.eq_of_main
    {first second : Cast} (same : SameCompany (some first) (some second))
    (main : first.main = second.main) :
    first = second := by
  have company : second.ledBy 0 = first.ledBy 0 := Option.some.inj same
  calc
    first = (first.ledBy 0).ledBy first.main := rfl
    _ = (second.ledBy 0).ledBy second.main := by rw [company, main]
    _ = second := rfl

theorem sameCompany_ledBy (cast : Cast) (main : SceneId) :
    SameCompany (some cast) (some (cast.ledBy main)) :=
  rfl

namespace Arena

theorem AsleepBut.modifyScene
    {awake : Option SceneId} {arena : Arena} (asleep : arena.AsleepBut awake)
    {changed : SceneId} {change : Scene → Scene}
    (keeps : ∀ scene, arena.scene? changed = some scene →
      (change scene).active = scene.active) :
    (arena.modifyScene changed change).AsleepBut awake := by
  intro id scene found apart
  rw [scene?_modifyScene] at found
  by_cases own : id = changed
  · subst own
    rw [if_pos rfl, Option.map_eq_some_iff] at found
    obtain ⟨before, was, rfl⟩ := found
    rw [keeps before was]
    exact asleep id before was apart
  · rw [if_neg own] at found
    exact asleep id scene found apart

/-- The one scene that may be awake can be woken and put to sleep. -/
theorem AsleepBut.withActive
    {arena : Arena} {id : SceneId} (asleep : arena.AsleepBut (some id))
    (active : Bool) :
    (arena.modifyScene id (Scene.withActive active)).AsleepBut (some id) := by
  intro other scene found apart
  have different : other ≠ id := fun same => apart (congrArg some same)
  rw [scene?_modifyScene, if_neg different] at found
  exact asleep other scene found apart

theorem AsleepBut.putToSleep
    {arena : Arena} {id : SceneId} (asleep : arena.AsleepBut (some id)) :
    (arena.modifyScene id (Scene.withActive false)).AsleepBut none := by
  intro other scene found _
  by_cases own : other = id
  · subst own
    rw [scene?_modifyScene, if_pos rfl, Option.map_eq_some_iff] at found
    obtain ⟨before, _, rfl⟩ := found
    rfl
  · have apart : some other ≠ some id := fun same =>
      own (Option.some.inj same)
    exact asleep.withActive false other scene found apart

theorem AsleepBut.of_none
    {arena : Arena} (asleep : arena.AsleepBut none)
    (awake : Option SceneId) :
    arena.AsleepBut awake :=
  fun id scene found _ => asleep id scene found (by simp)

end Arena

namespace Stage

/-- Whether a stage holds the family of its active scene and nothing else, or
nothing at all. -/
inductive Houses (stage : Stage) : Option Cast → Prop where
  | nothing
      (inactive : stage.active = none)
      (empty : stage.arena.IsEmpty) :
      Houses stage none
  | family {cast : Cast}
      (active : stage.active = some cast.main)
      (fills : cast.Fills stage.map stage.arena)
      (asleep : stage.arena.AsleepBut (some cast.main)) :
      Houses stage (some cast)

theorem houses_bare (map : SceneMap) (settings : StageSettings)
    (host : Host) :
    (bare map settings host).Houses none :=
  .nothing rfl Arena.isEmpty_empty

namespace Houses

variable {stage : Stage} {cast? : Option Cast}

theorem leads {cast : Cast} (houses : stage.Houses (some cast)) :
    stage.active = some cast.main := by
  cases houses with
  | family leads fills asleep => exact leads

theorem fills {cast : Cast} (houses : stage.Houses (some cast)) :
    cast.Fills stage.map stage.arena := by
  cases houses with
  | family leads fills asleep => exact fills

/-- The active scene leads a family. -/
theorem cast_of_active (houses : stage.Houses cast?) {active : SceneId}
    (isActive : stage.active = some active) :
    ∃ cast, cast? = some cast ∧ cast.main = active := by
  cases houses with
  | nothing inactive empty =>
      rw [inactive] at isActive
      simp at isActive
  | family leads fills asleep =>
      exact ⟨_, rfl, Option.some.inj (leads.symm.trans isActive)⟩

theorem of_same
    (houses : stage.Houses cast?) {after : Stage}
    (map : after.map = stage.map) (arena : after.arena = stage.arena)
    (active : after.active = stage.active) :
    after.Houses cast? := by
  cases houses with
  | nothing inactive empty =>
      exact .nothing (active.trans inactive) (arena ▸ empty)
  | family leads fills asleep =>
      refine .family (active.trans leads) ?_ (arena ▸ asleep)
      rw [map, arena]
      exact fills

theorem of_sameScenes
    (houses : stage.Houses cast?) {after : Stage}
    (same : stage.SameScenes after) :
    after.Houses cast? :=
  houses.of_same same.map same.arena same.active

/-- A change that leaves the part and the activity of a scene alone keeps the
company. -/
theorem modifyScene
    (houses : stage.Houses cast?) {changed : SceneId}
    {change : Scene → Scene}
    (part : ∀ scene, stage.arena.scene? changed = some scene →
      scene.SamePart (change scene))
    (activity : ∀ scene, stage.arena.scene? changed = some scene →
      (change scene).active = scene.active)
    (host : Host) (journal : Journal) :
    Houses
      { stage with
        arena := stage.arena.modifyScene changed change
        host := host
        journal := journal }
      cast? := by
  cases houses with
  | nothing inactive empty =>
      exact .nothing inactive (empty.modifyScene changed change)
  | family leads fills asleep =>
      exact .family leads (fills.modifyScene part)
        (asleep.modifyScene activity)

end Houses

/-! ## Changing one scene -/

section Changes

variable {stage : Stage} {change : Scene → NodeTree → Scene × NodeTree}

/-- To change a scene together with the nodes changes at most that scene. -/
theorem changeScene_arena (stage : Stage) (changed : SceneId)
    (change : Scene → NodeTree → Scene × NodeTree) :
    (stage.changeScene changed change).arena =
      stage.arena.modifyScene changed fun scene =>
        (change scene stage.host.nodes).1 := by
  unfold changeScene
  split
  · next missing =>
      rw [Arena.modifyScene, Slots.modify_of_get?_eq_none _ missing]
  · next scene found =>
      simp only [Arena.modifyScene, Arena.mk.injEq, and_true]
      refine stage.arena.scenes.modify_congr changed fun entry stored => ?_
      have same : entry = scene := Option.some.inj (stored.symm.trans found)
      rw [same]

theorem fills_changeScene
    {cast : Cast} (fills : cast.Fills stage.map stage.arena)
    (changed : SceneId)
    (part : ∀ (scene : Scene) nodes, scene.SamePart (change scene nodes).1) :
    cast.Fills (stage.changeScene changed change).map
      (stage.changeScene changed change).arena := by
  rw [(sameSetting_changeScene stage changed change).map,
    changeScene_arena]
  exact fills.modifyScene fun scene _ => part scene _

theorem asleepBut_changeScene
    {awake : Option SceneId} (asleep : stage.arena.AsleepBut awake)
    (changed : SceneId)
    (activity : ∀ (scene : Scene) nodes,
      (change scene nodes).1.active = scene.active) :
    (stage.changeScene changed change).arena.AsleepBut awake := by
  rw [changeScene_arena]
  exact asleep.modifyScene fun scene _ => activity scene _

/-- A change that leaves the part and the activity of scenes alone keeps the
company. -/
theorem Houses.changeScene
    {cast? : Option Cast} (houses : stage.Houses cast?) (changed : SceneId)
    (part : ∀ (scene : Scene) nodes, scene.SamePart (change scene nodes).1)
    (activity : ∀ (scene : Scene) nodes,
      (change scene nodes).1.active = scene.active) :
    (stage.changeScene changed change).Houses cast? := by
  have sameActive := stage.changeScene_active changed change
  cases houses with
  | nothing inactive empty =>
      refine .nothing (sameActive.trans inactive) ?_
      rw [changeScene_arena]
      exact empty.modifyScene changed _
  | family leads fills asleep =>
      exact .family (sameActive.trans leads)
        (fills_changeScene fills changed part)
        (asleepBut_changeScene asleep changed activity)

/-- The activity of the active scene may be switched. -/
theorem Houses.setActivity
    {cast? : Option Cast} (houses : stage.Houses cast?) (active : Bool) :
    (stage.setActivity stage.active active).Houses cast? := by
  cases houses with
  | nothing inactive empty =>
      rw [inactive]
      exact .nothing inactive empty
  | @family cast leads fills asleep =>
      rw [leads]
      exact .family leads
        (fills.modifyScene fun scene _ => scene.samePart_withActive active)
        (asleep.withActive active)

end Changes

/-! ## Swapping -/

/-- A side scene that the active scene leads to is another member of its
family. -/
theorem Houses.member_of_sideTarget
    {stage : Stage} {cast? : Option Cast} (houses : stage.Houses cast?)
    {target : SceneIndex} {outgoing incoming : SceneId}
    (side : stage.sideTarget? target = some (outgoing, incoming)) :
    ∃ cast, cast? = some cast ∧ cast.main = outgoing ∧
      (target, incoming) ∈ cast.roster ∧ incoming ≠ cast.main := by
  simp only [sideTarget?, Option.bind_eq_bind, Option.bind_eq_some_iff,
    Option.pure_def, Option.some.injEq, Prod.mk.injEq] at side
  obtain ⟨active, isActive, scene, found, side, leads, same, rfl⟩ := side
  subst same
  cases houses with
  | nothing inactive empty =>
      rw [inactive] at isActive
      simp at isActive
  | @family cast active_ fills asleep =>
      rw [active_, Option.some.injEq] at isActive
      subst isActive
      exact ⟨cast, rfl, rfl, (fills.side?_main found target side).mp leads⟩

theorem fills_promote
    {stage : Stage} {cast : Cast} (fills : cast.Fills stage.map stage.arena)
    {index : SceneIndex} {incoming : SceneId}
    (listed : (index, incoming) ∈ cast.roster)
    (apart : incoming ≠ cast.main) :
    (cast.ledBy incoming).Fills (stage.promote cast.main incoming).map
      (stage.promote cast.main incoming).arena :=
  fills.promote listed apart

theorem asleepBut_promote
    {stage : Stage} {cast : Cast} (fills : cast.Fills stage.map stage.arena)
    (asleep : stage.arena.AsleepBut none)
    {index : SceneIndex} {incoming : SceneId}
    (listed : (index, incoming) ∈ cast.roster)
    (apart : incoming ≠ cast.main) :
    (stage.promote cast.main incoming).arena.AsleepBut none := by
  intro id scene found different
  have lookUp := fills.scene?_promote listed apart id
  rw [promote, lookUp, Option.map_eq_some_iff] at found
  obtain ⟨before, was, rfl⟩ := found
  exact asleep id before was different

theorem fills_leave
    {stage : Stage} {cast : Cast} (fills : cast.Fills stage.map stage.arena)
    (id : SceneId) :
    cast.Fills (stage.leave id).map (stage.leave id).arena := by
  have changed :=
    fills_changeScene fills id fun scene =>
      scene.samePart_changeProtagonist Actor.kill
  exact changed.modifyScene fun scene _ => scene.samePart_withActive false

theorem asleepBut_leave
    {stage : Stage} {id : SceneId}
    (asleep : stage.arena.AsleepBut (some id)) :
    (stage.leave id).arena.AsleepBut none := by
  have changed :=
    asleepBut_changeScene asleep id fun scene =>
      Attach.active_changeProtagonist scene Actor.kill
  exact changed.putToSleep

theorem houses_enter
    {stage : Stage} {cast : Cast} (fills : cast.Fills stage.map stage.arena)
    (asleep : stage.arena.AsleepBut none) :
    (stage.enter cast.main).Houses (some cast) := by
  have changedFills :=
    fills_changeScene fills cast.main fun scene =>
      scene.samePart_changeProtagonist Actor.revive
  have changedAsleep :=
    asleepBut_changeScene (asleep.of_none (some cast.main)) cast.main
      fun scene => Attach.active_changeProtagonist scene Actor.revive
  exact .family rfl
    (changedFills.modifyScene fun scene _ => scene.samePart_withActive true)
    (changedAsleep.withActive true)

/-- A swap makes another member of the family its main scene. -/
theorem houses_swap
    {stage : Stage} {cast : Cast} (houses : stage.Houses (some cast))
    {index : SceneIndex} {incoming : SceneId}
    (listed : (index, incoming) ∈ cast.roster)
    (apart : incoming ≠ cast.main) :
    (stage.swap cast.main incoming).Houses (some (cast.ledBy incoming)) := by
  cases houses with
  | family active fills asleep =>
      have leftFills := fills_leave fills cast.main
      have leftAsleep := asleepBut_leave asleep
      have promotedFills := fills_promote leftFills listed apart
      have promotedAsleep :=
        asleepBut_promote leftFills leftAsleep listed apart
      unfold swap
      -- What is known of the promotion is all that the rest needs.
      generalize
        (stage.leave cast.main).promote cast.main incoming = promoted at *
      have entered : (promoted.enter incoming).Houses _ :=
        houses_enter promotedFills promotedAsleep
      exact entered.of_sameScenes (sameScenes_resumeActiveMusic _)

/-! ## Replacing and unloading -/

theorem removeFamily_isEmpty
    {stage : Stage} {cast : Cast}
    (fills : cast.Fills stage.map stage.arena) :
    (stage.removeFamily cast.main).arena.IsEmpty :=
  fills.removeFamily stage.host.nodes

/-- A loaded family takes the place of everything that was on the stage. -/
theorem houses_activate
    {stage : Stage} {cast : Cast}
    (fills : cast.Fills stage.map stage.arena)
    (asleep : stage.arena.AsleepBut none) :
    (stage.activate cast.main).Houses (some cast) := by
  obtain ⟨main, found, _⟩ := fills.mainScene
  have chosen :
      Houses
        { stage.setActivity (some cast.main) true with
          active := some cast.main }
        (some cast) :=
    .family rfl
      (fills.modifyScene fun scene _ => scene.samePart_withActive true)
      ((asleep.of_none _).withActive true)
  simp only [activate, found]
  exact ((chosen.of_sameScenes (sameScenes_present _ main)).of_sameScenes
    (sameScenes_resumeMusic _ _)).of_sameScenes (sameScenes_call _ _)

theorem isEmpty_clear
    {stage : Stage} {cast? : Option Cast} (houses : stage.Houses cast?) :
    (stage.clear stage.active).arena.IsEmpty := by
  cases houses with
  | nothing inactive empty =>
      rw [inactive]
      exact empty
  | family active fills asleep =>
      rw [active]
      exact removeFamily_isEmpty fills

/-- A loaded family that is attached after everything else has left fills the
stage. -/
theorem fills_attach
    {stage : Stage} {cast? : Option Cast} (houses : stage.Houses cast?)
    {target : SceneIndex} {loaded : LoadedFamily}
    (fits : loaded.Fits stage.map target) :
    let cleared := stage.clear stage.active
    (Attach.castOf loaded cleared.arena cleared.host.nodes).Fills
      (cleared.attach loaded).map (cleared.attach loaded).arena := by
  have sameMap := (sameSetting_clear stage stage.active).map
  exact Attach.fills_family (sameMap ▸ fits) _ (isEmpty_clear houses) _

theorem asleepBut_attach
    {stage : Stage} {cast? : Option Cast} (houses : stage.Houses cast?)
    {target : SceneIndex} {loaded : LoadedFamily}
    (fits : loaded.Fits stage.map target) :
    ((stage.clear stage.active).attach loaded).arena.AsleepBut none := by
  intro id scene found _
  have sameMap := (sameSetting_clear stage stage.active).map
  exact Attach.asleep_family (sameMap ▸ fits) _ (isEmpty_clear houses) _ found

theorem houses_replace
    {stage : Stage} {cast? : Option Cast} (houses : stage.Houses cast?)
    {target : SceneIndex} {loaded : LoadedFamily}
    (fits : loaded.Fits stage.map target) :
    ∃ cast, (stage.replace stage.active loaded).Houses (some cast) := by
  have fills := fills_attach houses fits
  have asleep := asleepBut_attach houses fits
  have activated := houses_activate fills asleep
  rw [Attach.castOf_main] at activated
  unfold replace
  exact ⟨_, activated⟩

theorem houses_unload
    {stage : Stage} {cast? : Option Cast} (houses : stage.Houses cast?) :
    (stage.unload.1 = true ∧ stage.unload.2.Houses none) ∨
      (stage.unload.1 = false ∧ stage.unload.2 = stage) := by
  unfold unload
  by_cases loading : stage.isLoading = true
  · rw [if_pos loading]
    exact .inr ⟨rfl, rfl⟩
  · rw [if_neg loading]
    cases houses with
    | nothing inactive empty =>
        rw [inactive]
        exact .inr ⟨rfl, rfl⟩
    | @family cast active fills asleep =>
        have emptied :
            (removeFamily { stage with active := none }
              cast.main).arena.IsEmpty :=
          fills.removeFamily stage.host.nodes
        have inactive :
            (removeFamily { stage with active := none }
              cast.main).active = none :=
          rfl
        rw [active]
        dsimp only
        generalize
          removeFamily { stage with active := none } cast.main = cleared at *
        exact .inl ⟨rfl, .nothing inactive emptied⟩

/-! ## Ticks and resets -/

theorem samePart_playedScene (play : Play) (scene : Scene) :
    scene.SamePart (playedScene play scene) :=
  ⟨rfl, rfl, rfl, rfl, rfl⟩

theorem samePart_resetScene (scene : Scene) (nodes : NodeTree) :
    scene.SamePart (resetScene scene nodes).1 :=
  ⟨rfl, rfl, rfl, rfl, rfl⟩

theorem houses_tick
    {stage : Stage} {cast? : Option Cast} (houses : stage.Houses cast?)
    (game : GameBank) :
    (stage.tick game).2.2.Houses cast? := by
  have ticks := stage.ticks game
  generalize (stage.tick game).2.2 = after at ticks
  cases ticks with
  | idles => exact houses
  | @plays id scene active found =>
      have only {other : Scene}
          (stored : stage.arena.scene? id = some other) : other = scene :=
        Option.some.inj (stored.symm.trans found)
      refine houses.modifyScene ?part ?activity _ _
      case part =>
        intro other stored
        obtain rfl := only stored
        exact samePart_playedScene _ other
      case activity =>
        intro other stored
        obtain rfl := only stored
        rfl

theorem houses_reset
    {stage : Stage} {cast? : Option Cast} (houses : stage.Houses cast?) :
    stage.reset.2.Houses cast? := by
  have resets := stage.resets
  generalize stage.reset.2 = after at resets
  cases resets with
  | idles => exact houses
  | @restores id _ active same =>
      have restored :=
        houses.changeScene id samePart_resetScene fun _ _ => rfl
      exact restored.of_sameScenes same

end Stage

end Stagecraft
