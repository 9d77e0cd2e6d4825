import Stagecraft.Proofs.NodeTree.Removal
import Stagecraft.Proofs.Script.Staging
import Stagecraft.Proofs.Stage.Reachable
import Stagecraft.Proofs.Stage.Showing

/-!
# Presenting a family

A stage presents the family that was attached to it: it shows all its scenes below
one root, which is selected, with the properties of their scenery. Swaps, ticks and
resets keep this up, and the family takes all its nodes along when it goes.
-/

namespace Stagecraft

namespace Stage

/-! ## Stages that show alike -/

/-- Whether two stages differ at most in what shows nowhere. -/
structure SameShow (before after : Stage) : Prop where
  settings : after.settings = before.settings
  nodes : after.host.nodes = before.host.nodes
  sceneries : after.arena.sceneries = before.arena.sceneries
  figures : ∀ id, (after.arena.scene? id).map Scene.figure =
    (before.arena.scene? id).map Scene.figure

theorem SameShow.refl (stage : Stage) : SameShow stage stage :=
  ⟨rfl, rfl, rfl, fun _ => rfl⟩

theorem SameShow.trans
    {first second third : Stage} (same : SameShow first second)
    (sameAgain : SameShow second third) :
    SameShow first third :=
  ⟨sameAgain.settings.trans same.settings, sameAgain.nodes.trans same.nodes,
    sameAgain.sceneries.trans same.sceneries,
    fun id => (sameAgain.figures id).trans (same.figures id)⟩

theorem sameShow_modifyScene (stage : Stage) (changed : SceneId)
    {change : Scene → Scene}
    (keeps : ∀ scene, (change scene).figure = scene.figure) :
    SameShow stage
      { stage with arena := stage.arena.modifyScene changed change } := by
  refine ⟨rfl, rfl, rfl, fun id => ?_⟩
  rw [Arena.scene?_modifyScene]
  split
  · rw [Option.map_map]
    congr 1
    funext scene
    exact keeps scene
  · rfl

theorem sameShow_setActivity (stage : Stage) (id : Option SceneId)
    (active : Bool) :
    SameShow stage (stage.setActivity id active) := by
  cases id with
  | none => exact SameShow.refl stage
  | some id => exact stage.sameShow_modifyScene id fun _ => rfl

theorem nodes_perform (host : Host) (call : HostCall) :
    (host.perform call).nodes = host.nodes := by
  cases call with
  | load channel track => cases channel <;> rfl
  | play channel => cases channel <;> rfl
  | stop channel => cases channel <;> rfl
  | camera scene focus => rfl
  | animate scene actor animation => rfl
  | behave scene actor behaviour => rfl

theorem sameShow_call (stage : Stage) (call : HostCall) :
    SameShow stage (stage.call call) :=
  ⟨rfl, nodes_perform stage.host call, rfl, fun _ => rfl⟩

theorem sameShow_resumeMusic (stage : Stage) (track : UInt16) :
    SameShow stage (stage.resumeMusic track) := by
  unfold resumeMusic
  generalize stage.host.musicCalls track = calls
  induction calls generalizing stage with
  | nil => exact SameShow.refl stage
  | cons first rest inductionHypothesis =>
      exact (stage.sameShow_call first).trans (inductionHypothesis _)

theorem sameShow_resumeActiveMusic (stage : Stage) :
    SameShow stage stage.resumeActiveMusic := by
  unfold resumeActiveMusic
  split
  · exact stage.sameShow_resumeMusic _
  · exact SameShow.refl stage

theorem sameShow_promote
    {stage : Stage} {cast : Cast} (fills : cast.Fills stage.map stage.arena)
    {index : SceneIndex} {incoming : SceneId}
    (listed : (index, incoming) ∈ cast.roster)
    (apart : incoming ≠ cast.main) :
    SameShow stage (stage.promote cast.main incoming) := by
  refine ⟨rfl, rfl, Cast.Fills.sceneries_promote stage.arena _ _,
    fun id => ?_⟩
  rw [promote, fills.scene?_promote listed apart, Option.map_map]
  rfl

/-! ## Stages that present a family -/

/-- Whether a stage shows all its scenes below one root, which is selected, on the
scenery that they share, and with the nodes that the content of a family asks
for. -/
structure Presents (floor root : Nat) (loaded : LoadedFamily)
    (stage : Stage) : Prop where
  shows_ : stage.host.nodes.Shows floor root stage.arena
  embodies : stage.arena.Embodies stage.settings.editorMarkers
    (loaded.main :: loaded.sides)
  selected : stage.host.nodes.activeRoot = some root
  props : ∀ id scenery, stage.arena.scenery? id = some scenery →
    stage.host.nodes.props = scenery.props

namespace Presents

variable {floor root : Nat} {loaded : LoadedFamily} {stage : Stage}

theorem of_sameShow (presents : stage.Presents floor root loaded)
    {after : Stage} (same : stage.SameShow after) :
    after.Presents floor root loaded := by
  refine ⟨?_, ?_, ?_, fun id scenery found => ?_⟩
  · rw [same.nodes]
    exact presents.shows_.of_figures same.figures
  · rw [same.settings]
    exact presents.embodies.of_figures same.figures
  · rw [same.nodes]
    exact presents.selected
  · rw [Arena.scenery?, same.sceneries] at found
    rw [same.nodes]
    exact presents.props id scenery found

theorem restage (presents : stage.Presents floor root loaded)
    {id : SceneId} {scene changed : Scene} {host : Host}
    (found : stage.arena.scene? id = some scene)
    (restages : scene.Restages stage.host.nodes changed host.nodes)
    (journal : Journal) :
    Presents floor root loaded
      { stage with
        arena := stage.arena.modifyScene id fun _ => changed
        host := host
        journal := journal } :=
  ⟨presents.shows_.restage found restages,
    presents.embodies.restage found restages,
    restages.company.shape.activeRoot.trans presents.selected,
    fun other scenery stored =>
      restages.company.shape.props.trans (presents.props other scenery stored)⟩

theorem changeScene (presents : stage.Presents floor root loaded)
    (id : SceneId) {change : Scene → NodeTree → Scene × NodeTree}
    (restages : ∀ (scene : Scene) tree,
      scene.Restages tree (change scene tree).1 (change scene tree).2) :
    (stage.changeScene id change).Presents floor root loaded := by
  unfold Stage.changeScene
  split
  · exact presents
  · next scene found =>
      have restaged :
          scene.Restages stage.host.nodes
            (change scene stage.host.nodes).1
            ({ stage.host with
              nodes := (change scene stage.host.nodes).2 } : Host).nodes :=
        restages scene stage.host.nodes
      exact presents.restage found restaged stage.journal

theorem leave (presents : stage.Presents floor root loaded) (id : SceneId) :
    (stage.leave id).Presents floor root loaded := by
  have slept :=
    presents.changeScene id fun scene tree =>
      scene.restages_changeProtagonist tree Actor.acts_kill
  exact slept.of_sameShow (sameShow_setActivity _ _ _)

theorem enter (presents : stage.Presents floor root loaded) (id : SceneId) :
    (stage.enter id).Presents floor root loaded := by
  have woke :=
    presents.changeScene id fun scene tree =>
      scene.restages_changeProtagonist tree Actor.acts_revive
  have active := woke.of_sameShow (sameShow_setActivity _ (some id) true)
  exact ⟨active.shows_, active.embodies, active.selected, active.props⟩

theorem swap (presents : stage.Presents floor root loaded)
    {cast : Cast} (fills : cast.Fills stage.map stage.arena)
    {index : SceneIndex} {incoming : SceneId}
    (listed : (index, incoming) ∈ cast.roster)
    (apart : incoming ≠ cast.main) :
    (stage.swap cast.main incoming).Presents floor root loaded := by
  have promoted :=
    (presents.leave cast.main).of_sameShow
      (sameShow_promote (fills_leave fills cast.main) listed apart)
  exact (promoted.enter incoming).of_sameShow (sameShow_resumeActiveMusic _)

end Presents

/-! ## Ticks and resets -/

theorem zones_trackProtagonist (scene : Scene) :
    (trackProtagonist scene).1.map Zone.node =
      scene.zones.map Zone.node := by
  have tracked (zone : Zone) (position : Vec3) :
      (zone.track position).node = zone.node := by
    unfold Zone.track Zone.enter Zone.leave
    split
    · split <;> rfl
    · split <;> rfl
  unfold trackProtagonist
  split
  · simp only [trackZones, List.map_map]
    congr 1
    funext zone
    exact tracked zone _
  · rfl

theorem restages_played (scene : Scene) (game : GameBank) (nodes : NodeTree)
    (budget : Nat) :
    let after := (playOf scene game nodes).tick budget
    scene.Restages nodes (playedScene after scene) after.nodes := by
  have restages := (playOf scene game nodes).restages_tick budget
  exact ⟨rfl, rfl, rfl, restages.company,
    restages.zones.trans (zones_trackProtagonist scene), rfl⟩

section Operations

variable {floor root : Nat} {loaded : LoadedFamily} {stage : Stage}

theorem Presents.tick (presents : stage.Presents floor root loaded)
    (game : GameBank) :
    (stage.tick game).2.2.Presents floor root loaded := by
  have ticks := stage.ticks game
  generalize (stage.tick game).2.2 = after at ticks
  cases ticks with
  | idles => exact presents
  | @plays id scene active found =>
      exact presents.restage found (restages_played scene game _ _) _

theorem Presents.reset (presents : stage.Presents floor root loaded) :
    stage.reset.2.Presents floor root loaded := by
  unfold Stage.reset
  split
  · exact presents
  · split
    · exact presents
    · next id active =>
        have restored := presents.changeScene id restages_resetScene
        dsimp only
        split
        · exact restored.of_sameShow (sameShow_call _ _)
        · exact restored

/-! ## Coming and going -/

/-- Whether no nodes are left of anything that was ever on a stage. -/
structure Bare (floor : Nat) (stage : Stage) : Prop where
  bare : ∀ id : Nat, floor ≤ id → stage.host.nodes.node? id = none
  old : floor ≤ stage.host.nodes.nextId

theorem Bare.ids_eq (bare : stage.Bare 0) :
    stage.host.nodes.nodes.entries.map Prod.fst = [] := by
  refine List.eq_nil_iff_forall_not_mem.mpr fun id listed => ?_
  have live := (Slots.mem_ids _ id).mp listed
  have missing : stage.host.nodes.nodes.get? id = none :=
    bare.bare id (Nat.zero_le id)
  rw [missing] at live
  simp at live

/-- The family of the active scene takes all its nodes with it. -/
theorem bare_removeFamily (presents : stage.Presents floor root loaded)
    {cast : Cast} (fills : cast.Fills stage.map stage.arena) :
    (stage.removeFamily cast.main).Bare floor := by
  obtain ⟨main, found, _⟩ := fills.mainScene
  have roots (id : SceneId) (top : NodeId)
      (isRoot : (stage.arena.scene? id).map Scene.root = some top) :
      top = root := by
    obtain ⟨scene, isScene, rfl⟩ := Option.map_eq_some_iff.mp isRoot
    exact (presents.shows_.scenes id scene isScene).family
  have last :
      ((stage.arena.familyOf cast.main).filterMap fun member =>
        (stage.arena.scene? member).map Scene.root).getLast? = some root := by
    have first :
        main.root ∈ (stage.arena.familyOf cast.main).filterMap fun member =>
          (stage.arena.scene? member).map Scene.root := by
      refine List.mem_filterMap.mpr ⟨cast.main, ?_, by rw [found]; rfl⟩
      rw [fills.familyOf_main]
      exact List.mem_cons_self
    cases isLast :
        ((stage.arena.familyOf cast.main).filterMap fun member =>
          (stage.arena.scene? member).map Scene.root).getLast? with
    | none =>
        rw [List.getLast?_eq_none_iff] at isLast
        rw [isLast] at first
        simp at first
    | some top =>
        obtain ⟨member, _, isRoot⟩ :=
          List.mem_filterMap.mp (List.mem_of_getLast? isLast)
        rw [roots member top isRoot]
  have nodes :
      (stage.removeFamily cast.main).host.nodes =
        stage.host.nodes.remove root := by
    simp only [removeFamily, Arena.removeFamily, last]
  obtain ⟨nextId, gone⟩ := presents.shows_.rooted.remove
  refine ⟨fun id counts => ?_, ?_⟩
  · rw [nodes]
    exact gone id counts
  · rw [nodes, nextId]
    exact Nat.le_trans presents.shows_.rooted.floor_le presents.shows_.root_le

/-- A family that is attached to an empty stage is presented once its main scene
is chosen. -/
theorem presents_attach (bare : stage.Bare floor)
    (empty : stage.arena.IsEmpty) {target : SceneIndex}
    (fits : loaded.Fits stage.map target) :
    ∃ root, ((stage.attach loaded).activate
      stage.arena.nextScene).Presents floor root loaded := by
  obtain ⟨shows_, embodies⟩ :=
    Attach.shows_family bare.bare bare.old empty.scene loaded
  have fills :=
    Attach.fills_family fits stage.settings.editorMarkers empty
      stage.host.nodes
  obtain ⟨main, found, included⟩ := fills.mainScene
  obtain ⟨scenery, stands⟩ :=
    Option.isSome_iff_exists.mp ((fills.scenery _).mpr rfl)
  rw [Attach.castOf_main] at found
  rw [← included.scenery] at stands
  have family := (shows_.scenes _ main found).family
  have live := shows_.rooted.isSome (Nat.le_refl _) shows_.rooted.root_lt
  let chosen :=
    { (stage.attach loaded).setActivity (some stage.arena.nextScene) true with
      active := some stage.arena.nextScene }
  have sameShow : (stage.attach loaded).SameShow chosen :=
    let marked :=
      (stage.attach loaded).sameShow_setActivity
        (some stage.arena.nextScene) true
    ⟨marked.settings, marked.nodes, marked.sceneries, marked.figures⟩
  have presented :
      (chosen.present main).Presents floor stage.host.nodes.nextId loaded := by
    have onScenery : chosen.arena.scenery? main.scenery = some scenery :=
      stands
    simp only [present, onScenery]
    refine ⟨(shows_.of_figures sameShow.figures).of_nodes rfl,
      embodies.of_figures sameShow.figures, ?_, fun id other stored => ?_⟩
    · have isRoot : chosen.host.nodes.nodes.contains main.root = true :=
        family ▸ live
      show (some main.root).filter _ = _
      rw [Option.filter_some_pos isRoot, family]
    · have onlyOne : id = _ :=
        (fills.scenery id).mp (Option.isSome_iff_exists.mpr ⟨other, stored⟩)
      rw [← included.scenery] at onlyOne
      subst onlyOne
      have same : other = scenery :=
        Option.some.inj (stored.symm.trans stands)
      rw [same]
      rfl
  -- Music and calls to the host come after the family is presented and show
  -- nothing.
  refine ⟨stage.host.nodes.nextId, ?_⟩
  have isMain :
      (stage.attach loaded).arena.scene? stage.arena.nextScene = some main :=
    found
  simp only [activate, isMain]
  exact (presented.of_sameShow (sameShow_resumeMusic _ _)).of_sameShow
    (sameShow_call _ _)

end Operations

end Stage

end Stagecraft
