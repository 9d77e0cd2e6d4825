import Stagecraft.Proofs.Stage.Doubles
import Stagecraft.Proofs.Stage.Frozen

/-!
# Starting over

To put the active scene back is as good as to load it anew as the main scene of a
family: the same actors, zones and variables, which look the same and play the same
from then on. To do it again changes nothing, and nothing else is touched.
-/

namespace Stagecraft

/-! ## Putting back what is back -/

theorem NodeTree.modify_of_same {tree : NodeTree} {id : NodeId} {node : Node}
    (found : tree.node? id = some node) {change : Node → Node}
    (same : change node = node) :
    tree.modify id change = tree := by
  have kept :
      tree.nodes.modify id change = tree.nodes.modify id fun node => node :=
    tree.nodes.modify_congr id fun entry known => by
      obtain rfl := Option.some.inj (found.symm.trans known)
      exact same
  rw [modify, kept, Slots.modify_id]

/-- An actor at its spawn that is displayed there need not be put back. -/
theorem Actor.reset_of_displays {actor : Actor} {tree : NodeTree}
    (displays : tree.Displays actor) (spawned : actor.atSpawn = actor) :
    (actor.reset tree).2 = tree := by
  have position : actor.spawn.position = actor.position :=
    (congrArg Actor.position spawned :)
  have awake : true = actor.alive := (congrArg Actor.alive spawned :)
  simp only [reset, display, place]
  cases known : actor.node with
  | none => rfl
  | some id =>
      obtain ⟨node, found, stands, visible⟩ := displays id known
      have placed : tree.setPosition id actor.spawn.position = tree :=
        NodeTree.modify_of_same found (by rw [position, ← stands])
      have shown : tree.setVisible id true = tree :=
        NodeTree.modify_of_same found (by rw [awake, ← visible])
      simp only [placed, shown]

theorem resetActors_of_displays {actors : List Actor} {tree : NodeTree}
    (displays : ∀ actor ∈ actors, tree.Displays actor)
    (spawned : ∀ actor ∈ actors, actor.atSpawn = actor) :
    (resetActors actors tree).2 = tree := by
  induction actors with
  | nil => rfl
  | cons first rest inductionHypothesis =>
      rw [List.forall_mem_cons] at displays spawned
      simp only [resetActors,
        Actor.reset_of_displays displays.1 spawned.1]
      exact inductionHypothesis displays.2 spawned.2

namespace Stage

variable {stage : Stage} {id : SceneId} {scene : Scene}

/-- What becomes of a stage when its active scene is put back. -/
theorem reset_of_active (idle : stage.flight = none)
    (active : stage.active = some id)
    (found : stage.arena.scene? id = some scene) :
    stage.reset.1 = true ∧
      stage.reset.2.arena =
        stage.arena.modifyScene id (fun _ => scene.restored) ∧
      stage.reset.2.host.nodes =
        (resetActors scene.actors stage.host.nodes).2 := by
  have changed :
      stage.changeScene id resetScene =
        { stage with
          arena := stage.arena.modifyScene id fun _ => scene.restored
          host :=
            { stage.host with
              nodes := (resetActors scene.actors stage.host.nodes).2 } } := by
    simp only [changeScene, found, ← scene.resetScene_scene stage.host.nodes]
    rfl
  have now :
      (stage.changeScene id resetScene).activeScene? =
        some scene.restored := by
    rw [changed]
    simp only [activeScene?, active, Option.bind_some,
      Arena.scene?_modifyScene, found, if_true, Option.map_some]
  have loading : stage.isLoading = false :=
    stage.isLoading_eq_false_iff.mpr idle
  have reset :
      stage.reset =
        (true, (stage.changeScene id resetScene).call
          (.camera scene.restored.index
            (scene.restored.protagonist?.map Actor.position))) := by
    simp only [Stage.reset, loading, active, now]
    rfl
  rw [reset, changed]
  exact ⟨rfl, rfl, nodes_perform _ _⟩

/-- To put a scene back twice is to put it back once. -/
theorem reset_reset (idle : stage.flight = none)
    (active : stage.active = some id)
    (found : stage.arena.scene? id = some scene)
    (displays : ∀ actor ∈ scene.restored.actors,
      stage.reset.2.host.nodes.Displays actor) :
    stage.reset.2.reset.2.arena = stage.reset.2.arena ∧
      stage.reset.2.reset.2.host.nodes = stage.reset.2.host.nodes := by
  obtain ⟨_, arena, _⟩ := reset_of_active idle active found
  have idleStill : stage.reset.2.flight = none :=
    stage.reset_flight.trans idle
  have activeStill : stage.reset.2.active = some id :=
    stage.sameSetting_reset.2.trans active
  have foundStill :
      stage.reset.2.arena.scene? id = some scene.restored := by
    rw [arena, Arena.scene?_modifyScene, if_pos rfl, found, Option.map_some]
  obtain ⟨_, arenaAgain, nodesAgain⟩ :=
    reset_of_active idleStill activeStill foundStill
  refine ⟨?_, ?_⟩
  · rw [arenaAgain, Scene.restored_restored, arena]
    simp only [Arena.modifyScene, Slots.modify_modify]
  · rw [nodesAgain]
    refine resetActors_of_displays displays fun actor listed => ?_
    obtain ⟨before, _, rfl⟩ := List.mem_map.mp listed
    exact before.atSpawn_atSpawn

end Stage

/-! ## Loading anew -/

/-- The main scene of an attached family has the next id. -/
theorem Attach.main_family (markers : Bool) {loaded : LoadedFamily}
    (ascending : (loaded.sides.map LoadedScene.index).Pairwise (· < ·))
    (arena : Arena) (nodes : NodeTree) :
    ∃ main, (family markers loaded arena nodes).1.scene? arena.nextScene =
        some main ∧
      main.IsFresh loaded.main := by
  let root := nodes.nextId
  let placed :=
    scene markers arena.nextScenery root (mainLink loaded.main.kind [])
      loaded.main
      ((nodes.create (rootName loaded.main.kind)).addBelow root
        ("scenery_" ++ loaded.scenery.name) Vec3.zero)
  let rest := (arena.addScenery loaded.scenery).addScene placed.1
  have added :=
    addsSides markers arena.nextScene arena.nextScenery root ascending rest
      placed.2
  have stands : rest.scene? arena.nextScene = some placed.1 := by
    rw [Arena.scene?_addScene, Arena.nextScene_addScenery, if_pos rfl]
  let sides :=
    sides markers arena.nextScene arena.nextScenery root loaded.sides rest
      placed.2
  have older : arena.nextScene < rest.nextScene := by simp [rest]
  have fresh : placed.1.IsFresh loaded.main :=
    Scene.isFresh_attached markers _ root _ loaded.main _
  refine ⟨placed.1.withLink (mainLink loaded.main.kind sides.1), ?_,
    fresh.replaced (mainLink loaded.main.kind sides.1) placed.1.active⟩
  show (sides.2.1.modifyScene arena.nextScene _).scene? arena.nextScene = _
  rw [Arena.scene?_modifyScene, if_pos rfl, added.older _ older, stands]
  rfl

/-- The main scene of a family that was put on the stage is as it was attached. -/
theorem Stage.main_of_replace {stage : Stage} {target : SceneIndex}
    {loaded : LoadedFamily} (fits : loaded.Fits stage.map target) :
    ∃ id main, (stage.replace stage.active loaded).active = some id ∧
      (stage.replace stage.active loaded).arena.scene? id = some main ∧
      main.IsFresh loaded.main := by
  obtain ⟨main, found, fresh⟩ :=
    Attach.main_family (stage.clear stage.active).settings.editorMarkers
      (Attach.sides_ascending fits) (stage.clear stage.active).arena
      (stage.clear stage.active).host.nodes
  obtain ⟨active, arena⟩ :=
    @scene?_activate ((stage.clear stage.active).attach loaded) _ main found
  refine ⟨_, main.withActive true, active, ?_, fresh.replaced main.link true⟩
  unfold replace
  rw [arena, Arena.scene?_modifyScene, if_pos rfl]
  exact congrArg (Option.map (Scene.withActive true)) found

namespace Theatre

/-- Whether no load is under way and the active scene is a loaded scene as it was
attached, with its actors where the node tree has them. -/
structure Opens (part : LoadedScene) (id : SceneId) (scene : Scene)
    (theatre : Theatre) : Prop where
  idle : theatre.stage.flight = none
  active : theatre.stage.active = some id
  found : theatre.stage.arena.scene? id = some scene
  fresh : scene.IsFresh part
  compiled : part.Compiled
  displays : ∀ actor ∈ scene.actors, theatre.stage.host.nodes.Displays actor

section Openings

variable {theatre other : Theatre} {part otherPart : LoadedScene}
  {id otherId : SceneId} {scene otherScene : Scene}

theorem Opens.doubles (opens : theatre.Opens part id scene)
    (opensOther : other.Opens otherPart otherId otherScene)
    (same : otherPart.content = part.content) :
    scene.Doubles otherScene :=
  LoadedScene.doubles_of_content same opens.compiled opensOther.compiled
    opens.fresh opensOther.fresh

/-- Theatres that open with the same content show the same actors. -/
theorem Opens.sights (opens : theatre.Opens part id scene)
    (opensOther : other.Opens otherPart otherId otherScene)
    (same : otherPart.content = part.content) :
    other.stage.host.nodes.sights otherScene.actors =
      theatre.stage.host.nodes.sights scene.actors :=
  NodeTree.sights_congr opens.displays opensOther.displays
    (opens.doubles opensOther same).actors
    (LoadedScene.isSome_nodes_of_content same opens.fresh opensOther.fresh)

/-- Theatres that open with the same content and the same game variables play the
same. -/
theorem Opens.ticks (opens : theatre.Opens part id scene)
    (opensOther : other.Opens otherPart otherId otherScene)
    (same : otherPart.content = part.content)
    (budget : other.stage.settings.stepBudget =
      theatre.stage.settings.stepBudget)
    (bank : GameBank) (count : Nat) :
    let ticks := .change bank :: List.replicate count .tick
    other.answers ticks = theatre.answers ticks ∧
      (other.run ticks).game = (theatre.run ticks).game := by
  have alike : theatre.stage.PlaysLike other.stage :=
    ⟨opens.idle, opensOther.idle, budget, id, scene, otherId, otherScene,
      opens.active, opens.found, opensOther.active, opensOther.found,
      opens.doubles opensOther same⟩
  obtain ⟨answers, games⟩ :=
    @ticks_alike (theatre.perform (.change bank)).2
      (other.perform (.change bank)).2 alike rfl count
  exact ⟨congrArg (Answer.changed :: ·) answers, games⟩

end Openings

section Reachable

variable (map : SceneMap) (settings : StageSettings) (host : Host)
  (game : GameBank) (acts : List Act)

/-- A theatre in which a family has just arrived opens with its main scene. -/
theorem opens_of_arrival {act : Act} {loaded : LoadedFamily}
    (arrives :
      ((opening map settings host game).run acts).arrival? act = some loaded) :
    ∃ id main, (((opening map settings host game).run acts).perform act).2.Opens
      loaded.main id main := by
  obtain ⟨cast?, sound⟩ := sound_reachable map settings host game acts
  have loads := loads_reachable LoadContext.returns_compiled map settings host
    game acts
  have compiled : loaded.main.Compiled :=
    loads.2 act loaded arrives loaded.main List.mem_cons_self
  have shown := displays_reachable map settings host game (acts ++ [act])
  rw [run_append] at shown
  have proceeds := proceeds_perform sound act
  rw [arrives] at proceeds
  cases proceeds with
  | @receives landing _ houses idle _ _ fits _ replaced =>
      obtain ⟨id, main, active, found, fresh⟩ := Stage.main_of_replace fits
      have same := Stage.sameSetting_replace landing landing.active loaded
      rw [← replaced] at active found same
      exact ⟨id, main, same.flight.trans idle, active, found, fresh, compiled,
        shown id main found⟩

/-- An idle theatre whose active scene was put back opens with a part of the family
that was loaded last. -/
theorem opens_of_reset {id : SceneId} {scene : Scene} :
    let start := opening map settings host game
    let theatre := start.run acts
    theatre.stage.flight = none → theatre.stage.active = some id →
      theatre.stage.arena.scene? id = some scene →
        ∃ family part, start.billed none acts = some family ∧
          part ∈ family.main :: family.sides ∧ part.index = scene.index ∧
          (theatre.perform .reset).2.Opens part id scene.restored := by
  intro start theatre idle active found
  obtain ⟨family, billed, part, listed, stems⟩ :=
    descends_reachable map settings host game acts id scene found
  have compiled : part.Compiled :=
    (loads_reachable LoadContext.returns_compiled map settings host game
      acts).1 family billed part listed
  have index : part.index = scene.index := by
    obtain ⟨_, _, _, _, _, attached⟩ := stems
    exact (congrArg Scene.index attached).symm
  obtain ⟨_, arena, _⟩ := Stage.reset_of_active idle active found
  have restored :
      (theatre.perform .reset).2.stage.arena.scene? id =
        some scene.restored := by
    show theatre.stage.reset.2.arena.scene? id = _
    rw [arena, Arena.scene?_modifyScene, if_pos rfl, found, Option.map_some]
  have shown := displays_reachable map settings host game (acts ++ [.reset])
  rw [run_append] at shown
  exact ⟨family, part, billed, listed, index,
    theatre.stage.reset_flight.trans idle,
    theatre.stage.sameSetting_reset.2.trans active, restored, stems, compiled,
    shown id scene.restored restored⟩

end Reachable

/-- In every state that a theatre can reach with an active scene and no load under
way, that scene stems from a part of the family that was loaded last, and to put it
back succeeds. Then it agrees with the main scene of any theatre that has just
finished loading the same content, up to the nodes, the link and the scenery: its
actors with their scripts, its zones, its points and its variables are the same, and
the nodes of its actors stand and show alike. So all further ticks bring the same
reports and the same game variables, if both start with the same ones. To put the
scene back once more changes neither scenes nor nodes, and no other scene, no link,
no scenery and no game variable is changed at all. -/
theorem reset_as_fresh_load (map : SceneMap) (settings : StageSettings)
    (host : Host) (game : GameBank) (acts : List Act) :
    let start := opening map settings host game
    let theatre := start.run acts
    let restarted := (theatre.perform .reset).2
    let again := (restarted.perform .reset).2
    ∀ id, theatre.stage.flight = none → theatre.stage.active = some id →
      ∃ scene restored family part,
        theatre.stage.arena.scene? id = some scene ∧
        start.billed none acts = some family ∧
        part ∈ family.main :: family.sides ∧ part.index = scene.index ∧
        (theatre.perform .reset).1 = .reset true ∧
        restarted.stage.active = some id ∧
        restarted.stage.arena.scene? id = some restored ∧
        (∀ (otherMap : SceneMap) (otherSettings : StageSettings)
            (otherHost : Host) (otherGame : GameBank) (earlier : List Act)
            (arriving : Act) (arrived : LoadedFamily),
          let before :=
            (opening otherMap otherSettings otherHost otherGame).run earlier
          let fresh := (before.perform arriving).2
          before.arrival? arriving = some arrived →
            arrived.main.content = part.content →
              ∃ mainId main, fresh.stage.active = some mainId ∧
                fresh.stage.arena.scene? mainId = some main ∧
                main.Doubles restored ∧
                restarted.stage.host.nodes.sights restored.actors =
                  fresh.stage.host.nodes.sights main.actors ∧
                (otherSettings.stepBudget = settings.stepBudget →
                  ∀ bank count,
                    let ticks := .change bank :: List.replicate count .tick
                    restarted.answers ticks = fresh.answers ticks ∧
                      (restarted.run ticks).game =
                        (fresh.run ticks).game)) ∧
        again.stage.arena = restarted.stage.arena ∧
        again.stage.host.nodes = restarted.stage.host.nodes ∧
        restored.link = scene.link ∧
        (∀ other, other ≠ id →
          restarted.stage.arena.scene? other =
            theatre.stage.arena.scene? other) ∧
        restarted.stage.arena.sceneries = theatre.stage.arena.sceneries ∧
        restarted.stage.flight = none ∧ restarted.game = theatre.game := by
  intro start theatre restarted again id idle active
  obtain ⟨cast?, sound⟩ := sound_reachable map settings host game acts
  obtain ⟨cast, rfl, rfl⟩ := sound.houses.cast_of_active active
  obtain ⟨scene, found, _⟩ := sound.houses.fills.mainScene
  obtain ⟨family, part, billed, listed, index, opens⟩ :=
    opens_of_reset map settings host game acts idle active found
  obtain ⟨done, arena, _⟩ := Stage.reset_of_active idle active found
  obtain ⟨sameArena, sameNodes⟩ :=
    Stage.reset_reset idle active found opens.displays
  refine ⟨scene, scene.restored, family, part, found, billed, listed, index,
    congrArg Answer.reset done, opens.active, opens.found, ?fresh, sameArena,
    sameNodes, rfl, ?others, ?sceneries, opens.idle, rfl⟩
  case fresh =>
    intro otherMap otherSettings otherHost otherGame earlier arriving arrived
      before fresh arrives same
    obtain ⟨mainId, main, opensFresh⟩ :=
      opens_of_arrival otherMap otherSettings otherHost otherGame earlier
        arrives
    refine ⟨mainId, main, opensFresh.active, opensFresh.found,
      opensFresh.doubles opens same.symm, opensFresh.sights opens same.symm,
      fun sameBudget => ?_⟩
    have settingsNow : restarted.stage.settings = settings :=
      (settings_perform theatre .reset).trans (settings_run start acts)
    have settingsFresh : fresh.stage.settings = otherSettings :=
      (settings_perform before arriving).trans (settings_run _ earlier)
    exact opensFresh.ticks opens same.symm
      (by rw [settingsNow, settingsFresh, sameBudget])
  case others =>
    intro other apart
    show theatre.stage.reset.2.arena.scene? other = _
    rw [arena, Arena.scene?_modifyScene, if_neg apart]
  case sceneries =>
    show theatre.stage.reset.2.arena.sceneries = _
    rw [arena]
    rfl

/-- A theatre for two scenes with one actor each, before any of them is loaded. -/
def unlit : Theatre := opening pairMap ⟨"", false, 9⟩ Host.quiet ⟨#[], []⟩

def roundabout : List Act :=
  [.begin peopledSource (.goto 0 false), .tick, thither, .tick]

def straight : Act := .begin peopledSource (.goto 1 false)

def peopledContent (index : SceneIndex) :
    SceneIndex × List (ActorData × Bool) × List ZoneData × List PointData :=
  (index, [(⟨"", none, Vec3.zero, 0, 0, [.restart], [.restart]⟩, true)], [],
    [])

theorem content_of_roundabout :
    ((unlit.billed none roundabout).map fun family =>
        (family.main :: family.sides).map LoadedScene.content) =
      some [peopledContent 0, peopledContent 1] := by
  rfl

theorem content_of_straight :
    ((unlit.arrival? straight).map fun family => family.main.content) =
      some (peopledContent 1) := by
  rfl

/-- The second scene is put back to what it would be had it been loaded by itself. -/
theorem reset_as_fresh_load_pair :
    let restarted := ((unlit.run roundabout).perform .reset).2
    let fresh := (unlit.perform straight).2
    ∃ restored main,
      restarted.stage.arena.scene? 1 = some restored ∧
      fresh.stage.arena.scene? 0 = some main ∧
      main.Doubles restored ∧ main.actors.length = 1 ∧
      ∀ bank count,
        let ticks := .change bank :: List.replicate count .tick
        restarted.answers ticks = fresh.answers ticks := by
  intro restarted fresh
  have idle : (unlit.run roundabout).stage.flight = none :=
    (Stage.isLoading_eq_false_iff _).mp (by decide)
  have active : (unlit.run roundabout).stage.active = some 1 := by decide
  obtain ⟨arrived, arrives, arrivedContent⟩ :=
    Option.map_eq_some_iff.mp content_of_straight
  obtain ⟨scene, restored, family, part, found, billed, listed, index, _, _,
    isRestored, asFresh, _⟩ :=
    reset_as_fresh_load pairMap ⟨"", false, 9⟩ Host.quiet ⟨#[], []⟩ roundabout 1
      idle active
  have second : scene.index = 1 := by
    have numbered :
        ((unlit.run roundabout).stage.arena.scene? 1).map Scene.index =
          some 1 := by
      decide
    have known : (unlit.run roundabout).stage.arena.scene? 1 = some scene :=
      found
    rw [known] at numbered
    exact Option.some.inj numbered
  have partContent : part.content = peopledContent 1 := by
    have contents := content_of_roundabout
    have known : unlit.billed none roundabout = some family := billed
    rw [known, Option.map_some, Option.some.injEq] at contents
    have member :
        part.content ∈
          (family.main :: family.sides).map LoadedScene.content :=
      List.mem_map_of_mem listed
    rw [contents] at member
    rcases List.mem_cons.mp member with first | last
    · have number : part.index = 0 := congrArg Prod.fst first
      rw [index, second] at number
      exact absurd number (by decide)
    · exact List.mem_singleton.mp last
  obtain ⟨mainId, main, isActive, isMain, doubles, _, alike⟩ :=
    asFresh pairMap ⟨"", false, 9⟩ Host.quiet ⟨#[], []⟩ [] straight arrived
      arrives (arrivedContent.trans partContent.symm)
  have leads : fresh.stage.active = some 0 := by decide
  obtain rfl : mainId = 0 := Option.some.inj (isActive.symm.trans leads)
  refine ⟨restored, main, isRestored, isMain, doubles, ?_, fun bank count =>
    (alike rfl bank count).1⟩
  have peopled :
      (fresh.stage.arena.scene? 0).map (fun scene => scene.actors.length) =
        some 1 := by
    decide
  have known : fresh.stage.arena.scene? 0 = some main := isMain
  rw [known] at peopled
  exact Option.some.inj peopled

end Theatre

end Stagecraft
