import Stagecraft.Proofs.Loading.Compiling
import Stagecraft.Proofs.Stage.Origins
import Stagecraft.Proofs.Stage.Unseen

/-!
# Doubles

Two scenes are doubles of each other if they agree in everything that scripts can
read and write, whatever their nodes, their links and their sceneries. Doubles play
alike: tick by tick they report the same and do the same to the game variables.
Scenes that were attached for the same content are doubles.
-/

namespace Stagecraft

/-- Whether two scenes agree in all that scripts can read and write. -/
structure Scene.Doubles (scene other : Scene) : Prop where
  index : other.index = scene.index
  actors : other.actors.map Actor.unseen = scene.actors.map Actor.unseen
  zones : other.zones.map Zone.unseen = scene.zones.map Zone.unseen
  points : other.points.map Point.unseen = scene.points.map Point.unseen
  cube : other.cube = scene.cube
  cubeSize : other.cubeSize = scene.cubeSize

/-! ## Playing alike -/

namespace Scene

variable {scene other : Scene}

theorem Doubles.playOf (doubles : scene.Doubles other) (game : GameBank)
    (nodes otherNodes : NodeTree) :
    (Stage.playOf other game otherNodes).unseen =
      (Stage.playOf scene game nodes).unseen := by
  have tracked :
      Stage.trackProtagonist other.unseen =
        Stage.trackProtagonist scene.unseen := by
    simp only [Stage.trackProtagonist, protagonist?, unseen, doubles.actors,
      doubles.zones]
  rw [playOf_unseen, playOf_unseen]
  simp only [Stage.playOf, tracked]
  simp only [unseen, doubles.index, doubles.cube, doubles.actors,
    doubles.points]

theorem Doubles.tickNotes (doubles : scene.Doubles other)
    {play otherPlay : Play} (same : otherPlay.unseen = play.unseen) :
    Stage.tickNotes otherPlay other = Stage.tickNotes play scene := by
  rw [← other.tickNotes_unseen, ← scene.tickNotes_unseen, same]
  simp only [Stage.tickNotes, Stage.trackProtagonist, protagonist?, unseen,
    doubles.actors, doubles.zones]

theorem Doubles.played (doubles : scene.Doubles other)
    {play otherPlay : Play} (same : otherPlay.unseen = play.unseen) :
    (Stage.playedScene play scene).Doubles
      (Stage.playedScene otherPlay other) :=
  ⟨doubles.index, (congrArg Play.actors same :), (congrArg Play.zones same :),
    doubles.points, (congrArg Play.cube same :), doubles.cubeSize⟩

theorem Doubles.replaced (doubles : scene.Doubles other)
    (link otherLink : Link) (active otherActive : Bool) :
    ((scene.withLink link).withActive active).Doubles
      ((other.withLink otherLink).withActive otherActive) :=
  ⟨doubles.index, doubles.actors, doubles.zones, doubles.points, doubles.cube,
    doubles.cubeSize⟩

end Scene

/-- Whether two stages, on which no load is under way, have active scenes that are
doubles and give their scripts the same number of steps. -/
structure Stage.PlaysLike (stage other : Stage) : Prop where
  idle : stage.flight = none
  otherIdle : other.flight = none
  budget : other.settings.stepBudget = stage.settings.stepBudget
  doubles : ∃ id scene otherId otherScene,
    stage.active = some id ∧ stage.arena.scene? id = some scene ∧
      other.active = some otherId ∧
      other.arena.scene? otherId = some otherScene ∧
      scene.Doubles otherScene

/-- Stages that play alike report the same tick by tick. -/
theorem Stage.PlaysLike.tick {stage other : Stage}
    (alike : stage.PlaysLike other) (game : GameBank) :
    (other.tick game).1 = (stage.tick game).1 ∧
      (other.tick game).2.1 = (stage.tick game).2.1 ∧
      (stage.tick game).2.2.PlaysLike (other.tick game).2.2 := by
  obtain ⟨id, scene, otherId, otherScene, active, found, otherActive,
    otherFound, doubles⟩ := alike.doubles
  have ticks {stage : Stage} {id : SceneId} {scene : Scene}
      (idle : stage.flight = none) (active : stage.active = some id)
      (found : stage.arena.scene? id = some scene) :
      stage.tick game = stage.tickScene game id scene := by
    simp [Stage.tick, isLoading, idle, activeScene?, active, found]
  rw [ticks alike.idle active found,
    ticks alike.otherIdle otherActive otherFound]
  have same :
      ((playOf otherScene game other.host.nodes).tick
          other.settings.stepBudget).unseen =
        ((playOf scene game stage.host.nodes).tick
          stage.settings.stepBudget).unseen := by
    rw [← Play.tick_unseen, ← Play.tick_unseen, alike.budget,
      doubles.playOf game stage.host.nodes]
  refine ⟨?report, (congrArg Play.game same :), alike.idle, alike.otherIdle,
    alike.budget, id, _, otherId, _, active, ?found, otherActive, ?otherFound,
    doubles.played same⟩
  case report =>
    simp only [tickScene, doubles.index, doubles.tickNotes same]
  case found =>
    simp only [tickScene, Arena.scene?_modifyScene, found, if_true,
      Option.map_some]
  case otherFound =>
    simp only [tickScene, Arena.scene?_modifyScene, otherFound, if_true,
      Option.map_some]

/-- Theatres whose stages play alike give the same answers to ticks and come to the
same game variables. -/
theorem Theatre.ticks_alike {theatre other : Theatre}
    (alike : theatre.stage.PlaysLike other.stage)
    (game : other.game = theatre.game) (count : Nat) :
    other.answers (List.replicate count .tick) =
        theatre.answers (List.replicate count .tick) ∧
      (other.run (List.replicate count .tick)).game =
        (theatre.run (List.replicate count .tick)).game := by
  induction count generalizing theatre other with
  | zero => exact ⟨rfl, game⟩
  | succ count inductionHypothesis =>
      obtain ⟨report, sameGame, alikeStill⟩ := alike.tick theatre.game
      rw [← game] at report sameGame alikeStill
      have next :=
        @inductionHypothesis (theatre.perform .tick).2 (other.perform .tick).2
          (by simpa only [perform, game] using alikeStill)
          (by simpa only [perform, game] using sameGame)
      simp only [List.replicate_succ, answers, run_cons]
      refine ⟨List.cons_eq_cons.mpr ⟨?_, next.1⟩, next.2⟩
      simp only [perform]
      rw [report, game]

/-! ## The same content -/

/-- What a loaded scene has of its content, as far as scripts can tell, and which of
its actors can be seen. -/
def LoadedScene.content (loaded : LoadedScene) :
    SceneIndex × List (ActorData × Bool) × List ZoneData × List PointData :=
  (loaded.index,
    loaded.actors.map fun actor =>
      (actor.asset.data, actor.asset.visual.isSome),
    loaded.zones, loaded.points)

/-- Exactly those actors get a node that have a model. -/
theorem Attach.isSome_node_actors (parent : NodeId) (loaded : List LoadedActor)
    (position : Nat) (nodes : NodeTree) :
    ((actors parent position loaded nodes).1.map fun actor =>
        actor.node.isSome) =
      loaded.map fun actor => actor.asset.visual.isSome := by
  induction loaded generalizing position nodes with
  | nil => rfl
  | cons first rest inductionHypothesis =>
      simp only [actors, List.map_cons, inductionHypothesis]
      cases first.asset.visual <;> rfl

namespace LoadedScene

variable {loaded other : LoadedScene}

/-- The same scripts are compiled to the same programs. -/
theorem programs_of_content (same : other.content = loaded.content)
    (compiled : loaded.Compiled) (otherCompiled : other.Compiled) :
    other.actors.map LoadedActor.unseen =
      loaded.actors.map LoadedActor.unseen := by
  have compiledUnseen {loaded : LoadedScene} (compiled : loaded.Compiled) :
      LoadContext.compileActors loaded.content.1 0
          (loaded.content.2.1.map fun actor => ⟨actor.1.unseen, none⟩) =
        .ok (loaded.actors.map LoadedActor.unseen) := by
    have assets :
        (loaded.content.2.1.map fun actor => ⟨actor.1.unseen, none⟩) =
          (loaded.actors.map LoadedActor.asset).map ActorAsset.unseen := by
      simp only [content, List.map_map]
      rfl
    rw [assets, LoadContext.compileActors_unseen]
    exact congrArg (Except.map _) compiled.programs
  have both := compiledUnseen otherCompiled
  rw [same, compiledUnseen compiled] at both
  exact (Except.ok.inj both).symm

theorem cubeSize_of_content (same : other.content = loaded.content)
    (compiled : loaded.Compiled) (otherCompiled : other.Compiled) :
    other.cubeSize = loaded.cubeSize := by
  rw [otherCompiled.size, compiled.size, ← LoadContext.programsOf_unseen,
    programs_of_content same compiled otherCompiled,
    LoadContext.programsOf_unseen]

theorem doubles_attached (same : other.content = loaded.content)
    (compiled : loaded.Compiled) (otherCompiled : other.Compiled)
    (markers otherMarkers : Bool) (scenery otherScenery : SceneryId)
    (root otherRoot : NodeId) (link otherLink : Link)
    (nodes otherNodes : NodeTree) :
    (Attach.scene markers scenery root link loaded nodes).1.Doubles
      (Attach.scene otherMarkers otherScenery otherRoot otherLink other
        otherNodes).1 := by
  have actors :
      (other.bare otherScenery otherLink).actors =
        (loaded.bare scenery link).actors := by
    rw [← other.bare_unseen, ← loaded.bare_unseen]
    simp only [LoadedScene.bare, LoadedScene.unseen,
      programs_of_content same compiled otherCompiled]
  have size := cubeSize_of_content same compiled otherCompiled
  simp only [content, Prod.mk.injEq] at same
  obtain ⟨index, _, zones, points⟩ := same
  refine ⟨index, ?actors, ?zones, ?points, ?cube, size⟩
  case actors =>
    simp only [Attach.scene, Attach.actors_unseen]
    exact actors
  case zones => simp only [Attach.scene, Attach.zones_unseen, zones]
  case points => simp only [Attach.scene, Attach.points_unseen, points]
  case cube => simp only [Attach.scene, size]

/-- Scenes that are as they were attached for the same content are doubles. -/
theorem doubles_of_content (same : other.content = loaded.content)
    (compiled : loaded.Compiled) (otherCompiled : other.Compiled)
    {scene otherScene : Scene} (fresh : scene.IsFresh loaded)
    (otherFresh : otherScene.IsFresh other) :
    scene.Doubles otherScene := by
  obtain ⟨_, _, _, _, _, attached⟩ := fresh
  obtain ⟨_, _, _, _, _, otherAttached⟩ := otherFresh
  rw [attached, otherAttached]
  exact (doubles_attached same compiled otherCompiled _ _ _ _ _ _ _ _ _
    _).replaced _ _ _ _

/-- The same actors of them have nodes. -/
theorem isSome_nodes_of_content (same : other.content = loaded.content)
    {scene otherScene : Scene} (fresh : scene.IsFresh loaded)
    (otherFresh : otherScene.IsFresh other) :
    (otherScene.actors.map fun actor => actor.node.isSome) =
      scene.actors.map fun actor => actor.node.isSome := by
  have shown {scene : Scene} {part : LoadedScene} (fresh : scene.IsFresh part) :
      (scene.actors.map fun actor => actor.node.isSome) =
        part.content.2.1.map Prod.snd := by
    obtain ⟨_, _, _, _, _, attached⟩ := fresh
    rw [attached, content, List.map_map]
    exact Attach.isSome_node_actors _ part.actors 0 _
  rw [shown fresh, shown otherFresh, same]

end LoadedScene

/-! ## What can be seen of them -/

/-- Where the nodes of actors stand and whether they are visible. -/
def NodeTree.sights (tree : NodeTree) (actors : List Actor) :
    List (Option (Vec3 × Bool)) :=
  actors.map fun actor =>
    (actor.node.bind tree.node?).map fun node => (node.position, node.visible)

/-- A tree that displays an actor shows it where it stands and while it is awake, if
it has a node at all. -/
theorem NodeTree.Displays.sight {tree : NodeTree} {actor : Actor}
    (displays : tree.Displays actor) :
    ((actor.node.bind tree.node?).map fun node =>
        (node.position, node.visible)) =
      if actor.node.isSome then some (actor.position, actor.alive)
      else none := by
  cases known : actor.node with
  | none => rfl
  | some id =>
      obtain ⟨node, found, position, visible⟩ := displays id known
      simp [found, position, visible]

/-- Actors that differ in nothing but in which node is theirs look the same, if they
are displayed. -/
theorem NodeTree.sights_congr {tree otherTree : NodeTree}
    {actors others : List Actor}
    (displays : ∀ actor ∈ actors, tree.Displays actor)
    (otherDisplays : ∀ actor ∈ others, otherTree.Displays actor)
    (unseen : others.map Actor.unseen = actors.map Actor.unseen)
    (nodes : (others.map fun actor => actor.node.isSome) =
      actors.map fun actor => actor.node.isSome) :
    otherTree.sights others = tree.sights actors := by
  have looks {tree : NodeTree} {actors : List Actor}
      (displays : ∀ actor ∈ actors, tree.Displays actor) :
      tree.sights actors =
        (actors.map Actor.unseen).zipWith
          (fun actor shown =>
            if shown then some (actor.position, actor.alive) else none)
          (actors.map fun actor => actor.node.isSome) := by
    rw [List.zipWith_map, List.zipWith_self]
    exact List.map_congr_left fun actor member => (displays actor member).sight
  rw [looks displays, looks otherDisplays, unseen, nodes]

end Stagecraft
