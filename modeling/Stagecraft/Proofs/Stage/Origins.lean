import Stagecraft.Proofs.Script.Steadiness
import Stagecraft.Proofs.Stage.Handovers
import Stagecraft.Proofs.Stage.Proceedings

/-!
# Where scenes come from

A scene that is put back to how it was loaded is, its activity and its place in the
family apart, the scene that was attached. This stays so whatever happens to the
scene, so that every scene of a theatre stems from a part of the family that was
loaded last.
-/

namespace Stagecraft

/-! ## Putting back -/

namespace Actor

@[simp]
theorem atSpawn_atSpawn (actor : Actor) : actor.atSpawn.atSpawn = actor.atSpawn :=
  rfl

theorem atSpawn_killed (actor : Actor) : actor.killed.atSpawn = actor.atSpawn :=
  rfl

theorem atSpawn_woken (actor : Actor) : actor.woken.atSpawn = actor.atSpawn := by
  unfold woken
  split <;> rfl

/-- A newly attached actor is at its spawn. -/
theorem atSpawn_ofPrograms (data : ActorData) (node : Option NodeId)
    (life move : Program) :
    (ofPrograms data node life move).atSpawn = ofPrograms data node life move :=
  rfl

end Actor

theorem resetActors_actors (actors : List Actor) (tree : NodeTree) :
    (resetActors actors tree).1 = actors.map Actor.atSpawn := by
  induction actors generalizing tree with
  | nil => rfl
  | cons first rest inductionHypothesis =>
      simp only [resetActors, List.map_cons, inductionHypothesis]
      rfl

namespace Scene

def restored (scene : Scene) : Scene :=
  { scene with
    actors := scene.actors.map Actor.atSpawn
    zones := scene.zones.map Zone.reset
    cube := CubeBank.blank scene.cubeSize }

theorem resetScene_scene (scene : Scene) (nodes : NodeTree) :
    (Stage.resetScene scene nodes).1 = scene.restored := by
  simp only [Stage.resetScene, resetActors_actors]
  rfl

@[simp]
theorem restored_restored (scene : Scene) :
    scene.restored.restored = scene.restored := by
  simp only [restored, List.map_map]
  rfl

theorem restored_changeProtagonist (scene : Scene) (nodes : NodeTree)
    {change : Actor → NodeTree → Actor × NodeTree} {made : Actor → Actor}
    (makes : ∀ actor tree, (change actor tree).1 = made actor)
    (blind : ∀ actor, (made actor).atSpawn = actor.atSpawn) :
    (scene.changeProtagonist change nodes).1.restored = scene.restored := by
  rw [scene.actors_changeProtagonist nodes makes]
  simp only [restored]
  cases scene.actors with
  | nil => rfl
  | cons first others =>
      rw [List.modifyHead_cons, List.map_cons, List.map_cons, blind]

theorem reset_trackProtagonist (scene : Scene) :
    (Stage.trackProtagonist scene).1.map Zone.reset =
      scene.zones.map Zone.reset := by
  have tracked (zone : Zone) (position : Vec3) :
      (zone.track position).reset = zone.reset := by
    unfold Zone.track Zone.enter Zone.leave
    split <;> split <;> rfl
  unfold Stage.trackProtagonist
  split
  · simp only [trackZones, List.map_map, Function.comp_def, tracked]
  · rfl

/-- A tick leaves a scene such that it would be put back to the same. -/
theorem restored_played (scene : Scene) (game : GameBank) (nodes : NodeTree)
    (budget : Nat) :
    (Stage.playedScene ((Stage.playOf scene game nodes).tick budget)
      scene).restored = scene.restored := by
  have actors := (Stage.playOf scene game nodes).atSpawn_tick budget
  have zones := ((Stage.playOf scene game nodes).keeps_tick budget).zones
  simp only [restored, Stage.playedScene, actors, zones]
  simp only [Stage.playOf, reset_trackProtagonist]

end Scene

/-! ## Attached scenes -/

namespace Attach

theorem atSpawn_actors (parent : NodeId) (loaded : List LoadedActor)
    (position : Nat) (nodes : NodeTree) :
    (actors parent position loaded nodes).1.map Actor.atSpawn =
      (actors parent position loaded nodes).1 := by
  induction loaded generalizing position nodes with
  | nil => rfl
  | cons first rest inductionHypothesis =>
      simp only [actors, List.map_cons, inductionHypothesis,
        Actor.atSpawn_ofPrograms]

theorem reset_zones (markers : Bool) (parent : NodeId) (loaded : List ZoneData)
    (position : Nat) (nodes : NodeTree) :
    (zones markers parent position loaded nodes).1.map Zone.reset =
      (zones markers parent position loaded nodes).1 := by
  induction loaded generalizing position nodes with
  | nil => rfl
  | cons first rest inductionHypothesis =>
      simp only [zones, List.map_cons, inductionHypothesis]
      rfl

/-- A newly attached scene need not be put back. -/
theorem restored_scene (markers : Bool) (scenery : SceneryId) (root : NodeId)
    (link : Link) (loaded : LoadedScene) (nodes : NodeTree) :
    (scene markers scenery root link loaded nodes).1.restored =
      (scene markers scenery root link loaded nodes).1 := by
  simp only [scene, Scene.restored, atSpawn_actors, reset_zones]

end Attach

/-- Whether a scene is a loaded scene as it was attached, its activity and its place
in the family apart. -/
def Scene.IsFresh (part : LoadedScene) (scene : Scene) : Prop :=
  ∃ markers scenery root link nodes,
    scene =
      ((Attach.scene markers scenery root link part nodes).1.withLink
        scene.link).withActive scene.active

/-- Whether a scene would be as it was attached, if it were put back to how it was
loaded. -/
def Scene.Stems (part : LoadedScene) (scene : Scene) : Prop :=
  scene.restored.IsFresh part

/-- Whether a scene stems from a part of a family, if there is one. -/
def Scene.Descends (bill : Option LoadedFamily) (scene : Scene) : Prop :=
  ∃ loaded, bill = some loaded ∧
    ∃ part ∈ loaded.main :: loaded.sides, scene.Stems part

namespace Scene

variable {part : LoadedScene} {scene other : Scene}

theorem IsFresh.replaced (fresh : scene.IsFresh part) (link : Link)
    (active : Bool) :
    ((scene.withLink link).withActive active).IsFresh part := by
  obtain ⟨markers, scenery, root, placed, nodes, attached⟩ := fresh
  refine ⟨markers, scenery, root, placed, nodes, ?_⟩
  rw [attached]
  rfl

theorem isFresh_attached (markers : Bool) (scenery : SceneryId) (root : NodeId)
    (link : Link) (part : LoadedScene) (nodes : NodeTree) :
    (Attach.scene markers scenery root link part nodes).1.IsFresh part :=
  ⟨markers, scenery, root, link, nodes, rfl⟩

theorem Stems.of_restored (stems : scene.Stems part)
    (same : other.restored =
      (scene.restored.withLink other.link).withActive other.active) :
    other.Stems part := by
  rw [Stems, same]
  exact stems.replaced other.link other.active

theorem stems_attached (markers : Bool) (scenery : SceneryId) (root : NodeId)
    (link : Link) (part : LoadedScene) (nodes : NodeTree) :
    (Attach.scene markers scenery root link part nodes).1.Stems part := by
  rw [Stems, Attach.restored_scene]
  exact isFresh_attached markers scenery root link part nodes

/-- What does not change to what a scene would be put back, nor its place and its
activity, does not change where it stems from. -/
theorem Stems.of_same (stems : scene.Stems part)
    (restored : other.restored = scene.restored) : other.Stems part := by
  have link : other.link = scene.link := (congrArg Scene.link restored :)
  have active : other.active = scene.active :=
    (congrArg Scene.active restored :)
  refine stems.of_restored ?_
  rw [restored, link, active]
  rfl

theorem enduring_descends (bill : Option LoadedFamily) :
    Enduring (Descends bill) := by
  have descends {scene other : Scene}
      (stems : ∀ {part}, scene.Stems part → other.Stems part) :
      scene.Descends bill → other.Descends bill := by
    rintro ⟨loaded, billed, part, listed, stemmed⟩
    exact ⟨loaded, billed, part, listed, stems stemmed⟩
  refine ⟨?active, ?link, ?slept, ?woken, ?played, ?restored⟩
  case active =>
    intro scene active
    exact descends fun stems => stems.of_restored rfl
  case link =>
    intro scene link
    exact descends fun stems => stems.of_restored rfl
  case slept =>
    intro scene nodes
    exact descends fun stems => stems.of_same
      (scene.restored_changeProtagonist nodes Actor.kill_actor
        Actor.atSpawn_killed)
  case woken =>
    intro scene nodes
    exact descends fun stems => stems.of_same
      (scene.restored_changeProtagonist nodes Actor.revive_actor
        Actor.atSpawn_woken)
  case played =>
    intro scene game nodes budget
    exact descends fun stems => stems.of_same
      (scene.restored_played game nodes budget)
  case restored =>
    intro scene nodes
    refine descends fun stems => stems.of_same ?_
    rw [resetScene_scene, restored_restored]

theorem attaches_descends (loaded : LoadedFamily) :
    loaded.Attaches (Descends (some loaded)) :=
  fun part listed markers scenery root link nodes =>
    ⟨loaded, rfl, part, listed,
      stems_attached markers scenery root link part nodes⟩

end Scene

namespace Theatre

variable {map : SceneMap} {cast? : Option Cast} {theatre : Theatre}

/-- Scenes go on stemming from the family that was loaded last. -/
theorem descends_perform {bill : Option LoadedFamily}
    (sound : theatre.stage.Sound map cast?)
    (every : theatre.stage.arena.Every (Scene.Descends bill)) (act : Act) :
    (theatre.perform act).2.stage.arena.Every
      (Scene.Descends ((theatre.arrival? act).or bill)) := by
  refine (proceeds_perform sound act).every (Scene.enduring_descends _) ?_ ?_
  · intro stays
    rw [stays]
    exact every
  · intro loaded arrived
    rw [arrived]
    exact Scene.attaches_descends loaded

theorem descends_run {bill : Option LoadedFamily}
    (sound : theatre.stage.Sound map cast?)
    (every : theatre.stage.arena.Every (Scene.Descends bill))
    (acts : List Act) :
    (theatre.run acts).stage.arena.Every
      (Scene.Descends (theatre.billed bill acts)) :=
  holds_run (fun bill theatre =>
      theatre.stage.arena.Every (Scene.Descends bill)) bill
    (fun _ sound every => descends_perform sound every _) sound every

/-- Every scene of a theatre stems from the family that was loaded last. -/
theorem descends_reachable (map : SceneMap) (settings : StageSettings)
    (host : Host) (game : GameBank) (acts : List Act) :
    let start := opening map settings host game
    (start.run acts).stage.arena.Every
      (Scene.Descends (start.billed none acts)) :=
  descends_run (Stage.sound_bare map settings host)
    (Stage.every_bare _ map settings host) acts

end Theatre

end Stagecraft
