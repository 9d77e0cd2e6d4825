import Stagecraft.Proofs.Script.Renaming
import Stagecraft.Proofs.Stage.Timing
import Stagecraft.Proofs.Stage.Unseen

/-!
# Scenes do not depend on how actors call themselves

Content in which actors call themselves by their numbers and content in which they
do not are compiled alike and make the same scenes, up to the reflexive form of their
scripts. On a stage such scenes play alike: tick by tick they report the same, note
the same and are in the same state.
-/

namespace Stagecraft

/-- What comes of items that are counted from a position on. -/
theorem mapIdx_cons_from {α β : Type} (image : Nat → α → β) (start : Nat)
    (first : α) (rest : List α) :
    (first :: rest).mapIdx (fun position => image (start + position)) =
      image start first ::
        rest.mapIdx fun position => image (start + 1 + position) := by
  have shift (position : Nat) :
      start + (position + 1) = start + 1 + position := by
    omega
  rw [List.mapIdx_cons]
  simp only [Nat.add_zero, funext fun position => congrArg image (shift position)]

/-! ## Content -/

/-- An actor at a position that does not go by its number in its own scripts. -/
def ActorAsset.reflexive (position : Nat) (asset : ActorAsset) : ActorAsset :=
  { asset with
    data :=
      { asset.data with
        life := asset.data.life.map (Command.reflexive position)
        move := asset.data.move.map (Command.reflexive position) } }

def LoadedActor.reflexive (position : Nat) (actor : LoadedActor) :
    LoadedActor :=
  ⟨actor.asset.reflexive position, actor.life.reflexive position,
    actor.move.reflexive position⟩

def LoadedScene.reflexive (loaded : LoadedScene) : LoadedScene :=
  { loaded with actors := loaded.actors.mapIdx LoadedActor.reflexive }

def Scene.reflexive (scene : Scene) : Scene :=
  { scene with actors := scene.actors.mapIdx Actor.reflexive }

/-- A scene with the commands of its scripts forgotten, but not how far they have
come. -/
def Scene.blank (scene : Scene) : Scene :=
  { scene with actors := scene.actors.map Actor.blank }

theorem Scene.blank_reflexive (scene : Scene) :
    scene.reflexive.blank = scene.blank := by
  have actors := Actor.map_blank_reflexive scene.actors
  simp only [blank, reflexive, actors]

namespace LoadContext

/-- All scripts compile to their reflexive forms, or they fail at the same jump. -/
theorem compileActors_reflexive (scene : SceneIndex) (assets : List ActorAsset)
    (start : Nat) :
    compileActors scene start
        (assets.mapIdx fun position => ActorAsset.reflexive (start + position)) =
      (compileActors scene start assets).map
        (List.mapIdx fun position => LoadedActor.reflexive (start + position)) := by
  induction assets generalizing start with
  | nil => rfl
  | cons asset rest inductionHypothesis =>
      have life : (asset.reflexive start).data.life =
          asset.data.life.map (Command.reflexive start) := rfl
      have move : (asset.reflexive start).data.move =
          asset.data.move.map (Command.reflexive start) := rfl
      have name : (asset.reflexive start).data.name = asset.data.name := rfl
      rw [mapIdx_cons_from ActorAsset.reflexive]
      simp only [compileActors, inductionHypothesis, life, move, name,
        Program.compile_reflexive]
      cases Program.compile asset.data.life with
      | error jump => rfl
      | ok lifeProgram =>
          cases Program.compile asset.data.move with
          | error jump => rfl
          | ok moveProgram =>
              cases compileActors scene (start + 1) rest with
              | error error => rfl
              | ok others =>
                  simp only [Except.map,
                    mapIdx_cons_from LoadedActor.reflexive]
                  rfl

/-- They mention the same variables. -/
theorem variablesOf_reflexive (actors : List LoadedActor) :
    variablesOf (programsOf (actors.mapIdx LoadedActor.reflexive)) =
      variablesOf (programsOf actors) := by
  have program (runner : Nat) (program : Program) :
      (program.reflexive runner).commands.flatMap Command.variableRefs =
        program.commands.flatMap Command.variableRefs := by
    rw [Program.reflexive, List.flatMap_map]
    simp only [Command.variableRefs_reflexive]
  have actor (position : Nat) (actor : LoadedActor) :
      variablesOf (programsOf [actor.reflexive position]) =
        variablesOf (programsOf [actor]) := by
    simp only [variablesOf, programsOf, List.flatMap_cons, List.flatMap_nil,
      LoadedActor.reflexive, program, List.append_nil]
  have split (actor : LoadedActor) (rest : List LoadedActor) :
      variablesOf (programsOf (actor :: rest)) =
        variablesOf (programsOf [actor]) ++ variablesOf (programsOf rest) := by
    simp only [variablesOf, programsOf, List.flatMap_cons, List.flatMap_nil,
      List.append_nil, List.flatMap_append]
  suffices shifted : ∀ start,
      variablesOf (programsOf (actors.mapIdx fun position =>
        LoadedActor.reflexive (start + position))) =
      variablesOf (programsOf actors) by
    simpa only [Nat.zero_add] using shifted 0
  induction actors with
  | nil => exact fun _ => rfl
  | cons first rest inductionHypothesis =>
      intro start
      rw [mapIdx_cons_from LoadedActor.reflexive, split, inductionHypothesis,
        actor, ← split]

/-- A scene is put together from both alike. -/
theorem assemble_reflexive (context : LoadContext) (index : SceneIndex)
    (kind : SceneKind) (data : SceneData) (actors : List LoadedActor)
    (offset : Vec3) :
    context.assemble index kind data (actors.mapIdx LoadedActor.reflexive)
        offset =
      (context.assemble index kind data actors offset).reflexive := by
  have same := variablesOf_reflexive actors
  simp only [assemble, LoadedScene.reflexive, cubeSize, gameReferences, same]

end LoadContext

namespace Attach

theorem actors_reflexive (parent : NodeId) (loaded : List LoadedActor)
    (start : Nat) (nodes : NodeTree) :
    actors parent start
        (loaded.mapIdx fun position => LoadedActor.reflexive (start + position))
        nodes =
      ((actors parent start loaded nodes).1.mapIdx fun position =>
          Actor.reflexive (start + position),
        (actors parent start loaded nodes).2) := by
  induction loaded generalizing start nodes with
  | nil => rfl
  | cons first rest inductionHypothesis =>
      have started (program : Program) :
          Script.ofProgram (program.reflexive start) =
            (Script.ofProgram program).reflexive start := by
        rw [Script.ofProgram, Program.size_reflexive]
        rfl
      rw [mapIdx_cons_from LoadedActor.reflexive]
      simp only [actors, inductionHypothesis,
        mapIdx_cons_from Actor.reflexive]
      simp only [Actor.ofPrograms, LoadedActor.reflexive, started]
      rfl

/-- They are attached alike, to the same nodes. -/
theorem scene_reflexive (markers : Bool) (scenery : SceneryId) (root : NodeId)
    (link : Link) (loaded : LoadedScene) (nodes : NodeTree) :
    scene markers scenery root link loaded.reflexive nodes =
      ((scene markers scenery root link loaded nodes).1.reflexive,
        (scene markers scenery root link loaded nodes).2) := by
  have placed := actors_reflexive nodes.nextId loaded.actors 0
  simp only [Nat.zero_add] at placed
  simp only [scene, LoadedScene.reflexive, placed]
  rfl

end Attach

/-! ## Ticks -/

namespace Scene

variable (scene : Scene)

theorem trackProtagonist_reflexive :
    Stage.trackProtagonist scene.reflexive = Stage.trackProtagonist scene := by
  have first : scene.reflexive.protagonist? =
      scene.protagonist?.map (Actor.reflexive protagonist) :=
    List.getElem?_mapIdx
  have same : scene.reflexive.zones = scene.zones := rfl
  unfold Stage.trackProtagonist
  rw [first, same]
  cases scene.protagonist? with
  | none => rfl
  | some actor =>
      have alive : (actor.reflexive protagonist).alive = actor.alive := rfl
      rw [Option.map_some, Option.filter, Option.filter, alive]
      cases actor.alive <;> rfl

theorem playOf_reflexive (game : GameBank) (nodes : NodeTree) :
    Stage.playOf scene.reflexive game nodes =
      (Stage.playOf scene game nodes).reflexive := by
  unfold Stage.playOf
  rw [trackProtagonist_reflexive]
  rfl

theorem tickNotes_reflexive (play : Play) :
    Stage.tickNotes play.reflexive scene.reflexive =
      Stage.tickNotes play scene := by
  unfold Stage.tickNotes
  rw [trackProtagonist_reflexive]
  rfl

end Scene

def Arena.reflexive (arena : Arena) : Arena :=
  { arena with scenes := arena.scenes.map Scene.reflexive }

namespace Stage

def reflexive (stage : Stage) : Stage :=
  { stage with arena := stage.arena.reflexive }

variable (stage : Stage)

theorem scene?_reflexive (id : SceneId) :
    stage.reflexive.arena.scene? id =
      (stage.arena.scene? id).map Scene.reflexive :=
  stage.arena.scenes.get?_map Scene.reflexive id

theorem reflexive_tickScene (game : GameBank) (id : SceneId)
    (scene : Scene) :
    stage.reflexive.tickScene game id scene.reflexive =
      ((stage.tickScene game id scene).1, (stage.tickScene game id scene).2.1,
        (stage.tickScene game id scene).2.2.reflexive) := by
  have host : stage.reflexive.host = stage.host := rfl
  have settings : stage.reflexive.settings = stage.settings := rfl
  have arena (play : Play) :
      (stage.reflexive.arena.modifyScene id fun _ =>
          playedScene play.reflexive scene.reflexive) =
        (stage.arena.modifyScene id fun _ =>
          playedScene play scene).reflexive := by
    have scenes :
        (stage.arena.scenes.modify id fun _ =>
            playedScene play scene).map Scene.reflexive =
          (stage.arena.scenes.map Scene.reflexive).modify id fun _ =>
            (playedScene play scene).reflexive :=
      @Slots.map_modify _ _ Scene.reflexive stage.arena.scenes
        (fun _ => playedScene play scene)
        (fun _ => (playedScene play scene).reflexive) (fun _ => rfl) id
    simp only [Arena.modifyScene, Arena.reflexive, scenes]
    rfl
  simp only [tickScene, host, settings, Scene.playOf_reflexive,
    Play.reflexive_tick, Scene.tickNotes_reflexive, arena]
  rfl

/-- A tick does not depend on how actors call themselves. -/
theorem reflexive_tick (game : GameBank) :
    stage.reflexive.tick game =
      ((stage.tick game).1, (stage.tick game).2.1,
        (stage.tick game).2.2.reflexive) := by
  have loading : stage.reflexive.isLoading = stage.isLoading := rfl
  have active : stage.reflexive.active = stage.active := rfl
  have scene : stage.reflexive.activeScene? =
      stage.activeScene?.map Scene.reflexive := by
    unfold activeScene?
    rw [active]
    cases stage.active with
    | none => rfl
    | some id => exact stage.scene?_reflexive id
  unfold tick
  rw [loading, active, scene]
  cases stage.isLoading with
  | true => rfl
  | false =>
      cases stage.active with
      | none => rfl
      | some id =>
          cases stage.activeScene? with
          | none => rfl
          | some scene => exact stage.reflexive_tickScene game id scene

/-- What a stage is apart from what was noted on it so far and from how actors call
themselves in their own scripts. -/
def gist (stage : Stage) : Stage := stage.unlogged.reflexive

/-- A tick is that of the gist of a stage, noted after all that was noted before. -/
theorem tick_gist (game : GameBank) :
    (stage.tick game).1 = (stage.gist.tick game).1 ∧
      (stage.tick game).2.1 = (stage.gist.tick game).2.1 ∧
      (stage.tick game).2.2.gist = (stage.gist.tick game).2.2.unlogged ∧
      (stage.tick game).2.2.journal =
        stage.journal ++ (stage.gist.tick game).2.2.journal := by
  have played := stage.unlogged.reflexive_tick game
  have nothing : stage.journal = stage.journal ++ stage.unlogged.journal :=
    Array.append_empty.symm
  have loading : stage.unlogged.isLoading = stage.isLoading := rfl
  have active : stage.unlogged.active = stage.active := rfl
  have scene : stage.unlogged.activeScene? = stage.activeScene? := rfl
  rw [show stage.gist = stage.unlogged.reflexive from rfl, played]
  unfold tick
  rw [loading, active, scene]
  cases stage.isLoading with
  | true => exact ⟨rfl, rfl, rfl, nothing⟩
  | false =>
      cases stage.active with
      | none => exact ⟨rfl, rfl, rfl, nothing⟩
      | some id =>
          cases stage.activeScene? with
          | none => exact ⟨rfl, rfl, rfl, nothing⟩
          | some scene =>
              refine ⟨rfl, rfl, rfl, ?_⟩
              exact congrArg (stage.journal ++ ·) Array.empty_append.symm

end Stage

namespace Theatre

/-- What a theatre is apart from what was noted in it so far and from how actors call
themselves in their own scripts. -/
def gist (theatre : Theatre) : Theatre :=
  { theatre with stage := theatre.stage.gist }

/-- Theatres of the same gist answer alike to ticks, note the same and still have the
same gist. -/
theorem ticks_of_gist {theatre other : Theatre}
    (same : theatre.gist = other.gist) (count : Nat) :
    let ticks := List.replicate count Act.tick
    theatre.answers ticks = other.answers ticks ∧
      (theatre.run ticks).gist = (other.run ticks).gist ∧
      ∃ notes : Journal,
        (theatre.run ticks).stage.journal = theatre.stage.journal ++ notes ∧
          (other.run ticks).stage.journal = other.stage.journal ++ notes := by
  induction count generalizing theatre other with
  | zero =>
      exact ⟨rfl, same, #[], Array.append_empty.symm, Array.append_empty.symm⟩
  | succ count inductionHypothesis =>
      have game : theatre.game = other.game := (congrArg Theatre.game same :)
      have stage : theatre.stage.gist = other.stage.gist :=
        (congrArg Theatre.stage same :)
      obtain ⟨report, bank, gist_, journal⟩ :=
        theatre.stage.tick_gist theatre.game
      obtain ⟨reportToo, bankToo, gistToo, journalToo⟩ :=
        other.stage.tick_gist other.game
      rw [stage, game] at report bank gist_ journal
      have ticked :
          (theatre.perform .tick).2.gist = (other.perform .tick).2.gist := by
        simp only [perform, gist]
        rw [game, gist_, gistToo, bank, bankToo]
      obtain ⟨later, still, notes, noted, notedToo⟩ :=
        inductionHypothesis ticked
      refine ⟨List.cons_eq_cons.mpr ⟨?answer, later⟩, still,
        (other.stage.gist.tick other.game).2.2.journal ++ notes, ?notes,
        ?notesToo⟩
      case answer =>
        simp only [perform]
        rw [game, report, reportToo]
      case notes =>
        rw [← Array.append_assoc, ← journal, ← game]
        exact noted
      case notesToo =>
        rw [← Array.append_assoc, ← journalToo]
        exact notedToo

/-- What actors do does not depend on whether they call themselves by their numbers.
Names have the same reflexive form just if they are the same or both mean the runner.
Content that differs in such names compiles alike, to scenes that have the same
reflexive form and the same nodes. An actor that kills the actor of its own number
ends its turn as if it had killed itself. And two theatres that differ in nothing but
how actors call themselves in their own scripts give the same answers to any number
of ticks: the same instructions and events are reported, the same warnings and calls
are noted, the variables of the game are the same, and so is each scene in everything
but its scripts' commands. -/
theorem own_number_means_self :
    (∀ runner (actor other : ActorRef),
      actor.reflexive runner = other.reflexive runner ↔
        actor = other ∨
          actor.resolve runner = runner ∧ other.resolve runner = runner) ∧
    (∀ index assets,
      LoadContext.compileActors index 0 (assets.mapIdx ActorAsset.reflexive) =
        (LoadContext.compileActors index 0 assets).map
          (List.mapIdx LoadedActor.reflexive)) ∧
    (∀ (context : LoadContext) index kind data actors offset markers scenery
        root link nodes,
      let attached :=
        Attach.scene markers scenery root link
          (context.assemble index kind data actors offset) nodes
      Attach.scene markers scenery root link
          (context.assemble index kind data
            (actors.mapIdx LoadedActor.reflexive) offset) nodes =
        (attached.1.reflexive, attached.2)) ∧
    (∀ (index : UInt64) kind script play,
      let killed :=
        Play.instruct index.toNat kind (.kill (.numbered index)) script play
      killed = Play.instruct index.toNat kind (.kill .self) script play ∧
        killed.1 = false) ∧
    ∀ theatre other : Theatre, theatre.gist = other.gist → ∀ count,
      let ticks := List.replicate count Act.tick
      let after := theatre.run ticks
      let otherAfter := other.run ticks
      theatre.answers ticks = other.answers ticks ∧
        (∃ notes : Journal,
          after.stage.journal = theatre.stage.journal ++ notes ∧
            otherAfter.stage.journal = other.stage.journal ++ notes) ∧
        after.game = otherAfter.game ∧
        after.stage.host = otherAfter.stage.host ∧
        (∀ id, (after.stage.arena.scene? id).map Scene.blank =
          (otherAfter.stage.arena.scene? id).map Scene.blank) ∧
        after.gist = otherAfter.gist := by
  refine ⟨ActorRef.reflexive_eq_iff, ?compiles, ?attaches, ?kills, ?ticks⟩
  case compiles =>
    intro index assets
    simpa only [Nat.zero_add] using
      LoadContext.compileActors_reflexive index assets 0
  case attaches =>
    intro context index kind data actors offset markers scenery root link nodes
    dsimp only
    rw [LoadContext.assemble_reflexive, Attach.scene_reflexive]
  case kills =>
    intro index kind script play
    refine ⟨play.instruct_kill_numbered index kind script, ?_⟩
    simp [Play.instruct, Play.execute, ActorRef.resolve]
  case ticks =>
    intro theatre other same count ticks after otherAfter
    obtain ⟨answers_, still, notes⟩ := ticks_of_gist same count
    have still : after.gist = otherAfter.gist := still
    have scenes (theatre : Theatre) (id : SceneId) :
        (theatre.stage.arena.scene? id).map Scene.blank =
          (theatre.gist.stage.arena.scene? id).map Scene.blank := by
      rw [gist, Stage.gist, Stage.scene?_reflexive, Option.map_map]
      congr 1
      funext scene
      exact scene.blank_reflexive.symm
    exact ⟨answers_, notes, (congrArg Theatre.game still :),
      (congrArg (fun theatre => theatre.stage.host) still :),
      fun id => by rw [scenes after, scenes otherAfter, still], still⟩

def drowsyProgram (somebody : ActorRef) : Program where
  commands :=
    [.ifThen (.compare (.actorAlive somebody) .equal (.literal 1)) 2,
      .kill somebody]
  targets_le := by simp [Command.jumpTarget?]

def drowsyScene (somebody : ActorRef) : Scene where
  index := 0
  kind := .isometric 0
  island := none
  ambience := ⟨0, none, none⟩
  environment := Environment.plain
  scenery := 0
  root := 0
  node := 0
  actors :=
    [.ofPrograms ⟨"hero", none, Vec3.zero, 0, 0, [], []⟩ none
      (drowsyProgram somebody) Program.empty]
  zones := []
  points := []
  cube := CubeBank.blank 0
  cubeSize := 0
  gameReferences := []
  link := .standalone
  active := true

def drowsy (somebody : ActorRef) : Theatre where
  stage :=
    { Stage.bare SceneMap.empty ⟨"", false, 10⟩ Host.quiet with
      arena := Arena.empty.addScene (drowsyScene somebody)
      active := some 0 }
  game := GameBank.fresh

theorem gist_drowsy :
    (drowsy .self).gist = (drowsy (.numbered 0)).gist := by
  have scene :
      (drowsyScene .self).reflexive = (drowsyScene (.numbered 0)).reflexive :=
    rfl
  have arena (somebody : ActorRef) :
      (drowsy somebody).stage.arena.reflexive =
        Arena.empty.addScene (drowsyScene somebody).reflexive := by
    simp [drowsy, Arena.reflexive, Arena.addScene, Arena.empty, Slots.map,
      Slots.insert, Slots.empty]
  have same : (drowsy .self).stage.arena.reflexive =
      (drowsy (.numbered 0)).stage.arena.reflexive := by
    rw [arena, arena, scene]
  exact congrArg (fun arena : Arena =>
    { drowsy .self with
      stage := { (drowsy .self).stage.unlogged with arena := arena } }) same

/-- The actor goes to sleep under both names. -/
theorem own_number_means_self_drowsy :
    (drowsy .self).gist = (drowsy (.numbered 0)).gist ∧
      (drowsy .self).answers [.tick, .tick] =
        (drowsy (.numbered 0)).answers [.tick, .tick] ∧
      ((drowsy .self).stage.tick (drowsy .self).game).1.events =
        [.killed 0 0] := by
  obtain ⟨-, -, -, -, ticks⟩ := own_number_means_self
  obtain ⟨answers_, -⟩ := ticks _ _ gist_drowsy 2
  exact ⟨gist_drowsy, answers_, by decide⟩

end Theatre

end Stagecraft
