import Stagecraft.Proofs.Script.Uses
import Stagecraft.Proofs.Stage.Proceedings

/-!
# The survey of a scene

The survey that sizes the cube bank of a scene and lists its game variables when
the scene is loaded stays right for as long as the scene is: no tick needs room
beyond the bank, and none accesses a game variable that is not listed.
-/

namespace Stagecraft

/-! ## Mentions in a scene -/

def Actor.Mentions (actor : Actor) (reference : VariableRef) : Prop :=
  ∃ kind, (actor.script kind).program.Mentions reference

def Scene.Mentions (scene : Scene) (reference : VariableRef) : Prop :=
  ∃ actor ∈ scene.actors, actor.Mentions reference

/-- Whether the survey of a scene is exact: the size of its cube bank is that of
the variables mentioned, and its list of game variables has those mentioned, in
ascending order. -/
structure Scene.Surveyed (scene : Scene) : Prop where
  spans : Spans scene.cubeSize fun index => scene.Mentions (.cube index)
  size : scene.cube.size = scene.cubeSize
  ascending : scene.gameReferences.Pairwise (· < ·)
  references : ∀ index, index ∈ scene.gameReferences ↔
    scene.Mentions (.game index)

theorem Actor.mentions_of_program {before after : Actor}
    (same : ∀ kind, (after.script kind).program = (before.script kind).program) :
    after.Mentions = before.Mentions := by
  funext reference
  unfold Mentions
  simp only [same]

theorem Actor.mentions_killed (actor : Actor) :
    actor.killed.Mentions = actor.Mentions :=
  Actor.mentions_of_program fun kind => by cases kind <;> rfl

theorem Actor.mentions_woken (actor : Actor) :
    actor.woken.Mentions = actor.Mentions := by
  unfold woken
  split
  · rfl
  · exact Actor.mentions_of_program fun kind => by cases kind <;> rfl

theorem Actor.mentions_ofPrograms (data : ActorData) (node : Option NodeId)
    (life move : Program) (reference : VariableRef) :
    (ofPrograms data node life move).Mentions reference ↔
      life.Mentions reference ∨ move.Mentions reference := by
  constructor
  · rintro ⟨_ | _, mentions⟩
    · exact .inl mentions
    · exact .inr mentions
  · rintro (mentions | mentions)
    · exact ⟨.life, mentions⟩
    · exact ⟨.move, mentions⟩

theorem Play.mentions_iff (play : Play) (reference : VariableRef) :
    play.Mentions reference ↔
      ∃ actor ∈ play.actors, actor.Mentions reference := by
  constructor
  · rintro ⟨position, kind, program, found, mentions⟩
    simp only [Play.program?, Play.script?, Option.map_map,
      Option.map_eq_some_iff] at found
    obtain ⟨actor, listed, rfl⟩ := found
    exact ⟨actor, List.mem_of_getElem? listed, kind, mentions⟩
  · rintro ⟨actor, member, kind, mentions⟩
    obtain ⟨position, listed⟩ := List.mem_iff_getElem?.mp member
    exact ⟨position, kind, _, by rw [Play.program?, Play.script?, listed]; rfl,
      mentions⟩

/-! ## What keeps a survey -/

namespace Scene

variable {before after : Scene}

theorem Surveyed.of_same (surveyed : before.Surveyed)
    (mentions : after.Mentions = before.Mentions)
    (size : after.cube.size = before.cube.size)
    (cubeSize : after.cubeSize = before.cubeSize)
    (references : after.gameReferences = before.gameReferences) :
    after.Surveyed := by
  refine ⟨?_, ?_, ?_, fun index => ?_⟩
  · rw [mentions, cubeSize]
    exact surveyed.spans
  · rw [size, cubeSize]
    exact surveyed.size
  · rw [references]
    exact surveyed.ascending
  · rw [mentions, references]
    exact surveyed.references index

theorem Surveyed.covers (surveyed : before.Surveyed) :
    before.cube.Covers before.Mentions := by
  intro index mentions
  rw [surveyed.size]
  exact surveyed.spans.lt mentions

theorem mentions_changeProtagonist (scene : Scene) (nodes : NodeTree)
    {change : Actor → NodeTree → Actor × NodeTree}
    (same : ∀ actor tree, (change actor tree).1.Mentions = actor.Mentions) :
    (scene.changeProtagonist change nodes).1.Mentions = scene.Mentions := by
  funext reference
  unfold changeProtagonist
  split
  · rfl
  · next actor others listed =>
      simp only [Mentions, listed, List.mem_cons, exists_eq_or_imp, same]

theorem Surveyed.changeProtagonist (surveyed : before.Surveyed)
    (nodes : NodeTree) {change : Actor → NodeTree → Actor × NodeTree}
    (same : ∀ actor tree, (change actor tree).1.Mentions = actor.Mentions) :
    (before.changeProtagonist change nodes).1.Surveyed := by
  refine surveyed.of_same (before.mentions_changeProtagonist nodes same)
    ?_ ?_ ?_
  all_goals
    unfold Scene.changeProtagonist
    split <;> rfl

theorem mentions_resetActors (actors : List Actor) (nodes : NodeTree)
    (reference : VariableRef) :
    (∃ actor ∈ (resetActors actors nodes).1, actor.Mentions reference) ↔
      ∃ actor ∈ actors, actor.Mentions reference := by
  induction actors generalizing nodes with
  | nil => rfl
  | cons first rest inductionHypothesis =>
      have same : first.atSpawn.Mentions = first.Mentions :=
        Actor.mentions_of_program fun kind => by cases kind <;> rfl
      simp only [resetActors, Actor.reset, List.mem_cons, exists_eq_or_imp,
        same]
      exact or_congr_right (inductionHypothesis _)

theorem Surveyed.restored (surveyed : before.Surveyed) (nodes : NodeTree) :
    (Stage.resetScene before nodes).1.Surveyed := by
  refine surveyed.of_same ?_ ?_ rfl rfl
  · funext reference
    exact propext (mentions_resetActors before.actors nodes reference)
  · exact (CubeBank.size_blank _).trans surveyed.size.symm

/-- What a tick of a scene uses. -/
theorem Surveyed.uses (scene : Scene) (game : GameBank) (nodes : NodeTree)
    (budget : Nat) :
    let start := Stage.playOf scene game nodes
    Play.Uses scene.Mentions start (start.tick budget) := by
  have uses :=
    ((Stage.playOf scene game nodes).programs_uses_tick budget).2
  exact uses.widen fun reference mentions =>
    (Play.mentions_iff _ reference).mp mentions

theorem Surveyed.played (surveyed : before.Surveyed) (game : GameBank)
    (nodes : NodeTree) (budget : Nat) :
    (Stage.playedScene ((Stage.playOf before game nodes).tick budget)
      before).Surveyed := by
  obtain ⟨programs, _⟩ :=
    (Stage.playOf before game nodes).programs_uses_tick budget
  refine surveyed.of_same ?_ ?_ rfl rfl
  · funext reference
    have after :=
      ((Stage.playOf before game nodes).tick budget).mentions_iff reference
    have start := (Stage.playOf before game nodes).mentions_iff reference
    simp only [Play.Mentions, programs] at after
    exact propext (after.symm.trans start)
  · exact (Surveyed.uses before game nodes budget).size surveyed.covers

/-- The actors of an attached scene mention what its programs mention. -/
theorem mentions_attached (parent : NodeId) (position : Nat)
    (loaded : List LoadedActor) (nodes : NodeTree) (reference : VariableRef) :
    (∃ actor ∈ (Attach.actors parent position loaded nodes).1,
        actor.Mentions reference) ↔
      Mentioned (LoadContext.programsOf loaded) reference := by
  induction loaded generalizing position nodes with
  | nil => simp [Attach.actors, Mentioned, LoadContext.programsOf]
  | cons first rest inductionHypothesis =>
      simp only [Attach.actors, List.mem_cons, exists_eq_or_imp,
        Actor.mentions_ofPrograms, inductionHypothesis, Mentioned,
        LoadContext.programsOf, List.flatMap_cons, List.cons_append,
        List.nil_append, or_assoc]

theorem surveyed_attached {context : LoadContext} {index : SceneIndex}
    {loaded : LoadedScene} (assembled : context.Assembles index loaded)
    (markers : Bool) (scenery : SceneryId) (root : NodeId) (link : Link)
    (nodes : NodeTree) :
    (Attach.scene markers scenery root link loaded nodes).1.Surveyed := by
  obtain ⟨kind, data, actors, offset, _, rfl⟩ := assembled
  have mentions (reference : VariableRef) :
      (Attach.scene markers scenery root link
          (context.assemble index kind data actors offset)
          nodes).1.Mentions reference ↔
        Mentioned (LoadContext.programsOf actors) reference :=
    mentions_attached _ 0 actors _ reference
  refine ⟨?_, CubeBank.size_blank _, gameReferences_ascending _, fun index => ?_⟩
  · exact (spans_cubeSize _).congr fun index => (mentions _).symm
  · exact (mem_gameReferences _ index).trans (mentions _).symm

/-- The survey made when a scene is loaded stays exact whatever happens to the
scene. -/
theorem lasting_surveyed : Scene.Lasting Scene.Surveyed where
  attached := surveyed_attached
  active _ surveyed := surveyed.of_same rfl rfl rfl rfl
  link _ surveyed := surveyed.of_same rfl rfl rfl rfl
  slept nodes surveyed := surveyed.changeProtagonist nodes fun actor tree => by
    rw [Actor.kill_actor, Actor.mentions_killed]
  woken nodes surveyed := surveyed.changeProtagonist nodes fun actor tree => by
    rw [Actor.revive_actor, Actor.mentions_woken]
  played game nodes budget surveyed := surveyed.played game nodes budget
  restored nodes surveyed := surveyed.restored nodes

end Scene

/-! ## Ticks of a stage -/

/-- A tick of a surveyed stage does not make a cube bank grow, and accesses only
listed game variables. -/
theorem Stage.tick_surveyed {stage : Stage}
    (every : stage.arena.Every Scene.Surveyed) (game : GameBank) :
    let ticked := stage.tick game
    (∃ notes : Journal,
        ticked.2.2.journal = stage.journal ++ notes ∧
          ∀ index size, Note.warning (.cubeVariableGrown index size) ∉ notes) ∧
      ∀ index ∈ ticked.2.1.touched,
        index ∈ game.touched ∨ index ∈ stage.gameReferences := by
  have idle :
      (∃ notes : Journal, stage.journal = stage.journal ++ notes ∧
          ∀ index size, Note.warning (.cubeVariableGrown index size) ∉ notes) ∧
        ∀ index ∈ game.touched,
          index ∈ game.touched ∨ index ∈ stage.gameReferences :=
    ⟨⟨#[], by simp, by simp⟩, fun _ listed => .inl listed⟩
  unfold tick
  split
  · exact idle
  · split
    · next id scene active found =>
        have surveyed : scene.Surveyed := by
          refine every id scene ?_
          simpa [activeScene?, active] using found
        have uses :=
          Scene.Surveyed.uses scene game stage.host.nodes
            stage.settings.stepBudget
        refine ⟨⟨_, rfl, fun index size grown => ?_⟩, fun index listed => ?_⟩
        · have scripted :
              Note.warning (.cubeVariableGrown index size) ∈
                ((playOf scene game stage.host.nodes).tick
                  stage.settings.stepBudget).journal := by
            simpa [tickNotes] using grown
          simpa [playOf] using uses.growth surveyed.covers index size scripted
        · refine (uses.touched index listed).imp_right fun mentions => ?_
          rw [gameReferences, found]
          exact (surveyed.references index).mpr mentions
    · exact idle

namespace Theatre

/-- In every state of a theatre the survey of every loaded scene is exact: its
cube bank has exactly the size that the variables mentioned by its scripts need,
and its list of game variables has exactly those mentioned. A tick makes no cube
bank grow, and it accesses only game variables that were accessed before or are
listed for the active scene. -/
theorem survey_bounds_variables (map : SceneMap) (settings : StageSettings)
    (host : Host) (game : GameBank) (acts : List Act) :
    let theatre := (opening map settings host game).run acts
    let ticked := (theatre.perform .tick).2
    theatre.stage.arena.Every Scene.Surveyed ∧
      (∃ notes : Journal,
        ticked.stage.journal = theatre.stage.journal ++ notes ∧
          ∀ index size, Note.warning (.cubeVariableGrown index size) ∉ notes) ∧
      ∀ index ∈ ticked.game.touched,
        index ∈ theatre.game.touched ∨
          index ∈ theatre.stage.gameReferences := by
  intro theatre ticked
  have every : theatre.stage.arena.Every Scene.Surveyed :=
    every_reachable Scene.lasting_surveyed map settings host game acts
  exact ⟨every, Stage.tick_surveyed every theatre.game⟩

end Theatre

end Stagecraft
