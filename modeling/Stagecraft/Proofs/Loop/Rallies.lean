import Stagecraft.Proofs.Loop.Entrances
import Stagecraft.Proofs.Script.Monologues
import Stagecraft.Proofs.Stage.Everywhere
import Stagecraft.Proofs.Stage.Lives

/-!
# Rallies

A scene whose only script sends everybody to another scene and jumps back asks for
that scene in every tick, and nothing that happens to it ends that. A run through
scenes of one island that send everybody to each other moves in every turn.
-/

namespace Stagecraft

/-! ## Senders -/

/-- Whether a script asks for a scene in each of its turns. -/
structure Script.Sends (target : SceneIndex) (script : Script) : Prop where
  commands : script.program.commands = [.changeScene target, .jump 0]
  running : script.state.status = .running
  inside : script.state.position < 2

structure Actor.Idles (actor : Actor) : Prop where
  life : actor.life.program.commands = []
  move : actor.move.program.commands = []

/-- Whether an actor is awake and asks for a scene in each of its turns. -/
structure Actor.Sends (target : SceneIndex) (actor : Actor) : Prop where
  awake : actor.alive = true
  life : actor.life.Sends target
  move : actor.move.program.commands = []

theorem Script.sends_ofProgram {target : SceneIndex} {program : Program}
    (commands : program.commands = [.changeScene target, .jump 0]) :
    (ofProgram program).Sends target :=
  ⟨commands, rfl, Nat.zero_lt_two⟩

/-- Whether actors are a hero without commands and somebody who sends everybody to a
scene. -/
def Rallies (target : SceneIndex) (actors : List Actor) : Prop :=
  ∃ hero sender, actors = [hero, sender] ∧ hero.Idles ∧ sender.Sends target

/-! ## Turns of a rally -/

namespace Play

variable {target : SceneIndex} {play : Play} {script : Script} {runner : Nat}
  {kind : ScriptKind} {budget : Nat}

theorem events_note (play : Play) (entry : Note) :
    (play.note entry).journal.events =
      play.journal.events ++ entry.event?.toList := by
  simp only [note, Journal.events, Array.toList_push, List.filterMap_append]
  cases is : entry.event? with
  | none => simp [is]
  | some event => simp [is]

theorem runScript_zero {command : Command}
    (current : script.current? = some command) :
    play.runScript runner kind budget 0 script =
      (script, play.warn (play.exhaustion runner kind budget script)) := by
  unfold runScript
  simp only [current]

theorem runScript_changeScene
    (current : script.current? = some (.changeScene target)) (steps : Nat) :
    play.runScript runner kind budget (steps + 1) script =
      (script.goTo (script.state.position + 1),
        (play.note (.executed ⟨runner, kind, script.state.position⟩)).note
          (.event (.changeScene target runner))) := by
  unfold runScript
  simp only [current]
  rfl

theorem runScript_jump {goal : UInt64}
    (current : script.current? = some (.jump goal)) (steps : Nat) :
    play.runScript runner kind budget (steps + 1) script =
      (play.note (.executed ⟨runner, kind, script.state.position⟩)).runScript
        runner kind budget steps (script.goTo goal.toNat) := by
  conv => lhs; unfold runScript
  simp only [current]
  rfl

/-- What a turn of a script that sends everybody away comes to: the script is ready
for the next turn, and it has asked for its scene if it could make as many steps as
that takes. -/
structure Asks (target : SceneIndex) (runner needed steps : Nat) (play : Play)
    (turn : Script × Play) : Prop where
  left : turn.1.Sends target
  actors : turn.2.actors = play.actors
  zones : turn.2.zones = play.zones
  asked : needed ≤ steps → turn.2.journal.events =
    play.journal.events ++ [.changeScene target runner]

theorem asks_of_start (sends : script.Sends target)
    (begins : script.state.position = 0) (steps : Nat) (play : Play) :
    Asks target runner 1 steps play
      (play.runScript runner kind budget steps script) := by
  have current : script.current? = some (.changeScene target) := by
    rw [Script.current?, sends.commands, begins]
    rfl
  cases steps with
  | zero =>
      rw [runScript_zero current]
      exact ⟨sends, rfl, rfl,
        fun enough => absurd enough (Nat.not_succ_le_zero 0)⟩
  | succ steps =>
      rw [runScript_changeScene current, begins]
      have next : (script.goTo (0 + 1)).Sends target :=
        ⟨sends.commands, sends.running, Nat.one_lt_two⟩
      refine ⟨next, rfl, rfl, fun _ => ?_⟩
      rw [events_note, events_note, List.append_assoc]
      rfl

/-- A script that sends everybody away asks for its scene, or jumps back and then
asks. -/
theorem asks_runScript (sends : script.Sends target) (steps : Nat)
    (play : Play) :
    Asks target runner 2 steps play
      (play.runScript runner kind budget steps script) := by
  obtain begins | jumps : script.state.position = 0 ∨
      script.state.position = 1 := by
    have inside := sends.inside
    omega
  · have turn : Asks target runner 1 steps play
        (play.runScript runner kind budget steps script) :=
      asks_of_start sends begins steps play
    exact ⟨turn.left, turn.actors, turn.zones,
      fun enough => turn.asked (Nat.le_of_succ_le enough)⟩
  · have current : script.current? = some (.jump 0) := by
      rw [Script.current?, sends.commands, jumps]
      rfl
    cases steps with
    | zero =>
        rw [runScript_zero current]
        exact ⟨sends, rfl, rfl,
          fun enough => absurd enough (Nat.not_succ_le_zero 1)⟩
    | succ steps =>
        rw [runScript_jump current]
        have back : (script.goTo (0 : UInt64).toNat).Sends target :=
          ⟨sends.commands, sends.running, Nat.zero_lt_two⟩
        have turn :=
          @asks_of_start target _ runner kind budget back rfl steps
            (play.note (.executed ⟨runner, kind, script.state.position⟩))
        refine ⟨turn.left, turn.actors, turn.zones, fun enough => ?_⟩
        rw [turn.asked (Nat.le_of_succ_le_succ enough), events_note]
        simp [Note.event?]

/-- The turn of a script without commands halts it at most. -/
theorem takeTurn_of_nil {turn : Nat × ScriptKind} (budget : Nat)
    (blank : ∀ script, play.script? turn.1 turn.2 = some script →
      script.program.commands = []) :
    play.takeTurn budget turn = play ∨
      ∃ script, script.program.commands = [] ∧
        play.takeTurn budget turn =
          (play.putScript turn.1 turn.2 .vacant).putScript turn.1 turn.2
            script := by
  cases ready : play.ready? turn with
  | none => exact .inl (takeTurn_of_idle ready)
  | some script =>
      have silent := blank script (ready?_eq_some ready).1
      have past : script.current? = none := by
        rw [Script.current?, silent]
        rfl
      refine .inr ⟨script.halt, silent, ?_⟩
      unfold takeTurn giveTurn
      rw [ready]
      simp only [runScript_of_past past]

/-- What a part of a tick of a rally comes to: the rally goes on, and it has asked for
some scenes if the budget of its scripts is large enough for that. -/
structure GoesOn (target : SceneIndex) (budget : Nat) (asked : List Event)
    (play after : Play) : Prop where
  rallies : Rallies target after.actors
  zones : after.zones = play.zones
  events : 2 ≤ budget → after.journal.events = play.journal.events ++ asked

theorem GoesOn.trans {asked later : List Event} {middle after : Play}
    (first : GoesOn target budget asked play middle)
    (second : GoesOn target budget later middle after) :
    GoesOn target budget (asked ++ later) play after :=
  ⟨second.rallies, second.zones.trans first.zones, fun enough => by
    rw [second.events enough, first.events enough, List.append_assoc]⟩

/-- The scripts of a rally have no commands, but for the one that asks. -/
theorem commands_of_rallies (rallies : Rallies target play.actors)
    {turn : Nat × ScriptKind} (other : turn ≠ (1, .life))
    (stands : play.script? turn.1 turn.2 = some script) :
    script.program.commands = [] := by
  obtain ⟨hero, sender, actors, idles, sends⟩ := rallies
  obtain ⟨actor, found, rfl⟩ := Option.map_eq_some_iff.mp stands
  rw [actors] at found
  match turn with
  | (0, .life) => obtain rfl := Option.some.inj found; exact idles.life
  | (0, .move) => obtain rfl := Option.some.inj found; exact idles.move
  | (1, .life) => exact absurd rfl other
  | (1, .move) => obtain rfl := Option.some.inj found; exact sends.move
  | (_ + 2, _) => cases found

theorem rallies_putScript (rallies : Rallies target play.actors)
    {turn : Nat × ScriptKind} (other : turn ≠ (1, .life))
    (commands : script.program.commands = []) :
    Rallies target (play.putScript turn.1 turn.2 script).actors := by
  obtain ⟨hero, sender, actors, idles, sends⟩ := rallies
  simp only [putScript, modifyScript, modifyActor, actors]
  obtain ⟨position, kind⟩ := turn
  rcases position with _ | _ | position
  · cases kind with
    | life => exact ⟨_, _, rfl, ⟨commands, idles.move⟩, sends⟩
    | move => exact ⟨_, _, rfl, ⟨idles.life, commands⟩, sends⟩
  · cases kind with
    | life => exact absurd rfl other
    | move => exact ⟨_, _, rfl, idles, sends.awake, sends.life, commands⟩
  · rw [List.modify_eq_self (Nat.le_add_left 2 position)]
    exact ⟨_, _, rfl, idles, sends⟩

/-- The turn of any script but the one that asks. -/
theorem goesOn_of_ne (rallies : Rallies target play.actors) (budget : Nat)
    {turn : Nat × ScriptKind} (other : turn ≠ (1, .life)) :
    GoesOn target budget [] play (play.takeTurn budget turn) := by
  have blank (script : Script)
      (stands : play.script? turn.1 turn.2 = some script) :
      script.program.commands = [] :=
    commands_of_rallies rallies other stands
  obtain same | ⟨script, commands, put⟩ := takeTurn_of_nil budget blank
  · rw [same]
    exact ⟨rallies, rfl, fun _ => (List.append_nil _).symm⟩
  · rw [put]
    have vacated : Rallies target (play.putScript turn.1 turn.2 .vacant).actors :=
      rallies_putScript rallies other rfl
    exact ⟨rallies_putScript vacated other commands, rfl,
      fun _ => (List.append_nil _).symm⟩

/-- The turn of the script that asks. -/
theorem goesOn_life (rallies : Rallies target play.actors) (budget : Nat) :
    GoesOn target budget [.changeScene target 1] play
      (play.takeTurn budget (1, .life)) := by
  obtain ⟨hero, sender, actors, idles, sends⟩ := rallies
  have ready : play.ready? (1, .life) = some sender.life := by
    simp [ready?, script?, isAlive, actors, Actor.script, sends.awake,
      sends.life.running]
  unfold takeTurn giveTurn
  rw [ready]
  dsimp only
  have turn :=
    @asks_runScript target _ 1 .life budget sends.life budget
      (play.putScript 1 .life Script.vacant)
  generalize Play.runScript _ _ _ _ _ _ = ended at turn ⊢
  obtain ⟨left, after⟩ := ended
  refine ⟨?_, turn.zones, turn.asked⟩
  have same := turn.actors
  simp only [putScript, modifyScript, modifyActor, actors] at same ⊢
  rw [same]
  exact ⟨_, _, rfl, idles, sends.awake, turn.left, sends.move⟩

/-- A tick of a rally asks for its scene, once, and the rally goes on. -/
theorem goesOn_tick (rallies : Rallies target play.actors) (budget : Nat) :
    GoesOn target budget [.changeScene target 1] play (play.tick budget) := by
  have two : play.actors.length = 2 := by
    obtain ⟨hero, sender, actors, _, _⟩ := rallies
    rw [actors]
    rfl
  rw [tick, two]
  have heroLife := @goesOn_of_ne _ _ rallies budget (0, .life) (by decide)
  have heroMove :=
    @goesOn_of_ne _ _ heroLife.rallies budget (0, .move) (by decide)
  have asks := goesOn_life heroMove.rallies budget
  have moves := @goesOn_of_ne _ _ asks.rallies budget (1, .move) (by decide)
  exact heroLife.trans (heroMove.trans (asks.trans moves))

end Play

/-! ## Scenes -/

/-- Whether a scene sends everybody on: it has no zones, and its actors ask for the
scene that follows it. -/
structure Scene.Rallies (following : SceneIndex → SceneIndex) (scene : Scene) :
    Prop where
  zones : scene.zones = []
  actors : Stagecraft.Rallies (following scene.index) scene.actors

namespace Scene

variable {following : SceneIndex → SceneIndex} {scene : Scene}

theorem Rallies.changeProtagonist (rallies : scene.Rallies following)
    {change : Actor → NodeTree → Actor × NodeTree} (nodes : NodeTree)
    (keeps : ∀ actor : Actor, actor.Idles → (change actor nodes).1.Idles) :
    (scene.changeProtagonist change nodes).1.Rallies following := by
  obtain ⟨zones, hero, sender, actors, idles, sends⟩ := rallies
  unfold Scene.changeProtagonist
  rw [actors]
  exact ⟨zones, _, _, rfl, keeps hero idles, sends⟩

theorem enduring_rallies (following : SceneIndex → SceneIndex) :
    Enduring (Rallies following) where
  active _ rallies := ⟨rallies.zones, rallies.actors⟩
  link _ rallies := ⟨rallies.zones, rallies.actors⟩
  slept nodes rallies := by
    refine rallies.changeProtagonist nodes fun actor idles => ?_
    unfold Actor.kill
    split
    · exact ⟨idles.life, idles.move⟩
    · exact idles
  woken nodes rallies := by
    refine rallies.changeProtagonist nodes fun actor idles => ?_
    unfold Actor.revive
    split
    · exact idles
    · exact ⟨idles.life, idles.move⟩
  played {scene} game nodes budget rallies := by
    have quiet : (Stage.trackProtagonist scene).1 = [] := by
      unfold Stage.trackProtagonist
      rw [rallies.zones]
      split <;> rfl
    have ticks :=
      Play.goesOn_tick
        (show Stagecraft.Rallies _ (Stage.playOf scene game nodes).actors from
          rallies.actors) budget
    exact ⟨ticks.zones.trans quiet, ticks.rallies⟩
  restored nodes rallies := by
    obtain ⟨zones, hero, sender, actors, idles, sends⟩ := rallies
    unfold Stage.resetScene
    rw [actors, zones]
    exact ⟨rfl, _, _, rfl, ⟨idles.life, idles.move⟩, rfl,
      Script.sends_ofProgram sends.life.commands, sends.move⟩

end Scene

/-- Whether a loaded scene is to send everybody on. -/
structure LoadedScene.Rallies (following : SceneIndex → SceneIndex)
    (loaded : LoadedScene) : Prop where
  zones : loaded.zones = []
  commands : loaded.actors.map
      (fun actor => (actor.life.commands, actor.move.commands)) =
    [([], []), ([.changeScene (following loaded.index), .jump 0], [])]

theorem LoadedScene.Rallies.attach {following : SceneIndex → SceneIndex}
    {loaded : LoadedScene} (rallies : loaded.Rallies following) (markers : Bool)
    (scenery : SceneryId) (root : NodeId) (link : Link) (nodes : NodeTree) :
    (Attach.scene markers scenery root link loaded nodes).1.Rallies following := by
  obtain ⟨zones, commands⟩ := rallies
  obtain ⟨hero, others, actors, heroCommands, rest⟩ :=
    List.map_eq_cons_iff.mp commands
  obtain ⟨sender, others, rfl, senderCommands, nobody⟩ :=
    List.map_eq_cons_iff.mp rest
  obtain rfl := List.map_eq_nil_iff.mp nobody
  obtain ⟨heroLife, heroMove⟩ := Prod.mk.inj heroCommands
  obtain ⟨senderLife, senderMove⟩ := Prod.mk.inj senderCommands
  constructor
  · simp only [Attach.scene, zones]
    rfl
  · simp only [Attach.scene, actors, Attach.actors]
    exact ⟨_, _, rfl, ⟨heroLife, heroMove⟩, rfl,
      Script.sends_ofProgram senderLife, senderMove⟩

/-! ## Stages -/

namespace Stage

variable {following : SceneIndex → SceneIndex} {stage : Stage}
  {index : SceneIndex}

/-- A tick of a scene that sends everybody on asks for the scene that follows. -/
theorem requestedScene_tick (shows : stage.Shows index)
    (every : stage.arena.Every (Scene.Rallies following))
    (enough : 2 ≤ stage.settings.stepBudget) (game : GameBank) :
    requestedScene (stage.tick game).1.events = some (following index) := by
  obtain ⟨cast, houses, listed⟩ := shows.leads
  cases houses with
  | family active fills asleep =>
      obtain ⟨scene, found, rfl⟩ := fills.sceneOf listed
      obtain ⟨zones, rallies⟩ := every _ scene found
      have ticks :=
        Play.goesOn_tick
          (show Rallies _ (playOf scene game stage.host.nodes).actors from rallies)
          stage.settings.stepBudget
      have asked := ticks.events enough
      have quiet : (trackProtagonist scene).2 = [] := by
        unfold trackProtagonist
        rw [zones]
        split <;> rfl
      rw [tick_eq_tickScene shows.idle active found, report_tickScene, asked, quiet]
      rfl

/-- What it takes for a stage to move on in every turn: all its scenes send everybody
on, and each to one of its side scenes. -/
structure Rallies (following : SceneIndex → SceneIndex) (stage : Stage) : Prop where
  shows : ∃ index, stage.Shows index
  every : stage.arena.Every (Scene.Rallies following)
  enough : 2 ≤ stage.settings.stepBudget
  beside : ∀ index kind, stage.map.kind? index = some kind →
    following index ∈ stage.map.sideScenes index

theorem kind?_of_shows (shows : stage.Shows index) :
    ∃ kind, stage.map.kind? index = some kind := by
  obtain ⟨cast, houses, listed⟩ := shows.leads
  cases houses with
  | family active fills asleep =>
      obtain ⟨scene, found, rfl⟩ := fills.sceneOf listed
      exact ⟨_, (fills.includes _ _ found).kind⟩

theorem rallies_warn (rallies : stage.Rallies following) (warning : Warning) :
    (stage.warn warning).Rallies following := by
  obtain ⟨⟨index, shows⟩, every, enough, beside⟩ := rallies
  exact ⟨⟨index, shows_warn shows warning⟩, every, enough, beside⟩

/-- A turn leads to the scene that follows, where the rally goes on. -/
theorem rallies_turn (rallies : stage.Rallies following) (source : Source)
    (game : GameBank) :
    (stage.turn source game).succeeds = true ∧
      (stage.turn source game).stage.Rallies following := by
  obtain ⟨⟨index, shows⟩, every, enough, beside⟩ := rallies
  have asks := requestedScene_tick shows every enough game
  have still := shows_tick shows game
  have setting := (sameSetting_tick stage game).1
  have ticked := every_tick (Scene.enduring_rallies following) every game
  obtain ⟨kind, known⟩ := kind?_of_shows shows
  have isSide := beside index kind known
  unfold Stage.turn
  generalize stage.tick game = played at asks still setting ticked ⊢
  obtain ⟨report, game, after⟩ := played
  dsimp only at asks still setting ticked ⊢
  rw [asks]
  have side : (after.sideTarget? (following index)).isSome = true := by
    rw [sideTarget?_isSome_iff still, setting.map]
    exact isSide
  have goes := goes_goto still.idle source game (following index)
  have arrives := (shows_goto source game (following index) still).1
  dsimp only at arrives ⊢
  generalize after.goto source game (following index) false = went
    at goes arrives ⊢
  cases goes with
  | ignored already =>
      rw [still.activeIndex?, Option.some.injEq] at already
      rw [SceneMap.sideScenes_eq, ← already] at isSide
      simp at isSide
  | unknown missing =>
      obtain ⟨other, found⟩ := SceneMap.kind?_of_mem_sideScenes known isSide
      rw [setting.map, found] at missing
      cases missing
  | @swapped _ _ _ outgoing incoming _ =>
      have swaps := sameSetting_swap after outgoing incoming
      refine ⟨rfl, ⟨_, (arrives rfl).1⟩, ?_, ?_, ?_⟩
      · exact every_swap (Scene.enduring_rallies following) ticked outgoing incoming
      · rw [swaps.settings, setting.settings]
        exact enough
      · rw [swaps.map, setting.map]
        exact beside
  | loads _ _ apart _ =>
      rw [apart] at side
      cases side

/-- A family whose scenes all send everybody on does so on an empty stage. -/
theorem every_replace_bare {map : SceneMap} {settings : StageSettings} {host : Host}
    {family : LoadedFamily}
    (sends : ∀ part ∈ family.main :: family.sides, part.Rallies following) :
    ((bare map settings host).replace none family).arena.Every
      (Scene.Rallies following) := by
  have nothing : ((bare map settings host).clear none).arena.Every
      (Scene.Rallies following) := by
    intro id scene found
    rw [show ((bare map settings host).clear none).arena = Arena.empty from rfl,
      Arena.isEmpty_empty.scene] at found
    cases found
  exact every_replace (Scene.enduring_rallies following) nothing
    fun part listed markers scenery root link nodes =>
      (sends part listed).attach markers scenery root link nodes

/-- The rally is on as soon as such a family is on the stage. -/
theorem rallies_of_unlogged {map : SceneMap} {settings : StageSettings}
    {host : Host} {family : LoadedFamily}
    (same : stage.unlogged =
      ((bare map settings host).replace none family).unlogged)
    (shows : ∃ index, stage.Shows index)
    (sends : ∀ part ∈ family.main :: family.sides, part.Rallies following)
    (enough : 2 ≤ settings.stepBudget)
    (beside : ∀ index kind, map.kind? index = some kind →
      following index ∈ map.sideScenes index) :
    stage.Rallies following := by
  have every := @every_replace_bare following map settings host family sends
  have setting := sameSetting_replace (bare map settings host) none family
  generalize (bare map settings host).replace none family = placed at *
  have arena : stage.unlogged.arena = placed.unlogged.arena :=
    congrArg Stage.arena same
  have mapped : stage.unlogged.map = placed.unlogged.map :=
    congrArg Stage.map same
  have sameSettings : stage.unlogged.settings = placed.unlogged.settings :=
    congrArg Stage.settings same
  refine ⟨shows, ?_, ?_, ?_⟩
  · rw [show stage.arena = placed.arena from arena]
    exact every
  · rw [show stage.settings = placed.settings from sameSettings,
      setting.settings]
    exact enough
  · rw [show stage.map = placed.map from mapped, setting.map]
    exact beside

end Stage

/-! ## Runs -/

namespace Run

variable {following : SceneIndex → SceneIndex} {run : Run}

theorem rallies_step (rallies : run.stage.Rallies following) :
    run.step.stage.Rallies following := by
  have turn := Stage.rallies_turn rallies run.source run.game
  rw [step_of_succeeds turn.1, checkpoint_eq]
  dsimp only
  split
  · exact turn.2
  · exact Stage.rallies_warn turn.2 _

theorem rallies_steps (rallies : run.stage.Rallies following) (count : Nat) :
    (run.steps count).stage.Rallies following := by
  induction count with
  | zero => exact rallies
  | succ count inductionHypothesis =>
      rw [steps_succ]
      exact rallies_step inductionHypothesis

/-- A run through scenes that send everybody on moves in every turn. -/
theorem countP_movesAt_of_rallies (sound : run.Sound)
    (rallies : run.stage.Rallies following) (count : Nat) :
    (List.range count).countP run.movesAt = count := by
  have moves (turn : Nat) : run.movesAt turn = true := by
    have goes := Stage.rallies_turn (rallies_steps rallies turn)
      (run.steps turn).source (run.steps turn).game
    exact decide_eq_true ((turnsInto_steps sound turn).succeeds goes.1).1
  rw [List.countP_eq_length.mpr fun turn _ => moves turn, List.length_range]

end Run

end Stagecraft
