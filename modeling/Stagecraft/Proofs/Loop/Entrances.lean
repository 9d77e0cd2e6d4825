import Stagecraft.Proofs.Content.Tagged
import Stagecraft.Proofs.Loop.Starts

/-!
# Entrances

Whether a request for another scene can be followed is settled by the map, the active
scene and the content. A step leads to the first scene that its tick asks for if that
can be entered, and keeps its scene otherwise. A run starts with the family of its
first scene on the stage.
-/

namespace Stagecraft

/-- A scene whose family loads is on the map. -/
theorem LoadContext.kind?_of_familyInOrder {source : Source}
    {context : LoadContext} {index : SceneIndex} {family : LoadedFamily}
    (loads : context.familyInOrder source index = .ok family) :
    ∃ kind, context.map.kind? index = some kind := by
  cases known : context.map.kind? index with
  | none =>
      simp [familyInOrder, sceneInOrder, known, bind, Except.bind] at loads
  | some kind => exact ⟨kind, rfl⟩

/-- A family that loads stands on a scenery that was answered. -/
theorem LoadContext.scenery_of_familyInOrder {source : Source}
    {context : LoadContext} {index : SceneIndex} {family : LoadedFamily}
    (loads : context.familyInOrder source index = .ok family) {kind : SceneKind}
    (known : context.map.kind? index = some kind) :
    ∃ ambience scenery,
      source.answer (.scenery (context.sceneryKey kind) ambience) =
        .ok scenery := by
  obtain ⟨⟨main, scenery⟩, mainLoads, _⟩ := exists_of_bind_eq_ok loads
  rw [sceneInOrder, known] at mainLoads
  obtain ⟨data, _, rest⟩ := exists_of_bind_eq_ok mainLoads
  obtain ⟨assets, _, rest⟩ := exists_of_bind_eq_ok rest
  obtain ⟨actors, _, rest⟩ := exists_of_bind_eq_ok rest
  obtain ⟨scenery, answered, _⟩ := exists_of_bind_eq_ok rest
  exact ⟨data.ambience, scenery, answered⟩

namespace Stage

/-! ## How transitions go -/

/-- How a transition goes on an idle stage, by where it leads. -/
inductive Goes (source : Source) (game : GameBank) (stage : Stage)
    (target : SceneIndex) : Except LoadError Outcome × Stage → Prop where
  | ignored (already : stage.activeIndex? = some target) :
      Goes source game stage target (.ok .ignored, stage)
  | unknown (missing : stage.map.kind? target = none) :
      Goes source game stage target (.error (.unknownScene target), stage)
  | swapped (elsewhere : stage.activeIndex? ≠ some target)
      {kind : SceneKind} (known : stage.map.kind? target = some kind)
      {outgoing incoming : SceneId}
      (side : stage.sideTarget? target = some (outgoing, incoming)) :
      Goes source game stage target
        (.ok (.swapped target), stage.swap outgoing incoming)
  | loads (elsewhere : stage.activeIndex? ≠ some target)
      {kind : SceneKind} (known : stage.map.kind? target = some kind)
      (apart : stage.sideTarget? target = none)
      {landing : Except LoadError Outcome × Stage}
      (lands : (stage.setActivity stage.active false).Lands source
        ⟨stage.map, stage.settings.language, game⟩
        ⟨target, stage.active, stage.loadOf game target⟩ landing) :
      Goes source game stage target landing

variable {stage : Stage} {index target : SceneIndex}

theorem goes_goto (idle : stage.flight = none) (source : Source)
    (game : GameBank) (target : SceneIndex) :
    stage.Goes source game target (stage.goto source game target false) := by
  have departs := stage.departs game target false
  unfold goto
  generalize stage.depart game target false = course at departs
  cases departs with
  | ignored busy =>
      rcases busy with loading | ⟨-, already⟩
      · simp [isLoading, idle] at loading
      · exact .ignored already
  | unknown _ wanted missing => exact .unknown missing
  | swapped _ wanted known side =>
      exact .swapped (wanted.resolve_left Bool.false_ne_true) known side
  | away _ wanted known apart =>
      have tracks :
          LoadContext.Tracks source
            ⟨stage.map, stage.settings.language, game⟩ target
            (stage.loadOf game target) :=
        LoadContext.tracks_family known
      refine .loads (wanted.resolve_left Bool.false_ne_true) known apart ?_
      exact lands_conclude (tracks.concludes_settle source.pauses _) _ _

/-- Whether a request for a scene can be followed: the scene is on the map and not
the active one, and it is a side scene of the active one or its family loads. -/
structure CanEnter (source : Source) (game : GameBank) (stage : Stage)
    (target : SceneIndex) : Prop where
  known : ∃ kind, stage.map.kind? target = some kind
  elsewhere : stage.activeIndex? ≠ some target
  opens :
    (∃ index, stage.activeIndex? = some index ∧
      target ∈ stage.map.sideScenes index) ∨
    ∃ family,
      LoadContext.familyInOrder source
        ⟨stage.map, stage.settings.language, game⟩ target = .ok family

theorem sideTarget?_isSome_iff (shows : stage.Shows index)
    (target : SceneIndex) :
    (stage.sideTarget? target).isSome = true ↔
      target ∈ stage.map.sideScenes index := by
  obtain ⟨cast, houses, listed⟩ := shows.leads
  cases houses with
  | family active fills asleep =>
      obtain ⟨main, found, rfl⟩ := fills.sceneOf listed
      rw [fills.mem_sideScenes found, Option.isSome_iff_exists]
      constructor
      · rintro ⟨⟨outgoing, incoming⟩, side⟩
        obtain ⟨leader, same, rfl, inRoster, apart⟩ :=
          (Houses.family active fills asleep).member_of_sideTarget side
        obtain rfl := Option.some.inj same
        exact ⟨incoming, inRoster, apart⟩
      · rintro ⟨incoming, inRoster, apart⟩
        exact ⟨_, (sideTarget?_eq_some_iff active fills target incoming).mpr
          ⟨inRoster, apart⟩⟩

/-- A transition leads to its target if the target can be entered, and only
then. -/
theorem changes_goto_iff (shows : stage.Shows index) (source : Source)
    (game : GameBank) (target : SceneIndex) :
    changes (stage.goto source game target false).1 = true ↔
      stage.CanEnter source game target := by
  have sides := sideTarget?_isSome_iff shows target
  have goes := goes_goto shows.idle source game target
  generalize stage.goto source game target false = landing at goes ⊢
  cases goes with
  | ignored already =>
      exact iff_of_false Bool.false_ne_true fun enters =>
        enters.elsewhere already
  | unknown missing =>
      refine iff_of_false Bool.false_ne_true fun enters => ?_
      obtain ⟨kind, known⟩ := enters.known
      rw [missing] at known
      cases known
  | @swapped elsewhere kind known outgoing incoming side =>
      rw [side] at sides
      refine iff_of_true rfl ⟨⟨kind, known⟩, elsewhere, .inl ?_⟩
      exact ⟨index, shows.activeIndex?, sides.mp rfl⟩
  | @loads elsewhere kind known apart landing lands =>
      cases lands with
      | @loaded family after inOrder shows =>
          exact iff_of_true rfl ⟨⟨kind, known⟩, elsewhere, .inr ⟨_, inOrder⟩⟩
      | failed inOrder fault after =>
          refine iff_of_false Bool.false_ne_true fun enters => ?_
          rcases enters.opens with ⟨main, active, isSide⟩ | ⟨family, loads⟩
          · obtain rfl : main = index :=
              Option.some.inj (active.symm.trans shows.activeIndex?)
            rw [← sides, apart] at isSide
            cases isSide
          · rw [inOrder] at loads
            cases loads

/-- A transition on an empty stage to a scene whose family loads puts that family
on the stage. -/
theorem unlogged_goto_of_loads {source : Source} {game : GameBank}
    {family : LoadedFamily} (houses : stage.Houses none)
    (idle : stage.flight = none)
    (loads : LoadContext.familyInOrder source
      ⟨stage.map, stage.settings.language, game⟩ target = .ok family) :
    (stage.goto source game target false).1 = .ok (.loaded target) ∧
      (stage.goto source game target false).2.unlogged =
        (stage.replace none family).unlogged := by
  have inactive : stage.active = none := by
    cases houses with
    | nothing inactive empty => exact inactive
  have goes := goes_goto idle source game target
  generalize stage.goto source game target false = landing at goes ⊢
  cases goes with
  | ignored already =>
      rw [activeIndex?_of_nothing houses] at already
      cases already
  | unknown missing =>
      obtain ⟨kind, known⟩ := LoadContext.kind?_of_familyInOrder loads
      rw [missing] at known
      cases known
  | swapped _ known side =>
      obtain ⟨cast, none, _⟩ := houses.member_of_sideTarget side
      cases none
  | loads _ known apart lands =>
      rw [inactive] at lands
      cases lands with
      | @loaded other after inOrder shows =>
          obtain rfl : other = family :=
            Except.ok.inj (inOrder.symm.trans loads)
          have landed : { stage with flight := none } = stage := by
            rw [← idle]
          refine ⟨rfl, shows.trans ?_⟩
          rw [setActivity, conclude, land, landed]
      | failed inOrder fault shows =>
          rw [inOrder] at loads
          cases loads

/-- What a tick reports and what it does to the game variables does not depend on
the journal. -/
theorem tick_unlogged (stage : Stage) (game : GameBank) :
    (stage.unlogged.tick game).1 = (stage.tick game).1 ∧
      (stage.unlogged.tick game).2.1 = (stage.tick game).2.1 := by
  have loading : stage.unlogged.isLoading = stage.isLoading := rfl
  have scene : stage.unlogged.activeScene? = stage.activeScene? := rfl
  have active : stage.unlogged.active = stage.active := rfl
  unfold tick
  rw [loading, scene, active]
  cases stage.isLoading with
  | true => exact ⟨rfl, rfl⟩
  | false =>
      cases stage.active with
      | none => exact ⟨rfl, rfl⟩
      | some id => cases stage.activeScene? <;> exact ⟨rfl, rfl⟩

end Stage

namespace Run

/-! ## The scene after a step -/

section Step

variable {run : Run} {index : SceneIndex} {report : Stage.Report}
  {game : GameBank} {ticked : Stage}

theorem activeIndex?_checkpoint (run : Run) :
    run.checkpoint.stage.activeIndex? = run.stage.activeIndex? := by
  rw [checkpoint_eq]
  generalize run.save.store run.files run.savePath = written
  obtain ⟨files, saved⟩ := written
  cases saved <;> rfl

/-- A step leads to the scene that is requested first, if it can be entered. -/
theorem activeIndex?_step_of_canEnter {target : SceneIndex}
    (shows : run.stage.Shows index)
    (ticks : run.stage.tick run.game = (report, game, ticked))
    (asks : requestedScene report.events = some target)
    (enters : ticked.CanEnter run.source game target) :
    run.step.stage.activeIndex? = some target := by
  have still := Stage.shows_tick shows run.game
  rw [ticks] at still
  have changed :=
    (Stage.changes_goto_iff still run.source game target).mpr enters
  have arrives := (Stage.shows_goto run.source game target still).1 changed
  have followed :=
    follow_of_changes
      { run with game := game, stage := ticked, ticks := countUp64 run.ticks }
      changed
  unfold step
  rw [ticks]
  dsimp only
  rw [asks]
  dsimp only
  rw [followed, activeIndex?_checkpoint]
  exact arrives.1.activeIndex?

/-- A step keeps its scene if the first request, if any, leads nowhere. -/
theorem activeIndex?_step_of_refused
    (shows : run.stage.Shows index)
    (ticks : run.stage.tick run.game = (report, game, ticked))
    (refused : ∀ target, requestedScene report.events = some target →
      ¬ ticked.CanEnter run.source game target) :
    run.step.stage.activeIndex? = some index := by
  have still := Stage.shows_tick shows run.game
  rw [ticks] at still
  unfold step
  rw [ticks]
  dsimp only
  cases asks : requestedScene report.events with
  | none => exact still.activeIndex?
  | some target =>
      have kept :
          Stage.changes
            (ticked.goto run.source game target false).1 = false := by
        rw [← Bool.not_eq_true, Stage.changes_goto_iff still]
        exact refused target asks
      have stays := (Stage.shows_goto run.source game target still).2 kept
      have followed :=
        follow_of_keeps
          { run with game := game, stage := ticked, ticks := countUp64 run.ticks }
          kept
      dsimp only
      rw [followed]
      exact (Turn.activeIndex?_settled _).trans stays.activeIndex?

end Step

/-! ## The stage at the start -/

/-- A run starts with the family of its first scene on the stage. -/
theorem start_of_familyInOrder {settings : Settings}
    {installation : Installation} (host : Host) {files : Files}
    {game : GameBank} {saved : Option SceneIndex} {warnings : List Warning}
    {map : SceneMap} {family : LoadedFamily}
    (restored :
      restore files (Path.join installation.cache settings.saveFile) =
        (game, saved, warnings))
    (mapped : Library.sceneMap ⟨files, installation.content⟩ = .ok map)
    (loads :
      LoadContext.familyInOrder
        ⟨Library.answer ⟨files, installation.content⟩, fun _ _ => 0⟩
        ⟨map, settings.language, game⟩
        (startScene settings.startScene saved) = .ok family) :
    ∃ run,
      start settings installation host files = .running run ∧
        run.content = installation.content ∧ run.files = files ∧
        run.game = game ∧
        run.stage.unlogged =
          ((Stage.bare map
            ⟨settings.language, settings.editorMarkers,
              max settings.stepBudget 1⟩ host).replace none
            family).unlogged := by
  let bare :=
    Stage.bare map
      ⟨settings.language, settings.editorMarkers,
        max settings.stepBudget 1⟩ host
  let begun : Stage :=
    { bare with journal := (warnings.map Note.warning).toArray }
  have bareEmpty : bare.Houses none := Stage.houses_bare map _ host
  have empty : begun.Houses none := bareEmpty.of_same rfl rfl rfl
  obtain ⟨loaded, shows⟩ := Stage.unlogged_goto_of_loads empty rfl loads
  have same :
      (begun.replace none family).unlogged =
        (bare.replace none family).unlogged := by
    rw [Stage.unlogged_replace, Stage.unlogged_replace bare]
    rfl
  unfold start source
  dsimp only
  rw [restored, mapped]
  dsimp only
  generalize Stage.goto _ _ _ _ _ = landing at loaded shows ⊢
  obtain ⟨result, stage⟩ := landing
  obtain rfl : result = _ := loaded
  exact ⟨_, rfl, rfl, rfl, rfl, shows.trans same⟩

end Run

end Stagecraft
