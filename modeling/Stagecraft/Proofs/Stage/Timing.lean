import Mathlib.Logic.Relation
import Stagecraft.Proofs.Loading.Faults
import Stagecraft.Proofs.Stage.Frozen

/-!
# Loads whatever the timing

However long the fetches of a load keep it waiting, and however it is polled, it
ends as if its scenes had been fetched one after the other: with the same family
on the stage, or with an error that one of its scenes is to blame for. If nothing
has to wait, the error is the first one, too.
-/

namespace Stagecraft

/-! ## Loads under way -/

/-- Whether a poll can hold up a task and leave another one, whatever the pauses
are that time. -/
def Task.HeldUp {α : Type} (source : Source) (task rest : Task α) : Prop :=
  ∃ pauses, Task.Leaves { source with pauses := pauses } rest task

namespace LoadContext

variable {source : Source} {context : LoadContext} {index : SceneIndex}

/-- What a load that came to an end has to do with loading in order. -/
inductive Concludes (source : Source) (context : LoadContext)
    (index : SceneIndex) : Except LoadError LoadedFamily → Prop where
  | lands {loaded : LoadedFamily}
      (inOrder : context.familyInOrder source index = .ok loaded) :
      Concludes source context index (.ok loaded)
  | fails {first error : LoadError}
      (inOrder : context.familyInOrder source index = .error first)
      (fault : context.FamilyFault source index error) :
      Concludes source context index (.error error)

/-- Whether a task is a load of a family, as far as it has got. -/
structure Tracks (source : Source) (context : LoadContext)
    (index : SceneIndex) (task : Task LoadedFamily) : Prop where
  orderly : task.Orderly
  comes : ∀ loaded, task.run source = .ok loaded ↔
    context.familyInOrder source index = .ok loaded
  fails : task.FailsOnly source (context.FamilyFault source index)

theorem tracks_family
    {kind : SceneKind} (known : context.map.kind? index = some kind) :
    context.Tracks source index (context.family index) where
  orderly := (context.unbegun_family index).orderly
  comes loaded := by rw [run_family]
  fails := failsOnly_family known

/-- A load stays a load when it is polled. -/
theorem Tracks.poll
    {task : Task LoadedFamily} (tracks : context.Tracks source index task)
    (pauses : Nat → Fetch → Nat) (journal : Journal) :
    context.Tracks source index
      (task.poll { source with pauses := pauses } journal).1.rest := by
  have leads := Task.leads_poll tracks.orderly source pauses journal
  exact
    { orderly := leads.orderly tracks.orderly
      comes := fun loaded =>
        (leads.run_eq_ok loaded).trans (tracks.comes loaded)
      fails := leads.failsOnly tracks.fails }

theorem Tracks.of_remains
    {task rest : Task LoadedFamily}
    (tracks : context.Tracks source index task)
    (remains : Relation.ReflTransGen (Task.HeldUp source) task rest) :
    context.Tracks source index rest := by
  induction remains with
  | refl => exact tracks
  | tail _ heldUp inductionHypothesis =>
      obtain ⟨pauses, journal, polled⟩ := heldUp
      have later := inductionHypothesis.poll pauses journal
      rw [polled] at later
      exact later

theorem Tracks.concludes_done
    {loaded : LoadedFamily}
    (tracks : context.Tracks source index (.done loaded)) :
    context.Concludes source index (.ok loaded) :=
  .lands ((tracks.comes loaded).mp rfl)

theorem Tracks.concludes_failed
    {error : LoadError}
    (tracks : context.Tracks source index (.failed error)) :
    context.Concludes source index (.error error) := by
  cases inOrder : context.familyInOrder source index with
  | error first => exact .fails inOrder tracks.fails
  | ok loaded =>
      have comes := (tracks.comes loaded).mpr inOrder
      simp [Task.run] at comes

/-- A load that is run to its end concludes. -/
theorem Tracks.concludes_settle
    {task : Task LoadedFamily} (tracks : context.Tracks source index task)
    (pauses : Nat → Fetch → Nat) (journal : Journal) :
    context.Concludes source index
      (task.settle { source with pauses := pauses } journal).1 := by
  fun_induction Task.settle { source with pauses := pauses } task journal with
  | case1 task journal loaded after polled =>
      have ended := tracks.poll pauses journal
      rw [polled] at ended
      exact ended.concludes_done
  | case2 task journal error after polled =>
      have ended := tracks.poll pauses journal
      rw [polled] at ended
      exact ended.concludes_failed
  | case3 task journal rest after polled inductionHypothesis =>
      have later := tracks.poll pauses journal
      rw [polled] at later
      exact inductionHypothesis later

end LoadContext

namespace Stage

/-! ## What the journal does not decide -/

/-- The stage without its journal. -/
def unlogged (stage : Stage) : Stage := { stage with journal := #[] }

theorem unlogged_call (stage : Stage) (hostCall : HostCall) :
    (stage.call hostCall).unlogged =
      (stage.unlogged.call hostCall).unlogged := rfl

theorem unlogged_resumeMusic (stage : Stage) (track : UInt16) :
    (stage.resumeMusic track).unlogged =
      (stage.unlogged.resumeMusic track).unlogged := by
  have calls (hostCalls : List HostCall) (stage : Stage) :
      (hostCalls.foldl call stage).unlogged =
        (hostCalls.foldl call stage.unlogged).unlogged := by
    induction hostCalls generalizing stage with
    | nil => rfl
    | cons first rest inductionHypothesis =>
        rw [List.foldl_cons, List.foldl_cons, inductionHypothesis,
          unlogged_call, ← inductionHypothesis]
  exact calls (stage.host.musicCalls track) stage

theorem unlogged_present (stage : Stage) (scene : Scene) :
    (stage.present scene).unlogged = stage.unlogged.present scene := by
  have same :
      stage.unlogged.arena.scenery? scene.scenery =
        stage.arena.scenery? scene.scenery := rfl
  simp only [present, same]
  cases stage.arena.scenery? scene.scenery <;> rfl

theorem unlogged_activate (stage : Stage) (id : SceneId) :
    (stage.activate id).unlogged = (stage.unlogged.activate id).unlogged := by
  have same : stage.unlogged.arena.scene? id = stage.arena.scene? id := rfl
  simp only [activate, same]
  cases stage.arena.scene? id with
  | none => rfl
  | some scene =>
      dsimp only
      rw [unlogged_call, unlogged_resumeMusic, unlogged_present]
      rw [unlogged_call (resumeMusic _ _), unlogged_resumeMusic (present _ _)]
      rw [unlogged_present]
      rfl

theorem unlogged_clear (stage : Stage) (previous : Option SceneId) :
    (stage.clear previous).unlogged = stage.unlogged.clear previous := by
  cases previous <;> rfl

theorem unlogged_replace (stage : Stage) (previous : Option SceneId)
    (loaded : LoadedFamily) :
    (stage.replace previous loaded).unlogged =
      (stage.unlogged.replace previous loaded).unlogged := by
  unfold replace
  dsimp only
  rw [unlogged_activate, ← unlogged_clear]
  rfl

/-- What the journal tells does not matter for how a load ends. -/
theorem unlogged_conclude (stage : Stage) (flight : Flight)
    (result : Except LoadError LoadedFamily) :
    (stage.conclude flight result).2.unlogged =
      (stage.unlogged.conclude flight result).2.unlogged := by
  cases result with
  | error error =>
      cases previous : flight.previous <;>
        simp only [conclude, miss, release, previous] <;> rfl
  | ok loaded => exact unlogged_replace { stage with flight := none } _ _

/-! ## Loads and their ends -/

/-- Whether a transition ended as if its scenes had been fetched one after the
other. On the stage, but for its journal, is what is there after a load that came
to the same at once. -/
inductive Lands (source : Source) (context : LoadContext) (flight : Flight)
    (before : Stage) : Except LoadError Outcome × Stage → Prop where
  | loaded {loaded : LoadedFamily} {after : Stage}
      (inOrder :
        context.familyInOrder source flight.target = .ok loaded)
      (shows :
        after.unlogged =
          (before.conclude flight (.ok loaded)).2.unlogged) :
      Lands source context flight before
        (.ok (.loaded flight.target), after)
  | failed {first error : LoadError} {after : Stage}
      (inOrder :
        context.familyInOrder source flight.target = .error first)
      (fault : context.FamilyFault source flight.target error)
      (shows :
        after.unlogged =
          (before.conclude flight (.error error)).2.unlogged) :
      Lands source context flight before (.error error, after)

variable {source : Source} {context : LoadContext}

theorem lands_conclude
    {flight : Flight} {result : Except LoadError LoadedFamily}
    (concludes : context.Concludes source flight.target result)
    (before : Stage) (journal : Journal) :
    before.Lands source context flight
      ({ before with journal := journal }.conclude flight result) := by
  have shows :
      ({ before with journal := journal }.conclude flight result).2.unlogged =
        (before.conclude flight result).2.unlogged :=
    (unlogged_conclude _ _ _).trans (unlogged_conclude before _ _).symm
  cases concludes with
  | lands inOrder => exact .loaded inOrder shows
  | fails inOrder fault => exact .failed inOrder fault shows

/-- How beginning or polling a load goes: it is over as loading in order is, or
it waits with a load of which the polls so far have left that much. -/
inductive LandsOrWaits (source : Source) (context : LoadContext)
    (flight : Flight) (before : Stage) : Transition × Stage → Prop where
  | lands {landing : Except LoadError Outcome × Stage}
      (lands : before.Lands source context flight landing) :
      LandsOrWaits source context flight before (.over landing.1, landing.2)
  | waits {rest : Task LoadedFamily} {journal : Journal}
      (remains :
        Relation.ReflTransGen (Task.HeldUp source) flight.task rest) :
      LandsOrWaits source context flight before
        (.pending,
          { before with
            journal := journal
            flight := some { flight with task := rest } })

theorem landsOrWaits_fly
    {flight : Flight}
    (tracks : context.Tracks source flight.target flight.task)
    {rest : Task LoadedFamily}
    (remains : Relation.ReflTransGen (Task.HeldUp source) flight.task rest)
    (pauses : Nat → Fetch → Nat) (before : Stage) :
    before.LandsOrWaits source context flight
      (before.fly false { source with pauses := pauses }
        { flight with task := rest }).transition := by
  have ended := (tracks.of_remains remains).poll pauses before.journal
  unfold fly
  cases polled :
      rest.poll { source with pauses := pauses } before.journal with
  | mk progress journal =>
      rw [polled] at ended
      -- A flight with less of its task left ends as the whole one does.
      have lands (result : Except LoadError LoadedFamily)
          (concludes : context.Concludes source flight.target result) :
          before.Lands source context flight
            ({ before with journal := journal }.conclude flight result) :=
        lands_conclude concludes before journal
      cases progress with
      | finished loaded => exact .lands (lands _ ended.concludes_done)
      | failed error => exact .lands (lands _ ended.concludes_failed)
      | pending later =>
          have heldUp : rest.HeldUp source later :=
            ⟨pauses, before.journal, by rw [polled]⟩
          exact .waits (remains.tail heldUp)

/-! ## Transitions -/

/-- A transition that has to load sets out for a scene of the map, with a load of
its family. -/
theorem loads_of_away
    {order : Order} {game : GameBank} {stage after : Stage} {flight : Flight}
    (departs : order.depart game stage = .away flight after) :
    (∃ kind, stage.map.kind? flight.target = some kind) ∧
      flight.task =
        LoadContext.family ⟨stage.map, stage.settings.language, game⟩
          flight.target := by
  have departure := order.departs game stage
  rw [departs] at departure
  cases departure with
  | towards aim departure =>
      cases departure with
      | @away idle wanted kind known apart => exact ⟨⟨kind, known⟩, rfl⟩

theorem told_of_conclude (stage : Stage) (flight : Flight)
    (result : Except LoadError LoadedFamily) :
    (stage.conclude flight result).1 =
      result.map fun _ => .loaded flight.target := by
  cases result <;> rfl

/-- A load whose fetches never wait is over after one poll, with what it comes
to. -/
theorem told_of_prompt_fly
    {flight : Flight} (unbegun : flight.task.Unbegun)
    (prompt : ∀ ticket request, source.pauses ticket request = 0)
    (stage : Stage) :
    (stage.fly false source flight).transition.1 =
      .over ((flight.task.run source).map fun _ => .loaded flight.target) := by
  have ended := Task.poll_prompt unbegun prompt stage.journal
  unfold fly
  generalize flight.task.poll source stage.journal = polled at ended ⊢
  obtain ⟨progress, journal⟩ := polled
  obtain rfl : progress = .over (flight.task.run source) := ended
  cases flight.task.run source <;> rfl

/-- Every load ends as loading in order does, whatever its fetches have to wait
for: carried out in one go, and from poll to poll. If no fetch has to wait, it
tells what loading in order tells. -/
theorem loads_end_as_in_order
    {order : Order} {game : GameBank} {stage after : Stage} {flight : Flight}
    (departs : order.depart game stage = .away flight after)
    (source : Source) :
    let context : LoadContext := ⟨stage.map, stage.settings.language, game⟩
    let prompt : Source := { source with pauses := fun _ _ => 0 }
    let told : Except LoadError Outcome :=
      (context.familyInOrder source flight.target).map
        fun _ => .loaded flight.target
    (∀ pauses,
      after.Lands source context flight
        (order.carryOut { source with pauses := pauses } game stage)) ∧
      (∀ pauses,
        after.LandsOrWaits source context flight
          (order.begin { source with pauses := pauses } game stage)) ∧
      (∀ rest pauses (before : Stage),
        Relation.ReflTransGen (Task.HeldUp source) flight.task rest →
          before.flight = some { flight with task := rest } →
            ∃ course,
              before.poll false { source with pauses := pauses } =
                  (some course.1, course.2) ∧
                before.LandsOrWaits source context flight course) ∧
      (order.carryOut prompt game stage).1 = told ∧
        (order.begin prompt game stage).1 = .over told := by
  intro context prompt told
  obtain ⟨⟨kind, known⟩, isFamily⟩ := loads_of_away departs
  have unbegun : flight.task.Unbegun :=
    isFamily ▸ context.unbegun_family flight.target
  have tracks : context.Tracks source flight.target flight.task :=
    isFamily ▸ LoadContext.tracks_family known
  have inOrder :
      (flight.task.run prompt).map (fun _ => .loaded flight.target) = told := by
    rw [isFamily, LoadContext.run_family, LoadContext.familyInOrder_pauses]
  refine ⟨fun pauses => ?inOneGo, fun pauses => ?begun,
    fun rest pauses before remains underWay => ?polled, ?told, ?toldAtOnce⟩
  case inOneGo =>
    rw [Order.carryOut_eq, departs]
    exact lands_conclude (tracks.concludes_settle pauses after.journal) after _
  case begun =>
    rw [Order.begin_eq, departs]
    exact landsOrWaits_fly tracks .refl pauses after
  case polled =>
    refine ⟨_, ?_, landsOrWaits_fly tracks remains pauses before⟩
    rw [poll, underWay]
  case told =>
    rw [Order.carryOut_eq, departs]
    dsimp only
    rw [told_of_conclude, Task.settle_prompt unbegun fun _ _ => rfl, inOrder]
  case toldAtOnce =>
    rw [Order.begin_eq, departs]
    dsimp only
    rw [told_of_prompt_fly unbegun fun _ _ => rfl, inOrder]

/-- Two scenes on one island with an actor each are loaded, however long any fetch
takes. -/
theorem loads_end_as_in_order_pair :
    ∃ flight after,
      (Order.goto 0 false).depart ⟨#[], []⟩
          (bare Theatre.pairMap ⟨"", false, 0⟩ Host.quiet) =
        .away flight after ∧
      (∀ pauses,
        after.Lands Theatre.peopledSource ⟨Theatre.pairMap, "", ⟨#[], []⟩⟩ flight
          ((Order.goto 0 false).carryOut
            { Theatre.peopledSource with pauses := pauses } ⟨#[], []⟩
            (bare Theatre.pairMap ⟨"", false, 0⟩ Host.quiet))) ∧
      ((Order.goto 0 false).carryOut
          { Theatre.peopledSource with pauses := fun _ _ => 0 } ⟨#[], []⟩
          (bare Theatre.pairMap ⟨"", false, 0⟩ Host.quiet)).1 =
        .ok (.loaded 0) := by
  have departs :
      (Order.goto 0 false).depart ⟨#[], []⟩
          (bare Theatre.pairMap ⟨"", false, 0⟩ Host.quiet) =
        .away _ _ := rfl
  obtain ⟨lands, _, _, told, _⟩ :=
    loads_end_as_in_order departs Theatre.peopledSource
  exact ⟨_, _, departs, lands, told⟩

end Stage

end Stagecraft
