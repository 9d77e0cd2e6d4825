import Stagecraft.Proofs.Loop.Requests
import Stagecraft.Proofs.SceneMap.Neighbours
import Stagecraft.Proofs.Stage.Mirror

/-!
# Walks round the map

On an idle stage a step to a neighbour of the active scene always arrives, and
the step in the other direction leads back. Which way the stage takes depends on
where the neighbour lies: to a side scene it swaps, to any other scene it loads,
and where a map has only one scene there is nothing to do.
-/

namespace Stagecraft

/-- The way from the active scene to another one: side scenes swap, and all others
are loaded. -/
def SceneMap.way (map : SceneMap) (index target : SceneIndex) :
    Stagecraft.Outcome :=
  if index = target then .ignored
  else if target ∈ map.sideScenes index then .swapped target
  else .loaded target

namespace Stage

/-- Whether a source has everything that the scenes of the map need in a
session. -/
def LoadsAll (stage : Stage) (game : GameBank) (source : Source) : Prop :=
  ∀ index : SceneIndex, index.toNat < stage.map.size →
    ∃ family,
      LoadContext.familyInOrder source
        ⟨stage.map, stage.settings.language, game⟩ index = .ok family

section Steps

variable {stage : Stage} {index target : SceneIndex} {source : Source}
  {game : GameBank}

/-- Where everything loads, a transition to a scene of the map arrives. -/
theorem goto_arrives (shows : stage.Shows index)
    (inside : target.toNat < stage.map.size)
    (complete : stage.LoadsAll game source) :
    let went := stage.goto source game target false
    went.1 = .ok (stage.map.way index target) ∧ went.2.Shows target := by
  obtain ⟨family, loads⟩ := complete target inside
  have stands := shows.activeIndex?
  have sides := sideTarget?_isSome_iff shows target
  have lands := shows_goto source game target shows
  have goes := goes_goto shows.idle source game target
  unfold SceneMap.way
  generalize stage.goto source game target false = went at goes lands ⊢
  cases goes with
  | ignored already =>
      obtain rfl : index = target :=
        Option.some.inj (stands.symm.trans already)
      exact ⟨by rw [if_pos rfl], shows⟩
  | unknown missing =>
      obtain ⟨kind, known⟩ := LoadContext.kind?_of_familyInOrder loads
      rw [missing] at known
      cases known
  | @swapped elsewhere kind known outgoing incoming side =>
      have isSide : target ∈ stage.map.sideScenes index := by
        rw [← sides, side]
        rfl
      have apart : index ≠ target := fun same => elsewhere (same ▸ stands)
      exact ⟨by rw [if_neg apart, if_pos isSide], (lands.1 rfl).1⟩
  | @loads elsewhere kind known away landing arrives =>
      have noSide : target ∉ stage.map.sideScenes index := by
        rw [← sides, away]
        exact Bool.false_ne_true
      have apart : index ≠ target := fun same => elsewhere (same ▸ stands)
      cases arrives with
      | loaded inOrder after =>
          exact ⟨by rw [if_neg apart, if_neg noSide], (lands.1 rfl).1⟩
      | failed inOrder fault after =>
          rw [inOrder] at loads
          cases loads

end Steps

/-- An active scene of an idle stage in order is shown, and it is on the map. -/
theorem Sound.shows {map : SceneMap} {cast? : Option Cast} {stage : Stage}
    {index : SceneIndex} (sound : stage.Sound map cast?)
    (idle : stage.flight = none) (stands : stage.activeIndex? = some index) :
    stage.Shows index ∧ index.toNat < map.size := by
  have houses := sound.houses
  cases houses with
  | nothing inactive empty =>
      rw [activeIndex?_of_nothing (.nothing inactive empty)] at stands
      cases stands
  | @family cast leads fills asleep =>
      obtain ⟨main, found, included⟩ := fills.mainScene
      obtain rfl : main.index = index :=
        Option.some.inj ((activeIndex?_eq leads found).symm.trans stands)
      have known := included.kind
      rw [sound.map] at known
      refine ⟨⟨idle, cast, sound.houses, included.listed⟩, ?_⟩
      rw [← map.isSome_kind?_iff, known]
      rfl

end Stage

/-! ## There and back -/

theorem Order.carryOut_of_target? {order : Order} {stage : Stage}
    {target : SceneIndex} {force : Bool}
    (leads : order.target? stage = some (target, force)) (source : Source)
    (game : GameBank) :
    order.carryOut source game stage = stage.goto source game target force := by
  rw [carryOut_eq, depart, leads]
  rfl

theorem Order.target?_next {stage : Stage} {index : SceneIndex}
    (stands : stage.activeIndex? = some index) :
    Order.next.target? stage = some (stage.map.next index, false) := by
  rw [target?, Stage.neighbour?, stands, Option.map_some, Option.map_some]

theorem Order.target?_previous {stage : Stage} {index : SceneIndex}
    (stands : stage.activeIndex? = some index) :
    Order.previous.target? stage = some (stage.map.previous index, false) := by
  rw [target?, Stage.neighbour?, stands, Option.map_some, Option.map_some]

theorem Order.carryOut_of_aimless {order : Order} {stage : Stage}
    (aimless : order.target? stage = none) (source : Source)
    (game : GameBank) :
    order.carryOut source game stage = (.ok .ignored, stage) := by
  rw [carryOut_eq, depart, aimless]

namespace Theatre

/-- Whether an order leads from one scene to another and a second order leads back,
each on the way that the map tells. -/
structure GoesAndReturns (theatre : Theatre) (index target : SceneIndex)
    (there back : Act) : Prop where
  leaves : (theatre.perform there).1 =
    .settled (.ok (theatre.stage.map.way index target))
  arrives : (theatre.perform there).2.stage.activeIndex? = some target
  returns : ((theatre.perform there).2.perform back).1 =
    .settled (.ok (theatre.stage.map.way target index))
  stands :
    ((theatre.perform there).2.perform back).2.stage.activeIndex? = some index

section Walks

variable {map : SceneMap} {cast? : Option Cast} {theatre : Theatre}
  {index target : SceneIndex} {there back : Source} {order reverse : Order}

/-- Where everything loads, an order that leads to a scene of the map is carried
out. -/
theorem arrives_go (shows : theatre.stage.Shows index)
    (inside : target.toNat < theatre.stage.map.size)
    (complete : theatre.stage.LoadsAll theatre.game there)
    (leads : order.target? theatre.stage = some (target, false)) :
    let went := theatre.perform (.go there order)
    went.1 = .settled (.ok (theatre.stage.map.way index target)) ∧
      went.2.stage.Shows target := by
  have completeNow :
      theatre.stage.LoadsAll theatre.game (theatre.sourceNow there) := by
    intro other inside
    obtain ⟨family, loads⟩ := complete other inside
    exact ⟨family, (LoadContext.familyInOrder_pauses ..).trans loads⟩
  obtain ⟨told, landed⟩ := Stage.goto_arrives shows inside completeNow
  simp only [perform, Order.carryOut_of_target? leads]
  exact ⟨congrArg Answer.settled told, landed⟩

theorem goesAndReturns (sound : theatre.stage.Sound map cast?)
    (idle : theatre.stage.flight = none)
    (stands : theatre.stage.activeIndex? = some index)
    (inside : target.toNat < map.size)
    (complete : theatre.stage.LoadsAll theatre.game there)
    (completeToo : theatre.stage.LoadsAll theatre.game back)
    (leads : order.target? theatre.stage = some (target, false))
    (leadsBack : ∀ stage : Stage, stage.map = map →
      stage.activeIndex? = some target →
        reverse.target? stage = some (index, false)) :
    theatre.GoesAndReturns index target (.go there order)
      (.go back reverse) := by
  obtain ⟨shows, insideToo⟩ := sound.shows idle stands
  obtain ⟨after?, soundNow, -⟩ := sound_perform sound (.go there order)
  have sameSettings := settings_perform theatre (.go there order)
  have sameMap := soundNow.map.trans sound.map.symm
  have completeNow :
      (theatre.perform (.go there order)).2.stage.LoadsAll theatre.game
        back := by
    unfold Stage.LoadsAll
    rw [sameMap, sameSettings]
    exact completeToo
  rw [← sound.map] at inside insideToo
  obtain ⟨leaves, arrives⟩ := arrives_go shows inside complete leads
  obtain ⟨returns, shown⟩ :=
    arrives_go arrives (sameMap ▸ insideToo) completeNow
      (leadsBack _ soundNow.map arrives.activeIndex?)
  exact ⟨leaves, arrives.activeIndex?, sameMap ▸ returns, shown.activeIndex?⟩

end Walks

/-- On a map, a step to the next scene and one to the previous scene undo each
other, and as many steps as there are scenes pass every scene once and lead back.
So it is on every idle stage whose active scene a theatre can reach: if all scenes
of the map load, a step to either side makes the neighbour the active scene and the
opposite step leads back, by a swap or a load as the map tells or, on a map of one
scene, by nothing at all. Without an active scene neither step does anything. -/
theorem walks_go_round (map : SceneMap) (small : map.size < UInt32.size) :
    (∀ index : SceneIndex, index.toNat < map.size →
      (map.next index).toNat < map.size ∧
        (map.previous index).toNat < map.size ∧
        map.previous (map.next index) = index ∧
        map.next (map.previous index) = index ∧
        (map.next index = index ↔ map.size = 1) ∧
        map.next^[map.size] index = index ∧
        ∀ other : SceneIndex, other.toNat < map.size →
          ∃! steps, (0 < steps ∧ steps ≤ map.size) ∧
            map.next^[steps] index = other) ∧
      ∀ settings host game acts,
        let theatre := (opening map settings host game).run acts
        theatre.stage.isLoading = false →
          (theatre.stage.activeIndex? = none → ∀ source,
            theatre.perform (.go source .next) =
                (.settled (.ok .ignored), theatre) ∧
              theatre.perform (.go source .previous) =
                (.settled (.ok .ignored), theatre)) ∧
          ∀ index, theatre.stage.activeIndex? = some index →
            ∀ there back : Source,
              theatre.stage.LoadsAll theatre.game there →
                theatre.stage.LoadsAll theatre.game back →
                theatre.GoesAndReturns index (map.next index)
                    (.go there .next) (.go back .previous) ∧
                  theatre.GoesAndReturns index (map.previous index)
                    (.go there .previous) (.go back .next) := by
  refine ⟨fun index inside => ?_, fun settings host game acts => ?_⟩
  · exact ⟨SceneMap.next_lt small inside, SceneMap.previous_lt small inside,
      SceneMap.previous_next small inside, SceneMap.next_previous small inside,
      SceneMap.next_eq_self_iff small inside,
      SceneMap.iterate_next_size small inside,
      fun other => SceneMap.existsUnique_iterate_next small inside⟩
  intro theatre idle
  obtain ⟨cast?, sound⟩ := sound_reachable map settings host game acts
  have sound : theatre.stage.Sound map cast? := sound
  have noFlight : theatre.stage.flight = none :=
    (Stage.isLoading_eq_false_iff theatre.stage).mp idle
  refine ⟨fun nobody source => ?_, fun index stands there back => ?_⟩
  · have aimless (step : SceneMap → SceneIndex → SceneIndex) :
        theatre.stage.neighbour? step = none := by
      rw [Stage.neighbour?, nobody, Option.map_none]
    simp only [perform]
    constructor
    · rw [Order.carryOut_of_aimless (by rw [Order.target?, aimless]; rfl)]
    · rw [Order.carryOut_of_aimless (by rw [Order.target?, aimless]; rfl)]
  · intro complete completeToo
    obtain ⟨-, inside⟩ := sound.shows noFlight stands
    refine ⟨?next, ?previous⟩
    case next =>
      refine goesAndReturns sound noFlight stands
        (SceneMap.next_lt small inside) complete completeToo ?_ ?_
      · rw [Order.target?_next stands, sound.map]
      · intro stage sameMap arrived
        rw [Order.target?_previous arrived, sameMap,
          SceneMap.previous_next small inside]
    case previous =>
      refine goesAndReturns sound noFlight stands
        (SceneMap.previous_lt small inside) complete completeToo ?_ ?_
      · rw [Order.target?_previous stands, sound.map]
      · intro stage sameMap arrived
        rw [Order.target?_next arrived, sameMap,
          SceneMap.next_previous small inside]

theorem loadsAll_pair : pair.stage.LoadsAll pair.game bareSource := by
  intro index inside
  have two : index = 0 ∨ index = 1 := by
    have short : index.toNat < 2 := inside
    rw [← UInt32.toNat_inj, ← UInt32.toNat_inj]
    simp only [UInt32.toNat_zero, UInt32.toNat_one]
    omega
  rcases two with rfl | rfl <;> exact ⟨_, rfl⟩

/-- The pair goes on to its second scene and back to the first one. -/
theorem walks_go_round_pair :
    pairMap.size < UInt32.size ∧ pair.stage.isLoading = false ∧
      pair.stage.activeIndex? = some 0 ∧
      pair.stage.LoadsAll pair.game bareSource ∧
      pair.GoesAndReturns 0 1 (.go bareSource .next)
        (.go bareSource .previous) := by
  have small : pairMap.size < UInt32.size := by decide
  have idle : pair.stage.isLoading = false := by decide
  have stands : pair.stage.activeIndex? = some 0 := by decide
  obtain ⟨-, walks⟩ := walks_go_round pairMap small
  obtain ⟨-, goes⟩ :=
    walks ⟨"", false, 0⟩ Host.quiet ⟨#[], []⟩
      [.begin bareSource (.goto 0 false)] idle
  obtain ⟨next, -⟩ :=
    goes 0 stands bareSource bareSource loadsAll_pair loadsAll_pair
  exact ⟨small, idle, stands, loadsAll_pair, next⟩

end Theatre

end Stagecraft
