import Stagecraft.Proofs.Script.Changes
import Stagecraft.Proofs.Stage.Reachable

/-!
# Handing over

What an act does to the scenes of a family: at most the active scene changes, or it
hands over to another member of the family, or another family arrives, or all is
gone. In a handover the protagonist of one scene falls asleep, that of the other
wakes, and every scene gets its link in the family that the other leads.
-/

namespace Stagecraft

namespace Scene

/-- The scene after it was left: not active, its protagonist asleep. -/
def left (scene : Scene) : Scene :=
  { scene with
    actors := scene.actors.modifyHead Actor.killed
    active := false }

/-- The scene after it was entered: active, its protagonist awake. -/
def entered (scene : Scene) : Scene :=
  { scene with
    actors := scene.actors.modifyHead Actor.woken
    active := true }

/-- What becomes of a scene in a handover, its link apart. -/
def handedOver (outgoing incoming id : SceneId) (scene : Scene) : Scene :=
  if id = incoming then scene.entered
  else if id = outgoing then scene.left
  else scene

theorem actors_changeProtagonist (scene : Scene) (nodes : NodeTree)
    {change : Actor → NodeTree → Actor × NodeTree} {made : Actor → Actor}
    (makes : ∀ actor tree, (change actor tree).1 = made actor) :
    (scene.changeProtagonist change nodes).1 =
      { scene with actors := scene.actors.modifyHead made } := by
  unfold changeProtagonist
  split
  · next none_ =>
      rw [none_, List.modifyHead_nil, ← none_]
  · next first others some_ =>
      rw [some_, List.modifyHead_cons]
      simp only [makes]

end Scene

namespace Stage

/-! ## A handover scene by scene -/

theorem scene?_leave (stage : Stage) (left id : SceneId) :
    (stage.leave left).arena.scene? id =
      if id = left then (stage.arena.scene? id).map Scene.left
      else stage.arena.scene? id := by
  unfold leave
  simp only [setActivity, changeScene_arena, Arena.scene?_modifyScene,
    Scene.actors_changeProtagonist _ _ Actor.kill_actor]
  split
  · rw [Option.map_map]
    rfl
  · rfl

theorem scene?_enter (stage : Stage) (entered id : SceneId) :
    (stage.enter entered).arena.scene? id =
      if id = entered then (stage.arena.scene? id).map Scene.entered
      else stage.arena.scene? id := by
  unfold enter
  simp only [setActivity, changeScene_arena, Arena.scene?_modifyScene,
    Scene.actors_changeProtagonist _ _ Actor.revive_actor]
  split
  · rw [Option.map_map]
    rfl
  · rfl

theorem scene?_swap
    {stage : Stage} {cast : Cast} (fills : cast.Fills stage.map stage.arena)
    {index : SceneIndex} {incoming : SceneId}
    (listed : (index, incoming) ∈ cast.roster)
    (apart : incoming ≠ cast.main) (id : SceneId) :
    (stage.swap cast.main incoming).arena.scene? id =
      (stage.arena.scene? id).map fun scene =>
        (scene.handedOver cast.main incoming id).withLink
          ((cast.ledBy incoming).link scene.kind id) := by
  have promoted :=
    (fills_leave fills cast.main).scene?_promote listed apart id
  have same :=
    sameScenes_resumeActiveMusic
      (((stage.leave cast.main).promote cast.main incoming).enter incoming)
  unfold swap
  rw [same.arena, scene?_enter, promote, promoted, scene?_leave]
  unfold Scene.handedOver
  -- A link is not touched by waking or sleeping, so that the steps commute.
  by_cases enters : id = incoming
  · subst enters
    simp only [if_true, if_neg apart, Option.map_map]
    rfl
  · by_cases leaves : id = cast.main
    · simp only [if_neg enters, if_pos leaves, Option.map_map]
      rfl
    · simp only [if_neg enters, if_neg leaves]

/-! ## Changes of the active scene alone -/

/-- Whether the same scene is active in two stages and no other scene differs. -/
structure Spares (before after : Stage) : Prop where
  active : after.active = before.active
  others : ∀ id, before.active ≠ some id →
    after.arena.scene? id = before.arena.scene? id

theorem Spares.refl (stage : Stage) : Spares stage stage :=
  ⟨rfl, fun _ _ => rfl⟩

theorem Spares.trans
    {first second third : Stage} (spares : Spares first second)
    (sparesAgain : Spares second third) :
    Spares first third :=
  ⟨sparesAgain.active.trans spares.active, fun id apart =>
    (sparesAgain.others id (spares.active.symm ▸ apart)).trans
      (spares.others id apart)⟩

section Spared

variable {stage after : Stage} {flight : Flight}

theorem SameScenes.spares (same : stage.SameScenes after) :
    stage.Spares after :=
  ⟨same.active, fun id _ => by rw [same.arena]⟩

theorem spares_modifyScene
    {changed : SceneId} (isActive : stage.active = some changed)
    {change : Scene → Scene}
    (arena : after.arena = stage.arena.modifyScene changed change)
    (active : after.active = stage.active) :
    stage.Spares after := by
  refine ⟨active, fun id apart => ?_⟩
  have other : id ≠ changed := fun same => apart (same ▸ isActive)
  rw [arena, Arena.scene?_modifyScene, if_neg other]

theorem spares_setActivity (stage : Stage) (active : Bool) :
    stage.Spares (stage.setActivity stage.active active) := by
  cases isActive : stage.active with
  | none => exact .refl stage
  | some id => exact spares_modifyScene isActive rfl rfl

theorem spares_release (suits : flight.Suits stage) (held : Bool) :
    stage.Spares (stage.release held flight) := by
  have landed : stage.Spares { stage with flight := none } :=
    ⟨rfl, fun _ _ => rfl⟩
  unfold release
  cases held with
  | true =>
      simp only [if_true]
      cases flight.previous with
      | none => exact landed
      | some id => exact landed.trans (sameScenes_note _ _).spares
  | false =>
      simp only [Bool.false_eq_true, if_false, suits.previous]
      exact landed.trans (spares_setActivity _ true)

theorem spares_tick (stage : Stage) (game : GameBank) :
    stage.Spares (stage.tick game).2.2 := by
  have ticks := stage.ticks game
  generalize (stage.tick game).2.2 = after at ticks
  cases ticks with
  | idles => exact .refl stage
  | plays active found => exact spares_modifyScene active rfl rfl

theorem spares_reset (stage : Stage) : stage.Spares stage.reset.2 := by
  have resets := stage.resets
  generalize stage.reset.2 = after at resets
  cases resets with
  | idles => exact .refl stage
  | @restores id _ active same =>
      have restored : stage.Spares (stage.changeScene id resetScene) :=
        spares_modifyScene active (changeScene_arena _ _ _)
          (changeScene_active _ _ _)
      exact restored.trans same.spares

end Spared

/-! ## All that can happen to a family -/

/-- Whether a transition was a swap. -/
def swapped : Except LoadError Outcome → Bool
  | .ok (.swapped _) => true
  | _ => false

def Course.swapped : Course → Bool
  | .done result _ => Stage.swapped result
  | .away _ _ => false
  | .panicked _ => false

/-- What becomes of a stage that houses a company: whether its family is kept
together, and whether scenes of it were swapped. -/
inductive Evolves (cast? : Option Cast) (before : Stage) :
    Bool → Bool → Stage → Prop where
  | stays {after : Stage}
      (spares : before.Spares after) :
      Evolves cast? before true false after
  | handsOver {cast : Cast} {index : SceneIndex} {incoming : SceneId}
      (company : cast? = some cast)
      (listed : (index, incoming) ∈ cast.roster)
      (apart : incoming ≠ cast.main)
      {after : Stage} (swapped : after = before.swap cast.main incoming) :
      Evolves cast? before true true after
  | arrives {landing : Stage} {earlier? : Option Cast}
      (houses : landing.Houses earlier?)
      {target : SceneIndex} {loaded : LoadedFamily}
      (fits : loaded.Fits landing.map target)
      {after : Stage}
      (replaced : after = landing.replace landing.active loaded) :
      Evolves cast? before false false after
  | empties {after : Stage} (empty : after.arena.IsEmpty) :
      Evolves cast? before false false after

section Evolution

variable {cast? : Option Cast} {stage : Stage}

theorem Evolves.spares
    {after : Stage} (evolves : stage.Evolves cast? true false after) :
    stage.Spares after := by
  cases evolves with
  | stays spares => exact spares

/-- What happens to a stage without a swap may begin with changes of the active
scene. -/
theorem Evolves.of_spares
    {changed after : Stage} {changed? : Option Cast} {keeps : Bool}
    (spares : stage.Spares changed)
    (evolves : changed.Evolves changed? keeps false after) :
    stage.Evolves cast? keeps false after := by
  cases evolves with
  | stays sparesAgain => exact .stays (spares.trans sparesAgain)
  | arrives houses fits replaced => exact .arrives houses fits replaced
  | empties empty => exact .empties empty

theorem evolves_lands
    (houses : stage.Houses cast?) {flight : Flight}
    (suits : flight.Suits stage) (journal : Journal) {loaded : LoadedFamily}
    (fits : loaded.Fits stage.map flight.target) :
    stage.Evolves cast? false false
      ({ stage with journal := journal, flight := none }.replace
        flight.previous loaded) := by
  have landed :
      Houses { stage with journal := journal, flight := none } cast? :=
    houses.of_same rfl rfl rfl
  rw [suits.previous]
  exact .arrives landed fits rfl

theorem evolves_departs
    (houses : stage.Houses cast?) {game : GameBank} {target : SceneIndex}
    {force : Bool} {departure : Departure}
    (departs : stage.Departs game target force departure) :
    stage.Evolves cast? (!departure.course.landed) departure.course.swapped
      departure.stage := by
  cases departs with
  | ignored busy => exact .stays (.refl stage)
  | unknown idle wanted missing => exact .stays (.refl stage)
  | @swapped idle wanted kind known outgoing incoming side =>
      obtain ⟨cast, rfl, rfl, listed, apart⟩ := houses.member_of_sideTarget side
      have evolved :
          stage.Evolves (some cast) true true
            (stage.swap cast.main incoming) :=
        .handsOver rfl listed apart rfl
      simp only [Departure.stage]
      generalize stage.swap cast.main incoming = after at *
      exact evolved
  | away idle wanted known apart =>
      have spares := spares_setActivity stage false
      simp only [Departure.stage]
      generalize stage.setActivity stage.active false = after at *
      exact .stays spares

/-- A load never ends with a swap. -/
theorem Fares.evolves {held : Bool} {flight : Flight}
    {arrival : Option LoadedFamily} {course : Course}
    (fares : stage.Fares held flight arrival course)
    (houses : stage.Houses cast?) (suits : flight.Suits stage) :
    course.swapped = false ∧
      stage.Evolves cast? (!course.landed) false course.stage := by
  cases fares with
  | waits still => exact ⟨rfl, .stays ⟨rfl, fun _ _ => rfl⟩⟩
  | lands returned =>
      exact ⟨rfl, evolves_lands houses suits _ (returned suits.returns)⟩
  | @fails error journal | @panics journal =>
      have noted : stage.Spares { stage with journal := journal } :=
        ⟨rfl, fun _ _ => rfl⟩
      refine ⟨rfl, .stays (noted.trans (spares_release ?_ held))⟩
      exact ⟨suits.previous, suits.returns⟩

theorem evolves_unload (houses : stage.Houses cast?) :
    stage.Evolves cast? (!stage.unload.1) false stage.unload.2 := by
  rcases houses_unload houses with ⟨done, empty⟩ | ⟨refused, same⟩
  · rw [done]
    cases empty with
    | nothing inactive empty => exact .empties empty
  · rw [refused, same]
    exact .stays (.refl stage)

end Evolution

end Stage

/-! ## Acts -/

theorem Order.evolves_depart
    {cast? : Option Cast} {stage : Stage} (houses : stage.Houses cast?)
    (order : Order) (game : GameBank) :
    let departure := order.depart game stage
    stage.Evolves cast? (!departure.course.landed) departure.course.swapped
      departure.stage := by
  have departs := order.departs game stage
  dsimp only
  generalize order.depart game stage = departure at departs
  cases departs with
  | nowhere aimless => exact .stays (.refl stage)
  | towards aim departs => exact Stage.evolves_departs houses departs

def Answer.isSwap : Answer → Bool
  | .settled result => Stage.swapped result
  | .begun (.over result) => Stage.swapped result
  | .polled (some (.over result)) => Stage.swapped result
  | _ => false

theorem Answer.Tells.isSwap {course : Stage.Course} {answer : Answer}
    (tells : Answer.Tells course answer) :
    answer.isSwap = course.swapped := by
  cases tells with
  | settled result stage => rfl
  | begun => cases course <;> rfl
  | polled => cases course <;> rfl

namespace Theatre

variable {map : SceneMap} {cast? : Option Cast} {theatre : Theatre}

theorem Performs.evolves {act : Act} {answer : Answer}
    {arrival : Option LoadedFamily} {after : Stage}
    (performs : theatre.Performs act answer arrival after)
    (sound : theatre.stage.Sound map cast?) :
    theatre.stage.Evolves cast? answer.keepsFamily answer.isSwap after := by
  cases performs with
  | @atOnce _ _ order _ _ left tells =>
      have departed := order.evolves_depart sound.houses theatre.game
      rw [left] at departed
      rw [tells.keepsFamily, tells.isSwap]
      exact departed
  | @leaves _ _ order flight _ _ _ left fares tells =>
      have departed := order.evolves_depart sound.houses theatre.game
      obtain ⟨left?, soundNow, _, suits⟩ :=
        order.sound_depart sound theatre.game
      rw [left] at departed soundNow suits
      obtain ⟨noSwap, evolves⟩ :=
        fares.evolves soundNow.houses (suits flight rfl)
      rw [tells.keepsFamily, tells.isSwap, noSwap]
      exact .of_spares departed.spares evolves
  | @goesOn _ _ _ _ course under fares =>
      obtain ⟨noSwap, evolves⟩ :=
        fares.evolves sound.houses (sound.suits _ under)
      have tells := Answer.Tells.polled course
      rw [tells.keepsFamily, tells.isSwap, noSwap]
      exact evolves
  | @releases held _ under =>
      exact .stays (Stage.spares_release (sound.suits _ under) held)
  | ticks => exact .stays (theatre.stage.spares_tick theatre.game)
  | resets => exact .stays theatre.stage.spares_reset
  | unloads => exact Stage.evolves_unload sound.houses
  | @asks order =>
      have asks := order.asks theatre.stage
      generalize order.ask theatre.stage = transition at asks
      cases asks <;> exact .stays (.refl theatre.stage)
  | unpolled | unreleased | changes => exact .stays (.refl theatre.stage)

/-- All that an act can do to a family, as its answer tells. -/
theorem evolves_perform (sound : theatre.stage.Sound map cast?) (act : Act) :
    theatre.stage.Evolves cast? (theatre.perform act).1.keepsFamily
      (theatre.perform act).1.isSwap (theatre.perform act).2.stage :=
  (theatre.performs act).evolves sound

end Theatre

end Stagecraft
