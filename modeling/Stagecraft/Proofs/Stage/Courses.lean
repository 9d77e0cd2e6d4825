import Stagecraft.Proofs.Loading.Returns
import Stagecraft.Proofs.Stage.Frame

/-!
# Courses

Everything that setting out and loading can do, case by case, whether a load is
polled or run to its end. Later arguments about transitions go through these cases
and never open the operations again.
-/

namespace Stagecraft

namespace Stage

/-! ## Setting out -/

/-- How setting out for a scene goes. -/
inductive Departs (stage : Stage) (game : GameBank) (target : SceneIndex)
    (force : Bool) : Departure → Prop where
  | ignored
      (busy : stage.isLoading = true ∨
        force = false ∧ stage.activeIndex? = some target) :
      Departs stage game target force (.done (.ok .ignored) stage)
  | unknown
      (idle : stage.flight = none)
      (wanted : force = true ∨ stage.activeIndex? ≠ some target)
      (missing : stage.map.kind? target = none) :
      Departs stage game target force
        (.done (.error (.unknownScene target)) stage)
  | swapped
      (idle : stage.flight = none)
      (wanted : force = true ∨ stage.activeIndex? ≠ some target)
      {kind : SceneKind} (known : stage.map.kind? target = some kind)
      {outgoing incoming : SceneId}
      (side : stage.sideTarget? target = some (outgoing, incoming)) :
      Departs stage game target force
        (.done (.ok (.swapped target)) (stage.swap outgoing incoming))
  | away
      (idle : stage.flight = none)
      (wanted : force = true ∨ stage.activeIndex? ≠ some target)
      {kind : SceneKind} (known : stage.map.kind? target = some kind)
      (apart : stage.sideTarget? target = none) :
      Departs stage game target force
        (.away ⟨target, stage.active, stage.loadOf game target⟩
          (stage.setActivity stage.active false))

theorem isLoading_eq_false_iff (stage : Stage) :
    stage.isLoading = false ↔ stage.flight = none := by
  simp [isLoading]

theorem verdict?_of_isLoading
    {stage : Stage} (loading : stage.isLoading = true) (target : SceneIndex)
    (force : Bool) : stage.verdict? target force = some (.ok .ignored) := by
  simp [verdict?, loading]

theorem depart_of_isLoading
    {stage : Stage} (loading : stage.isLoading = true) (game : GameBank)
    (target : SceneIndex) (force : Bool) :
    stage.depart game target force = .done (.ok .ignored) stage := by
  unfold depart
  rw [verdict?_of_isLoading loading]

theorem departs (stage : Stage) (game : GameBank) (target : SceneIndex)
    (force : Bool) :
    stage.Departs game target force (stage.depart game target force) := by
  unfold depart verdict?
  by_cases busy :
      stage.isLoading = true ∨
        force = false ∧ stage.activeIndex? = some target
  · have ignores :
        (stage.isLoading || (!force && stage.activeIndex? == some target)) =
          true := by
      simpa using busy
    rw [if_pos ignores]
    exact .ignored busy
  · have open_ :
        ¬ (stage.isLoading || (!force && stage.activeIndex? == some target)) =
          true := by
      simpa using busy
    have idle : stage.flight = none := by
      rw [← isLoading_eq_false_iff]
      exact Bool.eq_false_iff.mpr fun loading => busy (.inl loading)
    have wanted : force = true ∨ stage.activeIndex? ≠ some target := by
      cases force with
      | true => exact .inl rfl
      | false => exact .inr fun current => busy (.inr ⟨rfl, current⟩)
    rw [if_neg open_]
    cases known : stage.map.kind? target with
    | none => exact .unknown idle wanted known
    | some kind =>
        simp only [Option.isNone_some, Bool.false_eq_true, if_false]
        cases side : stage.sideTarget? target with
        | none => exact .away idle wanted known side
        | some pair => exact .swapped idle wanted known side

/-! ## Polling -/

/-- How polling a load goes. -/
inductive Flies (stage : Stage) (held : Bool) (source : Source)
    (flight : Flight) : Course → Prop where
  | waits {rest : Task LoadedFamily} {journal : Journal}
      (polled : flight.task.poll source stage.journal =
        (.pending rest, journal)) :
      Flies stage held source flight
        (.away { flight with task := rest }
          { stage with
            journal := journal
            flight := some { flight with task := rest } })
  | lands {loaded : LoadedFamily} {journal : Journal}
      (free : held = false)
      (polled : flight.task.poll source stage.journal =
        (.finished loaded, journal)) :
      Flies stage held source flight
        (.done (.ok (.loaded flight.target))
          ({ stage with journal := journal, flight := none }.replace
            flight.previous loaded))
  | fails {error : LoadError} {journal : Journal}
      (polled : flight.task.poll source stage.journal =
        (.failed error, journal)) :
      Flies stage held source flight
        (.done (.error error)
          ({ stage with journal := journal }.miss held flight error))
  | panics {loaded : LoadedFamily} {journal : Journal}
      (grip : held = true)
      (polled : flight.task.poll source stage.journal =
        (.finished loaded, journal)) :
      Flies stage held source flight
        (.panicked ({ stage with journal := journal }.release held flight))

theorem flies (stage : Stage) (held : Bool) (source : Source)
    (flight : Flight) :
    stage.Flies held source flight (stage.fly held source flight) := by
  unfold fly
  cases polled : flight.task.poll source stage.journal with
  | mk progress journal =>
      cases progress with
      | pending rest => exact .waits polled
      | failed error => exact .fails polled
      | finished loaded =>
          cases held with
          | false => exact .lands rfl polled
          | true => exact .panics rfl polled

/-! ## Loads, polled once or run to their end -/

/-- How a load fares: the family that it comes to, if it does, and the course that it
leaves. Whatever its task was bound to return is true of that family, or still to be
returned by what remains. A load that comes to nothing is let go of. -/
inductive Fares (stage : Stage) (held : Bool) (flight : Flight) :
    Option LoadedFamily → Course → Prop where
  | waits {rest : Task LoadedFamily} {journal : Journal}
      (still : ∀ {holds}, flight.task.Returns holds → rest.Returns holds) :
      Fares stage held flight none
        (.away { flight with task := rest }
          { stage with
            journal := journal
            flight := some { flight with task := rest } })
  | lands {loaded : LoadedFamily} {journal : Journal}
      (returned : ∀ {holds}, flight.task.Returns holds → holds loaded) :
      Fares stage held flight (some loaded)
        (.done (.ok (.loaded flight.target))
          ({ stage with journal := journal, flight := none }.replace
            flight.previous loaded))
  | fails {error : LoadError} {journal : Journal} :
      Fares stage held flight none
        (.done (.error error)
          ({ stage with journal := journal }.release held flight))
  | panics {journal : Journal} :
      Fares stage held flight none
        (.panicked ({ stage with journal := journal }.release held flight))

/-- The family that a poll of a load puts on the stage, if it does. -/
def finds? (stage : Stage) (held : Bool) (source : Source) (flight : Flight) :
    Option LoadedFamily :=
  if held then none else (flight.task.poll source stage.journal).1.value?

theorem fares_fly (stage : Stage) (held : Bool) (source : Source)
    (flight : Flight) :
    stage.Fares held flight (stage.finds? held source flight)
      (stage.fly held source flight) := by
  have flies := stage.flies held source flight
  generalize stage.fly held source flight = course at flies ⊢
  unfold finds?
  cases flies with
  | waits polled =>
      rw [polled]
      cases held <;> exact .waits fun returns => Task.returns_of_poll returns polled
  | lands free polled =>
      rw [polled, free]
      exact .lands fun returns => Task.holds_of_poll returns polled
  | fails polled =>
      rw [polled]
      cases held <;> exact .fails
  | panics grip polled =>
      rw [grip]
      exact .panics

theorem fares_settle (stage : Stage) (source : Source) (flight : Flight) :
    let settled := flight.task.settle source stage.journal
    stage.Fares false flight settled.1.toOption
      (.ended ({ stage with journal := settled.2 }.conclude flight
        settled.1)) := by
  cases settled : flight.task.settle source stage.journal with
  | mk result journal =>
      cases result with
      | ok loaded =>
          exact .lands fun returns => Task.holds_of_settle returns settled
      | error error => exact .fails

/-! ## Ticks and resets -/

/-- What a tick leaves of a stage. -/
inductive Ticks (stage : Stage) (game : GameBank) : Stage → Prop where
  | idles : Ticks stage game stage
  | plays {id : SceneId} {scene : Scene}
      (active : stage.active = some id)
      (found : stage.arena.scene? id = some scene) :
      Ticks stage game (stage.tickScene game id scene).2.2

theorem ticks (stage : Stage) (game : GameBank) :
    stage.Ticks game (stage.tick game).2.2 := by
  unfold tick
  by_cases loading : stage.isLoading = true
  · rw [if_pos loading]
    exact .idles
  · rw [if_neg loading]
    split
    · next id scene active found =>
        have known : stage.arena.scene? id = some scene := by
          simpa [activeScene?, active] using found
        exact .plays active known
    · exact .idles

/-- What a reset leaves of a stage. -/
inductive Resets (stage : Stage) : Stage → Prop where
  | idles : Resets stage stage
  | restores {id : SceneId} {after : Stage}
      (active : stage.active = some id)
      (same : (stage.changeScene id resetScene).SameScenes after) :
      Resets stage after

theorem resets (stage : Stage) : stage.Resets stage.reset.2 := by
  unfold reset
  by_cases loading : stage.isLoading = true
  · rw [if_pos loading]
    exact .idles
  · rw [if_neg loading]
    split
    · exact .idles
    · next id active =>
        dsimp only
        split
        · exact .restores active (sameScenes_call _ _)
        · exact .restores active (SameScenes.refl _)

theorem sameSetting_tick (stage : Stage) (game : GameBank) :
    stage.SameSetting (stage.tick game).2.2 ∧
      (stage.tick game).2.2.active = stage.active := by
  have ticks := stage.ticks game
  generalize (stage.tick game).2.2 = after at ticks
  cases ticks with
  | idles => exact ⟨SameSetting.refl stage, rfl⟩
  | plays active found => exact ⟨⟨rfl, rfl, rfl⟩, rfl⟩

theorem sameSetting_reset (stage : Stage) :
    stage.SameSetting stage.reset.2 ∧
      stage.reset.2.active = stage.active := by
  have resets := stage.resets
  generalize stage.reset.2 = after at resets
  cases resets with
  | idles => exact ⟨SameSetting.refl stage, rfl⟩
  | @restores id _ active same =>
      exact ⟨(sameSetting_changeScene stage id resetScene).trans
          same.sameSetting,
        same.active.trans (stage.changeScene_active id resetScene)⟩

/-! ## The load under way -/

/-- The load that a course leaves under way. -/
@[simp]
def Course.flight? : Course → Option Flight
  | .done _ _ => none
  | .away flight _ => some flight
  | .panicked _ => none

@[simp]
def Course.stage : Course → Stage
  | .done _ stage => stage
  | .away _ stage => stage
  | .panicked stage => stage

@[simp]
def Departure.stage : Departure → Stage
  | .done _ stage => stage
  | .away _ stage => stage

/-- Where setting out leads, as the course of a load. -/
def Departure.course : Departure → Course
  | .done result stage => .done result stage
  | .away flight stage => .away flight stage

@[simp]
def Departure.flight? : Departure → Option Flight
  | .done _ _ => none
  | .away flight _ => some flight

@[simp]
theorem tick_flight (stage : Stage) (game : GameBank) :
    (stage.tick game).2.2.flight = stage.flight :=
  (stage.sameSetting_tick game).1.flight

@[simp]
theorem reset_flight (stage : Stage) :
    stage.reset.2.flight = stage.flight :=
  stage.sameSetting_reset.1.flight

@[simp]
theorem unload_flight (stage : Stage) :
    stage.unload.2.flight = stage.flight :=
  stage.sameSetting_unload.flight

theorem sameSetting_release (stage : Stage) (held : Bool) (flight : Flight) :
    SameSetting { stage with flight := none } (stage.release held flight) := by
  unfold release
  split
  · split
    · exact (sameScenes_note _ _).sameSetting
    · exact SameSetting.refl _
  · exact sameSetting_setActivity _ _ _

@[simp]
theorem release_flight (stage : Stage) (held : Bool) (flight : Flight) :
    (stage.release held flight).flight = none :=
  (stage.sameSetting_release held flight).flight

section Departures

variable {stage after : Stage} {game : GameBank} {target : SceneIndex}
  {force : Bool} {departure : Departure} {flight : Flight}

/-- Setting out does not count as a load yet. -/
theorem Departs.stage_flight
    (departs : stage.Departs game target force departure) :
    departure.stage.flight = stage.flight := by
  cases departs with
  | ignored busy => rfl
  | unknown idle wanted missing => rfl
  | @swapped idle wanted kind known outgoing incoming side =>
      simp only [Departure.stage]
      rw [(sameSetting_swap stage outgoing incoming).flight]
  | away idle wanted known apart =>
      simp only [Departure.stage]
      rw [(sameSetting_setActivity stage stage.active false).flight]

/-- Nothing leaves for a load while another one is under way. -/
theorem Departs.idle_of_away
    (departs : stage.Departs game target force (.away flight after)) :
    stage.flight = none := by
  cases departs with
  | away idle wanted known apart => exact idle

end Departures

/-- A poll leaves the stage with exactly the load that goes on. -/
theorem fly_flight (stage : Stage) (held : Bool) (source : Source)
    (flight : Flight) :
    (stage.fly held source flight).stage.flight =
      (stage.fly held source flight).flight? := by
  have flies := stage.flies held source flight
  generalize stage.fly held source flight = course at flies
  cases flies with
  | waits polled => rfl
  | lands free polled =>
      simp only [Course.stage, Course.flight?]
      rw [(sameSetting_replace _ _ _).flight]
  | fails polled => exact release_flight _ _ _
  | panics grip polled => exact release_flight _ _ _

end Stage

/-! ## Orders -/

namespace Order

/-- How setting out on an order goes. -/
inductive Departs (order : Order) (game : GameBank) (stage : Stage) :
    Stage.Departure → Prop where
  | nowhere
      (aimless : order.target? stage = none) :
      Departs order game stage (.done (.ok .ignored) stage)
  | towards {target : SceneIndex} {force : Bool}
      {departure : Stage.Departure}
      (aim : order.target? stage = some (target, force))
      (departs : stage.Departs game target force departure) :
      Departs order game stage departure

theorem departs (order : Order) (game : GameBank) (stage : Stage) :
    order.Departs game stage (order.depart game stage) := by
  unfold depart
  cases aim : order.target? stage with
  | none => exact .nowhere aim
  | some pair => exact .towards aim (stage.departs game pair.1 pair.2)

/-- What a caller can be told that asks while somebody holds on to the state. -/
inductive Asks (order : Order) (stage : Stage) : Transition → Prop where
  | ignored : Asks order stage (.over (.ok .ignored))
  | unknown {target : SceneIndex} {force : Bool}
      (aim : order.target? stage = some (target, force))
      (missing : stage.map.kind? target = none) :
      Asks order stage (.over (.error (.unknownScene target)))
  | panics : Asks order stage .panicked

theorem asks (order : Order) (stage : Stage) :
    order.Asks stage (order.ask stage) := by
  unfold ask verdict?
  cases aim : order.target? stage with
  | none => exact .ignored
  | some pair =>
      simp only [Stage.verdict?]
      split_ifs with busy missing
      · exact .ignored
      · exact .unknown aim (Option.isNone_iff_eq_none.mp missing)
      · exact .panics

theorem depart_of_isLoading
    {stage : Stage} (loading : stage.isLoading = true) (order : Order)
    (game : GameBank) :
    order.depart game stage = .done (.ok .ignored) stage := by
  unfold depart
  cases order.target? stage with
  | none => rfl
  | some pair => exact Stage.depart_of_isLoading loading game pair.1 pair.2

theorem verdict?_of_isLoading
    {stage : Stage} (loading : stage.isLoading = true) (order : Order) :
    order.verdict? stage = some (.ok .ignored) := by
  unfold verdict?
  cases order.target? stage with
  | none => rfl
  | some pair => exact Stage.verdict?_of_isLoading loading pair.1 pair.2

theorem depart_flight (order : Order) (game : GameBank) (stage : Stage) :
    (order.depart game stage).stage.flight = stage.flight := by
  have departs := order.departs game stage
  generalize order.depart game stage = departure at departs
  cases departs with
  | nowhere aimless => rfl
  | towards aim departs => exact departs.stage_flight

theorem idle_of_depart_away
    {order : Order} {game : GameBank} {stage after : Stage} {flight : Flight}
    (leaves : order.depart game stage = .away flight after) :
    stage.flight = none := by
  have departs := order.departs game stage
  rw [leaves] at departs
  cases departs with
  | towards aim departs => exact departs.idle_of_away

end Order

end Stagecraft
