import Stagecraft.Proofs.Stage.Courses
import Stagecraft.Stage.Traffic

/-!
# One load at a time

However many callers there are and in whatever order they poll and drop their
journeys, at most one journey is away on a load. The stage counts as loading just
as long as there is such a journey, and until then it turns everybody else away.
-/

namespace Stagecraft

/-- The load of a journey that is away on one. -/
@[simp]
def Journey.flight? : Journey → Option Flight
  | .underway flight => some flight
  | _ => none

namespace Traffic

/-- The load on which the journey of an id is away. -/
def flightAt (traffic : Traffic) (id : Nat) : Option Flight :=
  (traffic.journeys.get? id).bind Journey.flight?

theorem flightAt_eq_some_iff (traffic : Traffic) (id : Nat) (flight : Flight) :
    traffic.flightAt id = some flight ↔
      traffic.journeys.get? id = some (.underway flight) := by
  unfold flightAt
  cases traffic.journeys.get? id with
  | none =>
      simp
  | some journey =>
      cases journey <;> simp [Journey.flight?]

theorem flightAt_of_get?
    {traffic : Traffic} {id : Nat} {journey : Journey}
    (present : traffic.journeys.get? id = some journey) :
    traffic.flightAt id = journey.flight? := by
  rw [flightAt, present, Option.bind_some]

/-- One journey at most carries the load under way, and all the others carry
none. -/
def SingleFlight (traffic : Traffic) : Prop :=
  ∃ owner, ∀ id,
    traffic.flightAt id = if id = owner then traffic.stage.flight else none

/-! ## What one poll does -/

/-- Polling a journey either leaves the loads alone, or it takes part in the only
one: then the stage is left with the load on which the journey goes on. -/
theorem poll_flight (held : Bool) (source : Source) (stage : Stage)
    (journey : Journey) :
    (journey.flight? = none ∧
        (journey.poll held source stage).1.flight? = none ∧
        (journey.poll held source stage).2.flight = stage.flight) ∨
      ((journey.flight?.isSome ∨ stage.flight = none) ∧
        (journey.poll held source stage).2.flight =
          (journey.poll held source stage).1.flight?) := by
  have flown (held : Bool) (before : Stage) (flight : Flight) :
      (Journey.ofCourse (before.fly held source flight)).2.flight =
        (Journey.ofCourse (before.fly held source flight)).1.flight? := by
    have left := before.fly_flight held source flight
    generalize before.fly held source flight = course at left
    cases course <;> exact left
  cases journey with
  | planned game order =>
      cases held with
      | true =>
          refine .inl ⟨rfl, ?_, rfl⟩
          simp only [Journey.poll, if_true]
          cases order.verdict? stage <;> rfl
      | false =>
          have kept := order.depart_flight game stage
          cases left : order.depart game stage with
          | done result after =>
              rw [left] at kept
              refine .inl ⟨rfl, ?_, ?_⟩
              · simp [Journey.poll, left]
              · simp only [Journey.poll, Bool.false_eq_true, if_false, left]
                exact kept
          | away flight after =>
              have idle : stage.flight = none := Order.idle_of_depart_away left
              refine .inr ⟨.inr idle, ?_⟩
              simp only [Journey.poll, Bool.false_eq_true, if_false, left]
              exact flown false after flight
  | underway flight =>
      exact .inr ⟨.inl rfl, flown held stage flight⟩
  | done result =>
      exact .inl ⟨rfl, rfl, rfl⟩
  | panicked =>
      exact .inl ⟨rfl, rfl, rfl⟩

/-! ## What one move keeps -/

theorem flightAt_eq_none_of_idle
    {traffic : Traffic} (single : traffic.SingleFlight)
    (idle : traffic.stage.flight = none) (id : Nat) :
    traffic.flightAt id = none := by
  obtain ⟨owner, carried⟩ := single
  rw [carried id, idle, ite_self]

/-- A journey that is away carries the load of the stage, and no other one
does. -/
theorem flightAt_of_isSome
    {traffic : Traffic} (single : traffic.SingleFlight) {id : Nat}
    (away : (traffic.flightAt id).isSome) :
    traffic.flightAt id = traffic.stage.flight ∧
      ∀ other, other ≠ id → traffic.flightAt other = none := by
  obtain ⟨owner, carried⟩ := single
  have owns : id = owner := by
    by_cases same : id = owner
    · exact same
    · rw [carried id, if_neg same] at away
      simp at away
  subst owns
  constructor
  · rw [carried id, if_pos rfl]
  · intro other different
    rw [carried other, if_neg different]

theorem singleFlight_opening (map : SceneMap) (settings : StageSettings)
    (host : Host) :
    (opening map settings host).SingleFlight :=
  ⟨0, fun id => by simp [opening, flightAt, Stage.bare]⟩

/-- A single load is kept if one journey takes a turn which leaves the loads alone,
or in which it takes part in the only one. -/
theorem singleFlight_of_turn
    {traffic after : Traffic} (single : traffic.SingleFlight) (id : Nat)
    (others : ∀ other, other ≠ id →
      after.flightAt other = traffic.flightAt other)
    (turn :
      (traffic.flightAt id = none ∧ after.flightAt id = none ∧
          after.stage.flight = traffic.stage.flight) ∨
        (((traffic.flightAt id).isSome ∨ traffic.stage.flight = none) ∧
          after.stage.flight = after.flightAt id)) :
    after.SingleFlight := by
  -- Without a load in it the turn leaves the owner in place; otherwise the journey
  -- owns whatever load is under way afterwards.
  rcases turn with ⟨wasNone, isNone, kept⟩ | ⟨involved, left⟩
  · obtain ⟨owner, carried⟩ := single
    refine ⟨owner, fun other => ?_⟩
    rw [kept, ← carried other]
    by_cases same : other = id
    · rw [same, isNone, wasNone]
    · exact others other same
  · have othersNone :
        ∀ other, other ≠ id → traffic.flightAt other = none := by
      rcases involved with away | idle
      · exact (flightAt_of_isSome single away).2
      · exact fun other _ => flightAt_eq_none_of_idle single idle other
    refine ⟨id, fun other => ?_⟩
    by_cases same : other = id
    · rw [if_pos same, same, left]
    · rw [if_neg same, others other same, othersNone other same]

theorem singleFlight_plan
    {traffic : Traffic} (single : traffic.SingleFlight) (game : GameBank)
    (order : Order) :
    (traffic.make (.plan game order)).SingleFlight := by
  refine singleFlight_of_turn single traffic.journeys.nextId
    (fun other apart => ?others) (.inl ⟨?wasNone, ?isNone, rfl⟩)
  case others =>
    simp [make, flightAt, Slots.get?_insert, apart]
  case wasNone =>
    rw [flightAt, traffic.journeys.get?_of_nextId_le (Nat.le_refl _)]
    rfl
  case isNone =>
    simp [make, flightAt, Slots.get?_insert]

theorem singleFlight_poll
    {traffic : Traffic} (single : traffic.SingleFlight) (held : Bool)
    (source : Source) (id : Nat) :
    (traffic.poll held source id).SingleFlight := by
  unfold poll
  cases present : traffic.journeys.get? id with
  | none =>
      exact single
  | some journey =>
      have moved :=
        poll_flight held (source.since traffic.stage.journal.size)
          traffic.stage journey
      refine singleFlight_of_turn single id (fun other apart => ?others) ?turn
      case others =>
        simp [flightAt, Slots.get?_modify, apart]
      case turn =>
        rw [flightAt_of_get? present]
        simp only [flightAt, Slots.get?_modify, if_true, present,
          Option.map_some, Option.bind_some]
        exact moved

theorem singleFlight_drop
    {traffic : Traffic} (single : traffic.SingleFlight) (held : Bool)
    (id : Nat) :
    (traffic.drop held id).SingleFlight := by
  unfold drop
  cases present : traffic.journeys.get? id with
  | none =>
      exact single
  | some journey =>
      have gone (stage : Stage) :
          flightAt ⟨stage, traffic.journeys.erase id⟩ id = none := by
        simp [flightAt, Slots.get?_erase]
      refine singleFlight_of_turn single id (fun other apart => ?others) ?turn
      case others =>
        simp [flightAt, Slots.get?_erase, apart]
      case turn =>
        rw [flightAt_of_get? present, gone]
        cases journey with
        | planned game order => exact .inl ⟨rfl, rfl, rfl⟩
        | underway flight =>
            exact .inr ⟨.inl rfl, traffic.stage.release_flight held flight⟩
        | done result => exact .inl ⟨rfl, rfl, rfl⟩
        | panicked => exact .inl ⟨rfl, rfl, rfl⟩

theorem singleFlight_make
    {traffic : Traffic} (single : traffic.SingleFlight) (move : Move) :
    (traffic.make move).SingleFlight := by
  have ofStage (stage : Stage) (same : stage.flight = traffic.stage.flight) :
      SingleFlight { traffic with stage := stage } := by
    obtain ⟨owner, carried⟩ := single
    exact ⟨owner, fun id => by rw [same]; exact carried id⟩
  cases move with
  | plan game order => exact singleFlight_plan single game order
  | poll held source id => exact singleFlight_poll single held source id
  | drop held id => exact singleFlight_drop single held id
  | tick game => exact ofStage _ (traffic.stage.tick_flight game)
  | reset => exact ofStage _ traffic.stage.reset_flight
  | unload => exact ofStage _ traffic.stage.unload_flight

theorem singleFlight_run
    {traffic : Traffic} (single : traffic.SingleFlight) (moves : List Move) :
    (traffic.run moves).SingleFlight := by
  induction moves generalizing traffic with
  | nil => exact single
  | cons move rest inductionHypothesis =>
      exact inductionHypothesis (singleFlight_make single move)

/-! ## Loading -/

theorem isUnderway_iff (traffic : Traffic) (id : Nat) :
    traffic.IsUnderway id ↔ (traffic.flightAt id).isSome := by
  rw [Option.isSome_iff_exists]
  exact exists_congr fun flight => (flightAt_eq_some_iff traffic id flight).symm

theorem isUnderway_unique
    {traffic : Traffic} (single : traffic.SingleFlight) {first second : Nat}
    (firstAway : traffic.IsUnderway first)
    (secondAway : traffic.IsUnderway second) :
    first = second := by
  rw [isUnderway_iff] at firstAway secondAway
  by_cases same : first = second
  · exact same
  · have absent := (flightAt_of_isSome single secondAway).2 first same
    simp [absent] at firstAway

theorem isLoading_iff_isUnderway
    {traffic : Traffic} (single : traffic.SingleFlight) :
    traffic.stage.isLoading = true ↔ ∃ id, traffic.IsUnderway id := by
  constructor
  · intro loading
    obtain ⟨owner, carried⟩ := single
    refine ⟨owner, ?_⟩
    rw [isUnderway_iff, carried owner, if_pos rfl]
    exact loading
  · rintro ⟨id, away⟩
    rw [isUnderway_iff] at away
    have carries := (flightAt_of_isSome single away).1
    rw [carries] at away
    exact away

/-- A poll of a journey that is away leaves it away and the stage loading, or
brings it to its end and the stage to rest. -/
theorem poll_underway
    {traffic : Traffic} {id : Nat} (away : traffic.IsUnderway id)
    (held : Bool) (source : Source) :
    let polled := traffic.poll held source id
    (polled.IsUnderway id ∧ polled.stage.isLoading = true) ∨
      (((∃ result, polled.journeys.get? id = some (.done result)) ∨
          held = true ∧ polled.journeys.get? id = some .panicked) ∧
        polled.stage.isLoading = false) := by
  obtain ⟨flight, present⟩ := away
  have flies :=
    traffic.stage.flies held (source.since traffic.stage.journal.size) flight
  have left :=
    traffic.stage.fly_flight held (source.since traffic.stage.journal.size)
      flight
  have turned :
      traffic.poll held source id =
        ⟨(Journey.ofCourse (traffic.stage.fly held
            (source.since traffic.stage.journal.size) flight)).2,
          traffic.journeys.modify id fun _ =>
            (Journey.ofCourse (traffic.stage.fly held
              (source.since traffic.stage.journal.size) flight)).1⟩ := by
    simp only [poll, present]
    rfl
  rw [turned]
  generalize traffic.stage.fly held (source.since traffic.stage.journal.size)
    flight = course at flies left
  have seen (journey : Journey) :
      (traffic.journeys.modify id fun _ => journey).get? id = some journey := by
    rw [Slots.get?_modify, if_pos rfl, present]
    rfl
  cases course with
  | done result after =>
      refine .inr ⟨.inl ⟨result, seen _⟩, ?_⟩
      exact after.isLoading_eq_false_iff.mpr left
  | away rest after =>
      refine .inl ⟨⟨rest, seen _⟩, ?_⟩
      have goesOn : after.flight = some rest := left
      show after.flight.isSome = true
      rw [goesOn]
      rfl
  | panicked after =>
      refine .inr ⟨.inr ⟨?_, seen _⟩, after.isLoading_eq_false_iff.mpr left⟩
      cases flies with
      | panics grip polled => exact grip

theorem drop_underway
    {traffic : Traffic} {id : Nat} (away : traffic.IsUnderway id)
    (held : Bool) :
    (traffic.drop held id).stage.isLoading = false := by
  obtain ⟨flight, present⟩ := away
  simp [drop, present, Journey.drop, Stage.isLoading]

/-- While the stage is loading, the first poll of a journey ignores it. -/
theorem poll_planned_of_isLoading
    {traffic : Traffic} (loading : traffic.stage.isLoading = true) {id : Nat}
    {game : GameBank} {order : Order}
    (planned : traffic.journeys.get? id = some (.planned game order))
    (held : Bool) (source : Source) :
    traffic.poll held source id =
      { traffic with
        journeys :=
          traffic.journeys.modify id fun _ => .done (.ok .ignored) } := by
  cases held with
  | true =>
      simp only [poll, planned, Journey.poll, if_true,
        Order.verdict?_of_isLoading loading order, Journey.ofAnswer]
  | false =>
      simp only [poll, planned, Journey.poll, Bool.false_eq_true, if_false,
        Order.depart_of_isLoading loading order game]

end Traffic

namespace Stage

theorem tick_of_isLoading
    {stage : Stage} (loading : stage.isLoading = true) (game : GameBank) :
    stage.tick game = (Report.nothing, game, stage) := by
  rw [tick, if_pos loading]

theorem reset_of_isLoading
    {stage : Stage} (loading : stage.isLoading = true) :
    stage.reset = (false, stage) := by
  rw [reset, if_pos loading]

theorem unload_of_isLoading
    {stage : Stage} (loading : stage.isLoading = true) :
    stage.unload = (false, stage) := by
  rw [unload, if_pos loading]

end Stage

namespace Traffic

/-- After any moves of any callers at most one journey is away on a load, and the
stage is loading exactly while there is one: every poll that ends it and every
drop, whether or not somebody holds on to the state, leaves the stage at rest. While the stage is loading, a
journey polled for the first time is over and ignored, and neither it nor a tick,
a reset or an unloading changes anything. -/
theorem single_flight (map : SceneMap) (settings : StageSettings) (host : Host)
    (moves : List Move) :
    let traffic := (opening map settings host).run moves
    (∀ first second,
        traffic.IsUnderway first → traffic.IsUnderway second →
          first = second) ∧
      (traffic.stage.isLoading = true ↔ ∃ id, traffic.IsUnderway id) ∧
      (∀ id held source, traffic.IsUnderway id →
        let polled := traffic.poll held source id
        (polled.IsUnderway id ∧ polled.stage.isLoading = true) ∨
          (((∃ result, polled.journeys.get? id = some (.done result)) ∨
              held = true ∧ polled.journeys.get? id = some .panicked) ∧
            polled.stage.isLoading = false)) ∧
      (∀ id held, traffic.IsUnderway id →
        (traffic.drop held id).stage.isLoading = false) ∧
      (traffic.stage.isLoading = true →
        (∀ id game order held source,
          traffic.journeys.get? id = some (.planned game order) →
            traffic.poll held source id =
              { traffic with
                journeys :=
                  traffic.journeys.modify id fun _ =>
                    .done (.ok .ignored) }) ∧
        (∀ game, traffic.stage.tick game =
          (Stage.Report.nothing, game, traffic.stage)) ∧
        traffic.stage.reset = (false, traffic.stage) ∧
        traffic.stage.unload = (false, traffic.stage)) := by
  intro traffic
  have single : traffic.SingleFlight :=
    singleFlight_run (singleFlight_opening map settings host) moves
  refine ⟨fun first second => isUnderway_unique single,
    isLoading_iff_isUnderway single, fun id held source away =>
      poll_underway away held source,
    fun id held away => drop_underway away held, fun loading => ?_⟩
  exact ⟨fun id game order held source planned =>
      poll_planned_of_isLoading loading planned held source,
    Stage.tick_of_isLoading loading, Stage.reset_of_isLoading loading,
    Stage.unload_of_isLoading loading⟩

end Traffic

end Stagecraft
