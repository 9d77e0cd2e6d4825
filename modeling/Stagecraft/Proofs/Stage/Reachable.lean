import Stagecraft.Proofs.Stage.Acts
import Stagecraft.Proofs.Stage.Company

/-!
# Families of reachable stages

Every act keeps the company of a stage in order: a load that lands puts a whole
family in the place of the previous one, unloading takes the whole family away,
and everything else keeps the family together. So the arena holds exactly one
family, or nothing, in every state that a theatre can reach.
-/

namespace Stagecraft

/-- Whether a load under way was begun on a stage as it is now. -/
structure Flight.Suits (flight : Flight) (stage : Stage) : Prop where
  previous : flight.previous = stage.active
  returns :
    flight.task.Returns (LoadedFamily.Fits stage.map flight.target)

/-- Whether a stage is in order: it has the map, it houses a company, and the load
under way suits it. -/
structure Stage.Sound (map : SceneMap) (cast? : Option Cast)
    (stage : Stage) : Prop where
  map : stage.map = map
  houses : stage.Houses cast?
  suits : ∀ flight, stage.flight = some flight → flight.Suits stage

namespace Stage

variable {map : SceneMap} {cast? : Option Cast} {stage : Stage}

theorem sound_bare (map : SceneMap) (settings : StageSettings)
    (host : Host) :
    (bare map settings host).Sound map none :=
  ⟨rfl, houses_bare map settings host, by simp [bare]⟩

/-- An idle stage in order needs no more than its company. -/
theorem sound_of_idle
    (sameMap : stage.map = map) (houses : stage.Houses cast?)
    (idle : stage.flight = none) :
    stage.Sound map cast? :=
  ⟨sameMap, houses, fun flight known => by simp [idle] at known⟩

theorem setActivity_active (stage : Stage) (id : Option SceneId)
    (active : Bool) :
    (stage.setActivity id active).active = stage.active := by
  cases id <;> rfl

/-! ## Setting out and loading -/

/-- Setting out keeps the company together, and a load that it begins suits the
stage. -/
theorem sound_departs
    (sound : stage.Sound map cast?) {game : GameBank} {target : SceneIndex}
    {force : Bool} {departure : Departure}
    (departs : stage.Departs game target force departure) :
    ∃ after?, departure.stage.Sound map after? ∧ SameCompany cast? after? ∧
      ∀ flight, departure.flight? = some flight →
        flight.Suits departure.stage := by
  cases departs with
  | ignored busy =>
      exact ⟨cast?, sound, SameCompany.refl cast?, by simp⟩
  | unknown idle wanted missing =>
      exact ⟨cast?, sound, SameCompany.refl cast?, by simp⟩
  | @swapped idle wanted kind known outgoing incoming side =>
      obtain ⟨cast, rfl, rfl, listed, apart⟩ :=
        sound.houses.member_of_sideTarget side
      have same := sameSetting_swap stage cast.main incoming
      have swapped := houses_swap sound.houses listed apart
      simp only [Departure.stage, Departure.flight?]
      generalize stage.swap cast.main incoming = after at *
      exact ⟨some (cast.ledBy incoming),
        sound_of_idle (same.map.trans sound.map) swapped
          (same.flight.trans idle),
        sameCompany_ledBy cast incoming, by simp⟩
  | away idle wanted known apart =>
      have same := sameSetting_setActivity stage stage.active false
      have sameActive := setActivity_active stage stage.active false
      have asleep := sound.houses.setActivity false
      simp only [Departure.stage, Departure.flight?]
      generalize stage.setActivity stage.active false = after at *
      refine ⟨cast?, ?_, SameCompany.refl cast?, fun flight begun => ?_⟩
      · exact sound_of_idle (same.map.trans sound.map) asleep
          (same.flight.trans idle)
      · obtain rfl := Option.some.inj begun
        refine ⟨sameActive.symm, ?_⟩
        rw [same.map]
        exact LoadContext.returns_family _ target

/-- Whether a transition ended with a family that was loaded for it. -/
def landed : Except LoadError Outcome → Bool
  | .ok (.loaded _) => true
  | _ => false

/-- Whether a course ended with a family that was loaded for it. -/
def Course.landed : Course → Bool
  | .done result _ => Stage.landed result
  | .away _ _ => false
  | .panicked _ => false

theorem houses_lands
    (houses : stage.Houses cast?) {flight : Flight}
    (suits : flight.Suits stage) (journal : Journal) {loaded : LoadedFamily}
    (fits : loaded.Fits stage.map flight.target) :
    ∃ cast,
      ({ stage with journal := journal, flight := none }.replace
        flight.previous loaded).Houses (some cast) := by
  have landed :
      Houses { stage with journal := journal, flight := none } cast? :=
    houses.of_same rfl rfl rfl
  rw [suits.previous]
  exact houses_replace landed fits

/-- Letting go of a load keeps the stage in order. -/
theorem sound_release
    (sameMap : stage.map = map) (houses : stage.Houses cast?)
    {flight : Flight} (suits : flight.Suits stage) (held : Bool) :
    (stage.release held flight).Sound map cast? := by
  have landed : Houses { stage with flight := none } cast? :=
    houses.of_same rfl rfl rfl
  unfold release
  cases held with
  | true =>
      simp only [if_true]
      cases flight.previous with
      | none => exact sound_of_idle sameMap landed rfl
      | some id =>
          exact sound_of_idle sameMap
            (landed.of_sameScenes (sameScenes_note _ _)) rfl
  | false =>
      have same :=
        sameSetting_setActivity { stage with flight := none } stage.active
          true
      simp only [Bool.false_eq_true, if_false, suits.previous]
      exact sound_of_idle (same.map.trans sameMap)
        (landed.setActivity true) same.flight

/-- A load puts a whole family on the stage or keeps the company together. -/
theorem Fares.sound {flight : Flight} {arrival : Option LoadedFamily}
    {held : Bool} {course : Course}
    (fares : stage.Fares held flight arrival course)
    (sameMap : stage.map = map) (houses : stage.Houses cast?)
    (suits : flight.Suits stage) :
    ∃ after?, course.stage.Sound map after? ∧
      (course.landed = false → SameCompany cast? after?) := by
  cases fares with
  | waits still =>
      refine ⟨cast?, ⟨sameMap, houses.of_same rfl rfl rfl, ?_⟩,
        fun _ => SameCompany.refl cast?⟩
      intro under known
      simp only [Course.stage, Option.some.injEq] at known
      subst known
      exact ⟨suits.previous, still suits.returns⟩
  | @lands loaded journal returned =>
      obtain ⟨cast, housesNow⟩ :=
        houses_lands houses suits journal (returned suits.returns)
      have same :=
        sameSetting_replace { stage with journal := journal, flight := none }
          flight.previous loaded
      exact ⟨some cast,
        sound_of_idle (same.map.trans sameMap) housesNow same.flight,
        fun lands => by simp [Course.landed, Stage.landed] at lands⟩
  | fails | panics =>
      refine ⟨cast?, sound_release ?_ ?_ ?_ held,
        fun _ => SameCompany.refl cast?⟩
      · exact sameMap
      · exact houses.of_same rfl rfl rfl
      · exact ⟨suits.previous, suits.returns⟩

/-! ## Ticking, starting over and leaving -/

/-- An operation that only changes scenes keeps the stage in order. -/
theorem sound_of_sameSetting
    (sound : stage.Sound map cast?) {after : Stage}
    (same : stage.SameSetting after) (houses : after.Houses cast?)
    (active : after.active = stage.active) :
    after.Sound map cast? := by
  refine ⟨same.map.trans sound.map, houses, fun flight under => ?_⟩
  have suits := sound.suits flight (same.flight.symm.trans under)
  refine ⟨suits.previous.trans active.symm, ?_⟩
  rw [same.map]
  exact suits.returns

theorem sound_unload (sound : stage.Sound map cast?) :
    ∃ after?, stage.unload.2.Sound map after? ∧
      (stage.unload.1 = false → SameCompany cast? after?) := by
  rcases houses_unload sound.houses with ⟨done, houses⟩ | ⟨refused, same⟩
  · refine ⟨none, ?_, fun refused => by simp [done] at refused⟩
    have idle : stage.flight = none := by
      cases under : stage.flight with
      | none => rfl
      | some flight => simp [unload, isLoading, under] at done
    have same := sameSetting_unload stage
    exact sound_of_idle (same.map.trans sound.map) houses
      (same.flight.trans idle)
  · rw [same]
    exact ⟨cast?, sound, fun _ => SameCompany.refl cast?⟩

end Stage

/-! ## Acts -/

theorem Order.sound_depart
    {map : SceneMap} {cast? : Option Cast} {stage : Stage}
    (sound : stage.Sound map cast?) (order : Order) (game : GameBank) :
    ∃ after?, (order.depart game stage).stage.Sound map after? ∧
      SameCompany cast? after? ∧
      ∀ flight, (order.depart game stage).flight? = some flight →
        flight.Suits (order.depart game stage).stage := by
  have departs := order.departs game stage
  generalize order.depart game stage = departure at departs
  cases departs with
  | nowhere aimless => exact ⟨cast?, sound, SameCompany.refl cast?, by simp⟩
  | towards aim departs => exact Stage.sound_departs sound departs

/-- Whether an answer leaves the family on the stage together: no load landed and
nothing was unloaded. -/
def Answer.keepsFamily : Answer → Bool
  | .settled result => !Stage.landed result
  | .begun (.over result) => !Stage.landed result
  | .polled (some (.over result)) => !Stage.landed result
  | .unloaded done => !done
  | _ => true

theorem Answer.Tells.keepsFamily {course : Stage.Course} {answer : Answer}
    (tells : Answer.Tells course answer) :
    answer.keepsFamily = !course.landed := by
  cases tells with
  | settled result stage => rfl
  | begun => cases course <;> rfl
  | polled => cases course <;> rfl

namespace Theatre

variable {map : SceneMap} {cast? : Option Cast} {theatre : Theatre}

theorem Performs.sound {act : Act} {answer : Answer}
    {arrival : Option LoadedFamily} {after : Stage}
    (performs : theatre.Performs act answer arrival after)
    (sound : theatre.stage.Sound map cast?) :
    ∃ after?, after.Sound map after? ∧
      (answer.keepsFamily = true → SameCompany cast? after?) := by
  cases performs with
  | @atOnce _ _ order _ _ left tells =>
      obtain ⟨after?, soundNow, together, _⟩ :=
        order.sound_depart sound theatre.game
      rw [left] at soundNow
      exact ⟨after?, soundNow, fun _ => together⟩
  | @leaves _ _ order flight _ _ course left fares tells =>
      obtain ⟨left?, soundNow, together, suits⟩ :=
        order.sound_depart sound theatre.game
      rw [left] at soundNow suits
      obtain ⟨after?, soundAfter, kept⟩ :=
        fares.sound soundNow.map soundNow.houses (suits flight rfl)
      rw [tells.keepsFamily, Bool.not_eq_true']
      exact ⟨after?, soundAfter, fun keeps => together.trans (kept keeps)⟩
  | goesOn under fares =>
      rw [(Answer.Tells.polled _).keepsFamily, Bool.not_eq_true']
      exact fares.sound sound.map sound.houses (sound.suits _ under)
  | @releases held _ under =>
      exact ⟨cast?,
        Stage.sound_release sound.map sound.houses (sound.suits _ under) held,
        fun _ => SameCompany.refl cast?⟩
  | ticks =>
      have same := theatre.stage.sameSetting_tick theatre.game
      exact ⟨cast?,
        Stage.sound_of_sameSetting sound same.1
          (Stage.houses_tick sound.houses theatre.game) same.2,
        fun _ => SameCompany.refl cast?⟩
  | resets =>
      have same := theatre.stage.sameSetting_reset
      exact ⟨cast?,
        Stage.sound_of_sameSetting sound same.1
          (Stage.houses_reset sound.houses) same.2,
        fun _ => SameCompany.refl cast?⟩
  | unloads =>
      simp only [Answer.keepsFamily, Bool.not_eq_true']
      exact Stage.sound_unload sound
  | asks | unpolled | unreleased | changes =>
      exact ⟨cast?, sound, fun _ => SameCompany.refl cast?⟩

/-- An act keeps the stage in order, and it keeps the family together unless its
answer tells of another one. -/
theorem sound_perform (sound : theatre.stage.Sound map cast?) (act : Act) :
    ∃ after?, (theatre.perform act).2.stage.Sound map after? ∧
      ((theatre.perform act).1.keepsFamily = true →
        SameCompany cast? after?) :=
  (theatre.performs act).sound sound

theorem sound_run (sound : theatre.stage.Sound map cast?) (acts : List Act) :
    ∃ after?, (theatre.run acts).stage.Sound map after? ∧
      ((∀ answer ∈ theatre.answers acts, answer.keepsFamily = true) →
        SameCompany cast? after?) := by
  induction acts generalizing theatre cast? with
  | nil =>
      exact ⟨cast?, sound, fun _ => SameCompany.refl cast?⟩
  | cons act rest inductionHypothesis =>
      obtain ⟨next?, soundNext, keptNext⟩ := sound_perform sound act
      obtain ⟨after?, soundAfter, keptAfter⟩ := inductionHypothesis soundNext
      refine ⟨after?, soundAfter, fun keeps => ?_⟩
      rw [answers, List.forall_mem_cons] at keeps
      exact (keptNext keeps.1).trans (keptAfter keeps.2)

/-- What every act keeps of a theatre whose stage is in order, a series of acts keeps.
It may depend on the family that was loaded last. -/
theorem holds_run (holds : Option LoadedFamily → Theatre → Prop)
    (bill : Option LoadedFamily) {acts : List Act}
    (keeps : ∀ {cast? bill theatre act}, act ∈ acts →
      theatre.stage.Sound map cast? → holds bill theatre →
        holds ((theatre.arrival? act).or bill) (theatre.perform act).2)
    (sound : theatre.stage.Sound map cast?) (start : holds bill theatre) :
    holds (theatre.billed bill acts) (theatre.run acts) := by
  induction acts generalizing theatre bill cast? with
  | nil => exact start
  | cons act rest inductionHypothesis =>
      obtain ⟨next?, soundNext, _⟩ := sound_perform sound act
      have next := keeps List.mem_cons_self sound start
      exact inductionHypothesis _
        (fun listed => keeps (List.mem_cons_of_mem act listed)) soundNext next

theorem sound_reachable (map : SceneMap) (settings : StageSettings)
    (host : Host) (game : GameBank) (acts : List Act) :
    ∃ cast?,
      ((opening map settings host game).run acts).stage.Sound map cast? := by
  have opened : (opening map settings host game).stage.Sound map none :=
    Stage.sound_bare map settings host
  obtain ⟨cast?, sound, _⟩ := sound_run opened acts
  exact ⟨cast?, sound⟩

/-! ## A small theatre -/

def pairMap : SceneMap :=
  ⟨[.island ⟨"", 0, 0⟩, .island ⟨"", 0, 0⟩], [], [], by decide⟩

def bareSource : Source where
  answer
    | .scene _ _ => .ok (⟨⟨0, none, none⟩, [], [], []⟩ : SceneData)
    | .actor _ _ data => .ok (⟨data, none⟩ : ActorAsset)
    | .scenery _ _ => .ok (⟨"", [⟨0, 0⟩], []⟩ : Scenery)
  pauses _ _ := 0

def pair : Theatre :=
  (opening pairMap ⟨"", false, 0⟩ Host.quiet ⟨#[], []⟩).run
    [.begin bareSource (.goto 0 false)]

end Theatre

end Stagecraft
