import Stagecraft.Proofs.Stage.Everywhere
import Stagecraft.Proofs.Stage.Mirror

/-!
# What becomes of all scenes

An act keeps whatever endures of the scenes on a stage, or the family arrives that
it finishes loading and takes the place of all that was there. So a lasting property
holds of every scene in every state that a theatre can reach, and a property of all
that loads come to is one of every family that is ever on the stage.
-/

namespace Stagecraft

namespace Stage

/-! ## What becomes of a stage -/

/-- What becomes of a stage: it keeps its scenes, or a loaded family takes the place
of the one before. -/
inductive Proceeds (before : Stage) : Option LoadedFamily → Stage → Prop where
  | keeps {after : Stage}
      (keeps : ∀ {holds : Scene → Prop}, Scene.Enduring holds →
        before.arena.Every holds → after.arena.Every holds) :
      Proceeds before none after
  | receives {landing : Stage} {earlier? : Option Cast}
      (houses : landing.Houses earlier?) (idle : landing.flight = none)
      {target : SceneIndex} {loaded : LoadedFamily}
      (fits : loaded.Fits landing.map target)
      {after : Stage}
      (replaced : after = landing.replace landing.active loaded) :
      Proceeds before (some loaded) after

theorem every_bare (holds : Scene → Prop) (map : SceneMap)
    (settings : StageSettings) (host : Host) :
    (bare map settings host).arena.Every holds := by
  intro id scene found
  rw [bare, Arena.isEmpty_empty.scene] at found
  simp at found

variable {cast? : Option Cast} {stage after last : Stage}
  {arrival : Option LoadedFamily}

theorem Proceeds.of_arena (same : after.arena = stage.arena) :
    stage.Proceeds none after :=
  .keeps fun _ every => same ▸ every

theorem Proceeds.goesOn (proceeds : stage.Proceeds none after)
    (next : after.Proceeds arrival last) :
    stage.Proceeds arrival last := by
  cases proceeds with
  | keeps first =>
      cases next with
      | keeps second =>
          exact .keeps fun enduring every =>
            second enduring (first enduring every)
      | receives houses idle fits replaced =>
          exact .receives houses idle fits replaced

/-- A family that arrives is all that there is then. -/
theorem Proceeds.every (proceeds : stage.Proceeds arrival after)
    {holds : Scene → Prop} (enduring : Scene.Enduring holds)
    (every : arrival = none → stage.arena.Every holds)
    (attaches : ∀ loaded, arrival = some loaded → loaded.Attaches holds) :
    after.arena.Every holds := by
  cases proceeds with
  | keeps keeps => exact keeps enduring (every rfl)
  | @receives landing earlier? houses idle target loaded fits _ replaced =>
      rw [replaced]
      refine every_replace enduring (fun id scene found => ?_)
        (attaches loaded rfl)
      rw [(isEmpty_clear houses).scene] at found
      simp at found

theorem proceeds_lands (houses : stage.Houses cast?) {flight : Flight}
    (suits : flight.Suits stage) (journal : Journal) {loaded : LoadedFamily}
    (fits : loaded.Fits stage.map flight.target) :
    stage.Proceeds (some loaded)
      ({ stage with journal := journal, flight := none }.replace
        flight.previous loaded) := by
  have landed :
      Houses { stage with journal := journal, flight := none } cast? :=
    houses.of_same rfl rfl rfl
  rw [suits.previous]
  exact .receives landed rfl fits rfl

theorem proceeds_release (stage : Stage) (held : Bool) (flight : Flight) :
    stage.Proceeds none (stage.release held flight) :=
  .keeps fun enduring every => every_release enduring every held flight

theorem proceeds_departs {game : GameBank} {target : SceneIndex}
    {force : Bool} {departure : Departure}
    (departs : stage.Departs game target force departure) :
    stage.Proceeds none departure.stage := by
  cases departs with
  | ignored busy => exact .of_arena rfl
  | unknown idle wanted missing => exact .of_arena rfl
  | @swapped idle wanted kind known outgoing incoming side =>
      have swapped : stage.Proceeds none (stage.swap outgoing incoming) :=
        .keeps fun enduring every =>
          every_swap enduring every outgoing incoming
      simp only [Departure.stage]
      generalize stage.swap outgoing incoming = after at *
      exact swapped
  | away idle wanted known apart =>
      have quieted :
          stage.Proceeds none (stage.setActivity stage.active false) :=
        .keeps fun enduring every =>
          every_setActivity enduring every stage.active false
      simp only [Departure.stage]
      generalize stage.setActivity stage.active false = after at *
      exact quieted

theorem Fares.proceeds {held : Bool} {flight : Flight} {course : Course}
    (fares : stage.Fares held flight arrival course)
    (houses : stage.Houses cast?) (suits : flight.Suits stage) :
    stage.Proceeds arrival course.stage := by
  cases fares with
  | waits still => exact .of_arena rfl
  | lands returned =>
      exact proceeds_lands houses suits _ (returned suits.returns)
  | @fails error journal | @panics journal =>
      have noted : stage.Proceeds none { stage with journal := journal } :=
        .of_arena rfl
      exact noted.goesOn (proceeds_release _ held flight)

end Stage

namespace Theatre

variable {map : SceneMap} {cast? : Option Cast} {theatre : Theatre}

theorem proceeds_depart (theatre : Theatre) (order : Order) :
    theatre.stage.Proceeds none
      (order.depart theatre.game theatre.stage).stage := by
  have departs := order.departs theatre.game theatre.stage
  generalize order.depart theatre.game theatre.stage = departure at departs
  cases departs with
  | nowhere aimless => exact .of_arena rfl
  | towards aim departs => exact Stage.proceeds_departs departs

theorem Performs.proceeds {act : Act} {answer : Answer}
    {arrival : Option LoadedFamily} {after : Stage}
    (performs : theatre.Performs act answer arrival after)
    (sound : theatre.stage.Sound map cast?) :
    theatre.stage.Proceeds arrival after := by
  cases performs with
  | @atOnce _ _ order _ _ left tells =>
      have departed := theatre.proceeds_depart order
      rw [left] at departed
      exact departed
  | @leaves _ _ order flight _ _ _ left fares tells =>
      have departed := theatre.proceeds_depart order
      obtain ⟨left?, soundNow, _, suits⟩ :=
        order.sound_depart sound theatre.game
      rw [left] at departed soundNow suits
      exact departed.goesOn
        (fares.proceeds soundNow.houses (suits flight rfl))
  | goesOn under fares =>
      exact fares.proceeds sound.houses (sound.suits _ under)
  | @releases held flight under =>
      exact theatre.stage.proceeds_release held flight
  | ticks =>
      exact .keeps fun enduring every =>
        Stage.every_tick enduring every theatre.game
  | resets =>
      exact .keeps fun enduring every => Stage.every_reset enduring every
  | unloads => exact .keeps fun _ every => Stage.every_unload every
  | asks | unpolled | unreleased | changes => exact .of_arena rfl

/-- An act keeps the scenes, or the family arrives that it finishes loading. -/
theorem proceeds_perform (sound : theatre.stage.Sound map cast?) (act : Act) :
    theatre.stage.Proceeds (theatre.arrival? act)
      (theatre.perform act).2.stage :=
  (theatre.performs act).proceeds sound

end Theatre

/-! ## What is true of all loads -/

section Loads

variable {property : LoadedFamily → Prop}

/-- Whether the load under way, if there is one, can only end with a family that has
a property. -/
def Stage.Awaits (property : LoadedFamily → Prop) (stage : Stage) : Prop :=
  ∀ flight, stage.flight = some flight → flight.task.Returns property

theorem Stage.awaits_of_idle {stage : Stage} (idle : stage.flight = none) :
    stage.Awaits property :=
  fun _ under => by simp [idle] at under

theorem Stage.Awaits.of_flight {stage after : Stage}
    (awaits : stage.Awaits property) (same : after.flight = stage.flight) :
    after.Awaits property :=
  fun flight under => awaits flight (same.symm.trans under)

theorem Stage.Fares.awaits {stage : Stage} {held : Bool} {flight : Flight}
    {arrival : Option LoadedFamily} {course : Course}
    (fares : stage.Fares held flight arrival course)
    (returns : flight.task.Returns property) :
    course.stage.Awaits property ∧
      ∀ loaded, arrival = some loaded → property loaded := by
  cases fares with
  | waits still =>
      refine ⟨fun under known => ?_, by simp⟩
      obtain rfl := Option.some.inj known
      exact still returns
  | lands returned =>
      refine ⟨awaits_of_idle (sameSetting_replace _ _ _).flight,
        fun other same => ?_⟩
      obtain rfl := Option.some.inj same
      exact returned returns
  | fails | panics =>
      exact ⟨awaits_of_idle (release_flight _ held flight), by simp⟩

variable (returns : ∀ context index,
  (LoadContext.family context index).Returns property)

include returns

theorem Order.returns_depart (order : Order) (game : GameBank) (stage : Stage)
    {flight : Flight} {after : Stage}
    (departed : order.depart game stage = .away flight after) :
    flight.task.Returns property := by
  have departs := order.departs game stage
  rw [departed] at departs
  cases departs with
  | towards aim departs =>
      cases departs with
      | away idle wanted known apart => exact returns _ _

namespace Theatre

variable {theatre : Theatre}

theorem Performs.awaits {act : Act} {answer : Answer}
    {arrival : Option LoadedFamily} {after : Stage}
    (performs : theatre.Performs act answer arrival after)
    (awaits : theatre.stage.Awaits property) :
    after.Awaits property ∧
      ∀ loaded, arrival = some loaded → property loaded := by
  cases performs with
  | @atOnce _ _ order _ _ left tells =>
      have kept := order.depart_flight theatre.game theatre.stage
      rw [left] at kept
      exact ⟨awaits.of_flight kept, by simp⟩
  | @leaves _ _ order _ _ _ _ left fares tells =>
      exact fares.awaits (order.returns_depart returns _ _ left)
  | goesOn under fares => exact fares.awaits (awaits _ under)
  | @releases held flight under =>
      exact ⟨Stage.awaits_of_idle (theatre.stage.release_flight held flight),
        by simp⟩
  | ticks =>
      exact ⟨awaits.of_flight (theatre.stage.tick_flight theatre.game), by simp⟩
  | resets => exact ⟨awaits.of_flight theatre.stage.reset_flight, by simp⟩
  | unloads => exact ⟨awaits.of_flight theatre.stage.unload_flight, by simp⟩
  | asks | unpolled | unreleased | changes => exact ⟨awaits, by simp⟩

theorem awaits_perform (awaits : theatre.stage.Awaits property) (act : Act) :
    (theatre.perform act).2.stage.Awaits property ∧
      ∀ loaded, theatre.arrival? act = some loaded → property loaded :=
  (theatre.performs act).awaits returns awaits

theorem awaits_run (awaits : theatre.stage.Awaits property)
    {bill : Option LoadedFamily}
    (billed : ∀ loaded, bill = some loaded → property loaded)
    (acts : List Act) :
    (theatre.run acts).stage.Awaits property ∧
      ∀ loaded, theatre.billed bill acts = some loaded → property loaded := by
  induction acts generalizing theatre bill with
  | nil => exact ⟨awaits, billed⟩
  | cons act rest inductionHypothesis =>
      obtain ⟨awaitsNext, arrives⟩ := awaits_perform returns awaits act
      refine inductionHypothesis awaitsNext fun loaded known => ?_
      cases arrived : theatre.arrival? act with
      | none =>
          rw [arrived] at known
          exact billed loaded known
      | some arrival =>
          rw [arrived] at known
          obtain rfl := Option.some.inj known
          exact arrives _ arrived

/-- A property of all that loads come to is one of every family that is on the
stage, and of every one that an act brings there. -/
theorem loads_reachable (map : SceneMap) (settings : StageSettings)
    (host : Host) (game : GameBank) (acts : List Act) :
    let start := opening map settings host game
    (∀ loaded, start.billed none acts = some loaded → property loaded) ∧
      ∀ act loaded, (start.run acts).arrival? act = some loaded →
        property loaded := by
  intro start
  have opened : start.stage.Awaits property := Stage.awaits_of_idle rfl
  have unbilled (loaded : LoadedFamily) (known : none = some loaded) :
      property loaded := by
    cases known
  obtain ⟨awaits, billed⟩ := awaits_run returns opened unbilled acts
  exact ⟨billed, fun act => (awaits_perform returns awaits act).2⟩

end Theatre

end Loads

/-! ## Lasting properties -/

namespace Theatre

variable {holds : Scene → Prop} {map : SceneMap} {cast? : Option Cast}
  {theatre : Theatre}

theorem every_perform (lasting : Scene.Lasting holds)
    (sound : theatre.stage.Sound map cast?)
    (awaits : theatre.stage.Awaits LoadedFamily.Assembled)
    (every : theatre.stage.arena.Every holds) (act : Act) :
    (theatre.perform act).2.stage.arena.Every holds := by
  have arrives := (awaits_perform LoadContext.returns_assembled awaits act).2
  exact (proceeds_perform sound act).every lasting.toEnduring (fun _ => every)
    fun loaded arrived => lasting.attaches (arrives loaded arrived)

theorem every_run (lasting : Scene.Lasting holds)
    (sound : theatre.stage.Sound map cast?)
    (awaits : theatre.stage.Awaits LoadedFamily.Assembled)
    (every : theatre.stage.arena.Every holds) (acts : List Act) :
    (theatre.run acts).stage.arena.Every holds := by
  have kept :
      (theatre.run acts).stage.Awaits LoadedFamily.Assembled ∧
        (theatre.run acts).stage.arena.Every holds :=
    holds_run
      (fun _ theatre => theatre.stage.Awaits LoadedFamily.Assembled ∧
        theatre.stage.arena.Every holds) none
      (fun _ sound ⟨awaits, every⟩ =>
        ⟨(awaits_perform LoadContext.returns_assembled awaits _).1,
          every_perform lasting sound awaits every _⟩)
      sound ⟨awaits, every⟩
  exact kept.2

/-- A lasting property holds of every scene that a theatre ever shows. -/
theorem every_reachable (lasting : Scene.Lasting holds) (map : SceneMap)
    (settings : StageSettings) (host : Host) (game : GameBank)
    (acts : List Act) :
    ((opening map settings host game).run acts).stage.arena.Every holds :=
  every_run lasting (Stage.sound_bare map settings host)
    (Stage.awaits_of_idle rfl) (Stage.every_bare holds map settings host) acts

end Theatre

end Stagecraft
