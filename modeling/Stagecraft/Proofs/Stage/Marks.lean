import Stagecraft.Proofs.Stage.Reachable

/-!
# The mark of the active scene

As long as no load fails or is dropped while somebody holds on to the stage, the
active scene is marked as active just when no load is under way.
-/

namespace Stagecraft

/-- Whether the scene of an id, if there is one, has a mark. -/
def Arena.Marks (active : Bool) (id : SceneId) (arena : Arena) : Prop :=
  ∀ scene, arena.scene? id = some scene → scene.active = active

theorem Arena.marks_withActive (arena : Arena) (id : SceneId)
    (active : Bool) :
    (arena.modifyScene id (Scene.withActive active)).Marks active id := by
  intro scene found
  rw [scene?_modifyScene, if_pos rfl, Option.map_eq_some_iff] at found
  obtain ⟨before, _, rfl⟩ := found
  rfl

theorem Arena.Marks.modifyScene
    {active : Bool} {id : SceneId} {arena : Arena}
    (marks : arena.Marks active id) (changed : SceneId)
    {change : Scene → Scene}
    (keeps : ∀ scene, arena.scene? changed = some scene →
      (change scene).active = scene.active) :
    (arena.modifyScene changed change).Marks active id := by
  intro scene found
  rw [scene?_modifyScene] at found
  by_cases own : id = changed
  · subst own
    rw [if_pos rfl, Option.map_eq_some_iff] at found
    obtain ⟨before, was, rfl⟩ := found
    rw [keeps before was]
    exact marks before was
  · rw [if_neg own] at found
    exact marks scene found

namespace Stage

/-- Whether the active scene is marked as active just when no load is under
way. -/
def Lit (stage : Stage) : Prop :=
  ∀ id, stage.active = some id → stage.arena.Marks (!stage.isLoading) id

variable {stage after : Stage}

theorem lit_bare (map : SceneMap) (settings : StageSettings)
    (host : Host) :
    (bare map settings host).Lit :=
  fun id isActive => by simp [bare] at isActive

/-! ## Parts of transitions -/

theorem Lit.of_same
    (lit : stage.Lit) (arena : after.arena = stage.arena)
    (active : after.active = stage.active)
    (flight : after.flight = stage.flight) :
    after.Lit := by
  intro id isActive
  rw [arena, isLoading, flight]
  exact lit id (active.symm.trans isActive)

theorem Lit.of_sameScenes
    (lit : stage.Lit) (same : stage.SameScenes after) :
    after.Lit :=
  lit.of_same same.arena same.active same.flight

/-- An idle stage whose active scene has just been marked is lit. -/
theorem lit_of_mark
    {id : SceneId} (idle : after.flight = none)
    (active : after.active = some id)
    (marks : after.arena.Marks true id) :
    after.Lit := by
  intro other isActive
  obtain rfl : id = other := Option.some.inj (active.symm.trans isActive)
  rw [isLoading, idle]
  exact marks

theorem lit_of_inactive (inactive : after.active = none) : after.Lit :=
  fun id isActive => by simp [inactive] at isActive

/-- Marking the active scene of an idle stage. -/
theorem lit_setActivity (idle : stage.flight = none) :
    (stage.setActivity stage.active true).Lit := by
  cases active : stage.active with
  | none => exact lit_of_inactive active
  | some id =>
      exact lit_of_mark idle active (stage.arena.marks_withActive id true)

theorem lit_enter (idle : stage.flight = none) (id : SceneId) :
    (stage.enter id).Lit := by
  have sameFlight := (sameSetting_enter stage id).flight
  exact lit_of_mark (sameFlight.trans idle) rfl
    (Arena.marks_withActive _ id true)

theorem lit_swap (idle : stage.flight = none)
    (outgoing incoming : SceneId) :
    (stage.swap outgoing incoming).Lit := by
  have leftIdle :=
    (sameSetting_leave stage outgoing).flight.trans idle
  unfold swap
  generalize stage.leave outgoing = left at leftIdle ⊢
  have promotedIdle : (left.promote outgoing incoming).flight = none :=
    leftIdle
  have entered := lit_enter promotedIdle incoming
  exact entered.of_sameScenes (sameScenes_resumeActiveMusic _)

theorem lit_activate
    {id : SceneId} {scene : Scene} (idle : stage.flight = none)
    (found : stage.arena.scene? id = some scene) :
    (stage.activate id).Lit := by
  have chosen :
      Lit { stage.setActivity (some id) true with active := some id } :=
    lit_of_mark idle rfl (stage.arena.marks_withActive id true)
  simp only [activate, found]
  exact ((chosen.of_sameScenes (sameScenes_present _ scene)).of_sameScenes
    (sameScenes_resumeMusic _ _)).of_sameScenes (sameScenes_call _ _)

theorem lit_replace
    {cast? : Option Cast} (houses : stage.Houses cast?)
    (idle : stage.flight = none) {target : SceneIndex}
    {loaded : LoadedFamily} (fits : loaded.Fits stage.map target) :
    (stage.replace stage.active loaded).Lit := by
  have clearedIdle :=
    (sameSetting_clear stage stage.active).flight.trans idle
  obtain ⟨main, found, _⟩ := (fills_attach houses fits).mainScene
  exact lit_activate clearedIdle found

/-! ## Transitions -/

variable {map : SceneMap} {cast? : Option Cast} {flight : Flight}
  {source : Source}

/-- Setting out leaves the stage lit, unless it begins a load. -/
theorem lit_departs
    (lit : stage.Lit) {game : GameBank} {target : SceneIndex}
    {force : Bool} {result : Except LoadError Outcome}
    (departs : stage.Departs game target force (.done result after)) :
    after.Lit := by
  cases departs with
  | ignored busy => exact lit
  | unknown idle wanted missing => exact lit
  | @swapped idle wanted kind known outgoing incoming side =>
      exact lit_swap idle outgoing incoming

theorem lit_lands
    (houses : stage.Houses cast?) (suits : flight.Suits stage)
    (journal : Journal) {loaded : LoadedFamily}
    (fits : loaded.Fits stage.map flight.target) :
    ({ stage with journal := journal, flight := none }.replace
      flight.previous loaded).Lit := by
  have landed :
      Houses { stage with journal := journal, flight := none } cast? :=
    houses.of_same rfl rfl rfl
  rw [suits.previous]
  exact lit_replace landed rfl fits

theorem lit_release (suits : flight.Suits stage) :
    (stage.release false flight).Lit := by
  have idle : ({ stage with flight := none } : Stage).flight = none := rfl
  simp only [release, Bool.false_eq_true, if_false, suits.previous]
  exact lit_setActivity idle

/-- Whether a load has come to nothing. -/
def Course.misses : Course → Bool
  | .done (.ok _) _ => false
  | .done (.error _) _ => true
  | .away _ _ => false
  | .panicked _ => true

theorem Course.misses_of_transition {course : Course} {error : LoadError}
    (told : course.transition.1 = .over (.error error)) :
    course.misses = true := by
  rcases course with ⟨_ | _, _⟩ | _ | _ <;> simp_all [transition, misses]

/-- The active scene rests on a stage that waits for a load. -/
def Rests (stage : Stage) : Prop :=
  ∀ id, stage.active = some id → stage.arena.Marks false id

theorem rests_setActivity (stage : Stage) :
    (stage.setActivity stage.active false).Rests := by
  intro id isActive
  rw [setActivity_active] at isActive
  rw [isActive]
  exact stage.arena.marks_withActive id false

theorem Lit.rests (lit : stage.Lit) (under : stage.flight = some flight) :
    stage.Rests := by
  intro id isActive
  have marks := lit id isActive
  rw [isLoading, under] at marks
  exact marks

theorem Fares.lit {held : Bool} {arrival : Option LoadedFamily}
    {course : Course} (fares : stage.Fares held flight arrival course)
    (houses : stage.Houses cast?) (suits : flight.Suits stage)
    (rests : stage.Rests) (kept : held = false ∨ course.misses = false) :
    course.stage.Lit := by
  cases fares with
  | waits still => exact rests
  | lands returned => exact lit_lands houses suits _ (returned suits.returns)
  | fails | panics =>
      obtain rfl | found := kept
      · exact lit_release ⟨suits.previous, suits.returns⟩
      · simp [Course.misses] at found

/-! ## Ticks and resets -/

theorem lit_changeScene
    (lit : stage.Lit) (changed : SceneId)
    {change : Scene → NodeTree → Scene × NodeTree}
    (activity : ∀ (scene : Scene) nodes,
      (change scene nodes).1.active = scene.active) :
    (stage.changeScene changed change).Lit := by
  have same := sameSetting_changeScene stage changed change
  intro id isActive
  rw [changeScene_active] at isActive
  rw [changeScene_arena, isLoading, same.flight]
  exact (lit id isActive).modifyScene changed fun scene _ =>
    activity scene _

theorem lit_tick (lit : stage.Lit) (game : GameBank) :
    (stage.tick game).2.2.Lit := by
  have ticks := stage.ticks game
  generalize (stage.tick game).2.2 = after at ticks
  cases ticks with
  | idles => exact lit
  | @plays id scene active found =>
      intro other isActive
      refine (lit other isActive).modifyScene id fun stored storedFound => ?_
      obtain rfl : stored = scene :=
        Option.some.inj (storedFound.symm.trans found)
      rfl

theorem lit_reset (lit : stage.Lit) : stage.reset.2.Lit := by
  have resets := stage.resets
  generalize stage.reset.2 = after at resets
  cases resets with
  | idles => exact lit
  | @restores id _ active same =>
      have restored : (stage.changeScene id resetScene).Lit :=
        lit_changeScene lit id fun _ _ => rfl
      exact restored.of_sameScenes same

theorem lit_unload (lit : stage.Lit) : stage.unload.2.Lit := by
  unfold unload
  by_cases loading : stage.isLoading = true
  · rw [if_pos loading]
    exact lit
  · rw [if_neg loading]
    cases stage.active with
    | none => exact lit
    | some id => exact lit_of_inactive rfl

end Stage

/-! ## Acts -/

theorem Order.lit_depart
    {stage after : Stage} (lit : stage.Lit) {order : Order}
    {game : GameBank} {result : Except LoadError Outcome}
    (left : order.depart game stage = .done result after) :
    after.Lit := by
  have departs := order.departs game stage
  rw [left] at departs
  cases departs with
  | nowhere aimless => exact lit
  | towards aim departs => exact Stage.lit_departs lit departs

theorem Order.rests_of_depart
    {stage after : Stage} {order : Order} {game : GameBank}
    {flight : Flight}
    (left : order.depart game stage = .away flight after) :
    after.Rests := by
  have departs := order.departs game stage
  rw [left] at departs
  cases departs with
  | towards aim departs =>
      cases departs with
      | away idle wanted known apart => exact stage.rests_setActivity

/-- Whether an act goes to a load while somebody holds on to the state. -/
def Act.isHeld : Act → Bool
  | .poll held _ => held
  | .abandon held => held
  | _ => false

/-- Whether an answer tells that a load has come to nothing. -/
def Answer.misses : Answer → Bool
  | .polled (some (.over (.error _))) => true
  | .polled (some .panicked) => true
  | .abandoned wasLoading => wasLoading
  | _ => false

@[simp]
theorem Answer.misses_polled (course : Stage.Course) :
    (Answer.polled (some course.transition.1)).misses = course.misses := by
  rcases course with ⟨_ | _, _⟩ | _ | _ <;> rfl

namespace Theatre

/-- Whether no load comes to nothing in a series of acts while somebody holds on to
the state. -/
def Minds (theatre : Theatre) : List Act → Prop
  | [] => True
  | act :: rest =>
      ¬ (act.isHeld = true ∧ (theatre.perform act).1.misses = true) ∧
        (theatre.perform act).2.Minds rest

variable {map : SceneMap} {cast? : Option Cast} {theatre : Theatre}

theorem Performs.lit {act : Act} {answer : Answer}
    {arrival : Option LoadedFamily} {after : Stage}
    (performs : theatre.Performs act answer arrival after)
    (sound : theatre.stage.Sound map cast?) (lit : theatre.stage.Lit)
    (minds : ¬ (act.isHeld = true ∧ answer.misses = true)) :
    after.Lit := by
  cases performs with
  | atOnce left tells => exact Order.lit_depart lit left
  | @leaves _ _ order flight _ _ _ left fares tells =>
      obtain ⟨left?, soundNow, _, suits⟩ :=
        order.sound_depart sound theatre.game
      rw [left] at soundNow suits
      exact fares.lit soundNow.houses (suits flight rfl)
        (Order.rests_of_depart left) (.inl rfl)
  | @goesOn held _ _ _ course under fares =>
      refine fares.lit sound.houses (sound.suits _ under) (lit.rests under) ?_
      cases held with
      | false => exact .inl rfl
      | true =>
          refine .inr (Bool.eq_false_iff.mpr fun missed => minds ⟨rfl, ?_⟩)
          rw [Answer.misses_polled, missed]
  | @releases held _ under =>
      cases held with
      | true => exact absurd ⟨rfl, rfl⟩ minds
      | false => exact Stage.lit_release (sound.suits _ under)
  | ticks => exact Stage.lit_tick lit theatre.game
  | resets => exact Stage.lit_reset lit
  | unloads => exact Stage.lit_unload lit
  | asks | unpolled | unreleased | changes => exact lit

/-- A series of acts keeps the stage lit, unless a load comes to nothing while somebody
holds on to the state. -/
theorem lit_run
    (sound : theatre.stage.Sound map cast?) (lit : theatre.stage.Lit)
    {acts : List Act} (minds : theatre.Minds acts) :
    (theatre.run acts).stage.Lit := by
  induction acts generalizing theatre cast? with
  | nil => exact lit
  | cons act rest inductionHypothesis =>
      obtain ⟨next?, soundNext, _⟩ := sound_perform sound act
      exact inductionHypothesis soundNext
        ((theatre.performs act).lit sound lit minds.1) minds.2

end Theatre

end Stagecraft
