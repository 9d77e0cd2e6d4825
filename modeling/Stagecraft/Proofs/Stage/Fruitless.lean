import Stagecraft.Proofs.Stage.Twins
import Stagecraft.Proofs.Stage.Undone
import Stagecraft.Session.Save

/-!
# Transitions that come to nothing

Marks and notes make no difference to what a stage does next. So a run goes on as
if the transitions that failed, or whose loads were dropped, had never been asked
for.
-/

namespace Stagecraft

namespace Theatre

/-! ## Runs without fruitless calls -/

/-- What an act shows: its answer and the notes that it adds. -/
structure Observation where
  answer : Answer
  notes : List Note

def observe (theatre : Theatre) (act : Act) : Observation :=
  ⟨(theatre.perform act).1,
    (theatre.perform act).2.stage.journal.toList.drop
      theatre.stage.journal.size⟩

def save (theatre : Theatre) : Save :=
  .ofSession theatre.game theatre.stage.activeIndex?
    theatre.stage.gameReferences

/-- A part of a run: one act, or the acts of a transition that comes to
nothing. -/
inductive Passage where
  | single (act : Act)
  | fruitless (order : Order) (acts : List Act)

/-- The acts of a part of a run. -/
def Passage.acts : Passage → List Act
  | .single act => [act]
  | .fruitless _ acts => acts

/-- Whether a part of a run is a single act. -/
def Passage.isSingle : Passage → Bool
  | .single _ => true
  | .fruitless _ _ => false

def play (theatre : Theatre) (passages : List Passage) : Theatre :=
  theatre.run (passages.flatMap Passage.acts)

/-- What the single acts of a series of passages show. -/
def observations (theatre : Theatre) : List Passage → List Observation
  | [] => []
  | .single act :: rest =>
      theatre.observe act :: (theatre.perform act).2.observations rest
  | .fruitless _ acts :: rest => (theatre.run acts).observations rest

/-- Whether all passages that are to be transitions that come to nothing are such
transitions. -/
def Lets (theatre : Theatre) : List Passage → Prop
  | [] => True
  | .single act :: rest => (theatre.perform act).2.Lets rest
  | .fruitless order acts :: rest =>
      (∃ restored, Fruitless order theatre acts restored) ∧
        (theatre.run acts).Lets rest

section Deletion

variable {left right : Theatre}

theorem Alike.observe
    (alike : left.Alike right) (act : Act) :
    left.observe act = right.observe act := by
  obtain ⟨sameAnswer, _, same⟩ := perform_alike alike act
  obtain ⟨notes, leftNotes, rightNotes⟩ := same.notes
  unfold Theatre.observe
  rw [sameAnswer, leftNotes, rightNotes]
  simp

theorem Alike.save (alike : left.Alike right) : left.save = right.save := by
  have related := alike.stage.activeScene?
  have sameReferences :
      left.stage.gameReferences = right.stage.gameReferences := by
    unfold Stage.gameReferences
    generalize left.stage.activeScene? = before at related ⊢
    generalize right.stage.activeScene? = after at related ⊢
    cases related with
    | none => rfl
    | some same => exact same.same Scene.gameReferences
  unfold Theatre.save
  rw [alike.game, alike.stage.activeIndex?, sameReferences]

/-- Marks and notes make no difference to what is alike. -/
theorem alike_of_undone
    (alike : left.Alike right) {order : Order} {restored : Bool}
    {after : Theatre} (sameGame : after.game = left.game)
    (idle : left.stage.flight = none)
    (undone : Undone order restored left.stage after.stage) :
    after.Alike right := by
  refine ⟨sameGame.trans alike.game, ?_⟩
  cases undone with
  | untouched _ _ same =>
      rw [same]
      exact alike.stage
  | marked _ _ marked =>
      obtain ⟨notes, same⟩ := marked
      have marked :=
        alike.stage.setActivity_left left.stage.active restored
      rw [same]
      exact ⟨marked.map, marked.settings, marked.arena, marked.host,
        marked.active, idle.symm.trans alike.stage.flight, #[], by simp,
        by simp⟩

/-- A run goes on as if transitions that come to nothing had never been asked
for. -/
theorem observations_eq
    (alike : left.Alike right) {passages : List Passage}
    (lets : left.Lets passages) :
    left.observations passages =
        right.observations (passages.filter Passage.isSingle) ∧
      (left.play passages).Alike
        (right.play (passages.filter Passage.isSingle)) := by
  induction passages generalizing left right with
  | nil =>
      exact ⟨rfl, alike⟩
  | cons passage rest inductionHypothesis =>
      cases passage with
      | single act =>
          obtain ⟨sameRest, alikeRest⟩ :=
            inductionHypothesis (alike.perform act) lets
          refine ⟨?_, alikeRest⟩
          show left.observe act :: _ = right.observe act :: _
          rw [alike.observe act, sameRest]
      | fruitless order acts =>
          obtain ⟨⟨restored, fruitless⟩, restLets⟩ := lets
          obtain ⟨sameGame, undone⟩ := undone_of_fruitless fruitless
          have still : (left.run acts).Alike right :=
            alike_of_undone alike sameGame (idle_of_fruitless fruitless)
              undone
          obtain ⟨sameRest, alikeRest⟩ := inductionHypothesis still restLets
          refine ⟨sameRest, ?_⟩
          have played :
              left.play (.fruitless order acts :: rest) =
                (left.run acts).play rest := by
            simp only [play, List.flatMap_cons, Passage.acts, run_append]
          rw [played]
          exact alikeRest

end Deletion

/-- In every idle state that a theatre can reach, a transition that fails, or
whose load is dropped, leaves everything as it was: the session, the host with its
nodes, the active scene, all sceneries and scenes. If the target is unknown nothing at
all is touched. Otherwise the active scene ends marked, or unmarked if somebody held on
to the state when the load failed or was dropped; and if that never happened before,
nothing has changed but the journal. In every state, the rest of a run goes on as if
such transitions had never been asked for. -/
theorem fruitless_transitions_invisible (map : SceneMap)
    (settings : StageSettings) (host : Host) (game : GameBank)
    (acts : List Act) :
    let theatre := (opening map settings host game).run acts
    (theatre.stage.isLoading = false →
      ∀ target force called restored,
        Fruitless (.goto target force) theatre called restored →
          let after := theatre.run called
          after.stage.isLoading = false ∧
            after.game = theatre.game ∧
            after.stage.active = theatre.stage.active ∧
            after.stage.host = theatre.stage.host ∧
            after.stage.arena.sceneries = theatre.stage.arena.sceneries ∧
            after.stage.arena.nextScene = theatre.stage.arena.nextScene ∧
            (∀ id, some id ≠ theatre.stage.active →
              after.stage.arena.scene? id = theatre.stage.arena.scene? id) ∧
            (map.kind? target = none → after.stage = theatre.stage) ∧
            ((map.kind? target).isSome →
              ∀ id, theatre.stage.active = some id →
                after.stage.arena.scene? id =
                  (theatre.stage.arena.scene? id).map
                    (Scene.withActive restored)) ∧
            (restored = true → (opening map settings host game).Minds acts →
              after.stage =
                { theatre.stage with journal := after.stage.journal })) ∧
      ∀ passages, theatre.Lets passages →
        let spared := passages.filter Passage.isSingle
        theatre.observations passages = theatre.observations spared ∧
          (theatre.play passages).Alike (theatre.play spared) ∧
          (theatre.play passages).save = (theatre.play spared).save := by
  intro theatre
  obtain ⟨cast?, sound⟩ := sound_reachable map settings host game acts
  have sameMap : theatre.stage.map = map := sound.map
  refine ⟨fun idle target force called restored fruitless => ?_,
    fun passages lets => ?_⟩
  · have noFlight := idle_of_fruitless fruitless
    obtain ⟨sameGame, undone⟩ := undone_of_fruitless fruitless
    refine ⟨isLoading_of_undone noFlight undone, sameGame,
      active_of_undone undone, host_of_undone undone,
      sceneries_of_undone undone, nextScene_of_undone undone,
      fun id => scene?_of_undone undone, ?unknown, ?marks, ?same⟩
    case unknown =>
      rw [← sameMap]
      exact eq_of_undone_unknown undone
    case marks =>
      rw [← sameMap]
      exact fun isKnown id => scene?_active_of_undone undone isKnown
    case same =>
      intro isRestored minds
      subst isRestored
      have lit : theatre.stage.Lit :=
        lit_run (Stage.sound_bare map settings host)
          (Stage.lit_bare map settings host) minds
      exact eq_of_undone_lit undone lit noFlight
  · obtain ⟨sameShown, alike⟩ :=
      observations_eq (Alike.refl theatre) lets
    exact ⟨sameShown, alike, alike.save⟩

/-- A source that keeps every load waiting once at each fetch. -/
def slowSource : Source :=
  { bareSource with pauses := fun _ _ => 1 }

/-- A load of the active scene that is begun and dropped again. -/
def droppedReload (held : Bool) : List Act :=
  [.begin slowSource (.goto 0 true), .abandon held]

/-- The drop of a reload leaves the pair of scenes as it was but for the journal, and a
tick after it shows what it would have shown before. -/
theorem fruitless_transitions_invisible_pair :
    pair.stage.isLoading = false ∧
      Fruitless (.goto 0 true) pair (droppedReload false) true ∧
      (pair.run (droppedReload false)).stage =
        { pair.stage with
          journal := (pair.run (droppedReload false)).stage.journal } ∧
      pair.observations
          [.fruitless (.goto 0 true) (droppedReload false), .single .tick] =
        pair.observations [.single .tick] := by
  have idle : pair.stage.isLoading = false := by decide
  have fruitless :
      Fruitless (.goto 0 true) pair (droppedReload false) true :=
    .lost rfl (.drops false)
  obtain ⟨invisible, spared⟩ :=
    fruitless_transitions_invisible pairMap ⟨"", false, 0⟩ Host.quiet
      ⟨#[], []⟩ [.begin bareSource (.goto 0 false)]
  obtain ⟨_, _, _, _, _, _, _, _, _, same⟩ :=
    invisible idle 0 true (droppedReload false) true fruitless
  obtain ⟨sameShown, _⟩ :=
    spared
      [.fruitless (.goto 0 true) (droppedReload false), .single .tick]
      ⟨⟨true, fruitless⟩, trivial⟩
  exact ⟨idle, fruitless, same rfl ⟨by simp [Act.isHeld], trivial⟩, sameShown⟩

def emptySource : Source where
  answer _ := .error (.unavailable "content" "lost")
  pauses _ _ := 0

/-- Not every transition that fails leaves the active scene marked. After a drop while
somebody held on to the state, one to an unknown scene does not mark it again, and a
load that fails at a poll while somebody holds on to the state leaves it unmarked. -/
theorem failures_leave_unmarked :
    (let theatre := pair.run (droppedReload true)
      let performed := theatre.perform (.go bareSource (.goto 99 false))
      theatre.stage.isLoading = false ∧
        performed.1 = .settled (.error (.unknownScene 99)) ∧
        performed.2.stage.active = some 0 ∧
        (performed.2.stage.arena.scene? 0).map Scene.active = some false) ∧
      let theatre := pair.run [.begin slowSource (.goto 0 true)]
      let performed := theatre.perform (.poll true emptySource)
      pair.stage.isLoading = false ∧
        (pair.stage.arena.scene? 0).map Scene.active = some true ∧
        performed.1 =
          .polled (some (.over (.error (.unavailable "content" "lost")))) ∧
        performed.2.stage.isLoading = false ∧
        performed.2.stage.active = some 0 ∧
        (performed.2.stage.arena.scene? 0).map Scene.active = some false := by
  refine ⟨⟨by decide, rfl, by decide, by decide⟩, ?_⟩
  exact ⟨by decide, by decide, rfl, by decide, by decide, by decide⟩

end Theatre

end Stagecraft
