import Stagecraft.Proofs.Loading.Tickets
import Stagecraft.Proofs.Stage.Courses
import Stagecraft.Proofs.Stage.Likeness
import Stagecraft.Stage.Theatre

/-!
# Stages that are alike

Two stages are alike since two moments of their journals if they differ at most in
which scenes are marked as active, and if the same notes were added since then.
Whatever the caller does next, alike stages give the same answers and stay alike.
-/

namespace Stagecraft

/-- Whether two stages differ at most in the marks of active scenes and in what
their journals held at the start. -/
structure Stage.Alike (leftStart rightStart : Journal)
    (left right : Stage) : Prop where
  map : left.map = right.map
  settings : left.settings = right.settings
  arena : left.arena.Alike right.arena
  host : left.host = right.host
  active : left.active = right.active
  flight : left.flight = right.flight
  notes : ∃ notes : Journal, left.journal = leftStart ++ notes ∧
    right.journal = rightStart ++ notes

namespace Stage.Alike

variable {leftStart rightStart : Journal} {left right : Stage}

/-! ## Looking -/

theorem isLoading
    (alike : left.Alike leftStart rightStart right) :
    left.isLoading = right.isLoading := by
  rw [Stage.isLoading, alike.flight, Stage.isLoading]

theorem activeScene?
    (alike : left.Alike leftStart rightStart right) :
    Option.Rel Scene.Alike left.activeScene? right.activeScene? := by
  unfold Stage.activeScene?
  rw [alike.active]
  cases right.active with
  | none => exact .none
  | some id => exact alike.arena.scenes id

theorem activeIndex?
    (alike : left.Alike leftStart rightStart right) :
    left.activeIndex? = right.activeIndex? := by
  have related := alike.activeScene?
  unfold Stage.activeIndex?
  generalize left.activeScene? = before at related ⊢
  generalize right.activeScene? = after at related ⊢
  cases related with
  | none => rfl
  | some same => exact congrArg some same.index

theorem sideTarget?
    (alike : left.Alike leftStart rightStart right) (target : SceneIndex) :
    left.sideTarget? target = right.sideTarget? target := by
  unfold Stage.sideTarget?
  rw [alike.active]
  cases right.active with
  | none => rfl
  | some id =>
      have related := alike.arena.scenes id
      dsimp only [Option.bind_eq_bind, Option.bind_some]
      generalize left.arena.scene? id = before at related ⊢
      generalize right.arena.scene? id = after at related ⊢
      cases related with
      | none => rfl
      | some same => simp only [Option.bind_some, Scene.side?, same.sides]

/-! ## Small changes -/

theorem note
    (alike : left.Alike leftStart rightStart right) (entry : Note) :
    (left.note entry).Alike leftStart rightStart (right.note entry) := by
  obtain ⟨notes, leftNotes, rightNotes⟩ := alike.notes
  refine ⟨alike.map, alike.settings, alike.arena, alike.host, alike.active,
    alike.flight, notes.push entry, ?_, ?_⟩
  · rw [Stage.note, leftNotes, Array.push_append]
  · rw [Stage.note, rightNotes, Array.push_append]

theorem call
    (alike : left.Alike leftStart rightStart right) (hostCall : HostCall) :
    (left.call hostCall).Alike leftStart rightStart
      (right.call hostCall) := by
  have noted := alike.note (.call hostCall)
  exact ⟨alike.map, alike.settings, alike.arena,
    congrArg (Host.perform · hostCall) alike.host, alike.active,
    alike.flight, noted.notes⟩

theorem calls
    (alike : left.Alike leftStart rightStart right)
    (hostCalls : List HostCall) :
    (hostCalls.foldl Stage.call left).Alike leftStart rightStart
      (hostCalls.foldl Stage.call right) := by
  induction hostCalls generalizing left right with
  | nil =>
      exact alike
  | cons first rest inductionHypothesis =>
      exact inductionHypothesis (alike.call first)

theorem changeNodes
    (alike : left.Alike leftStart rightStart right)
    (change : NodeTree → NodeTree) :
    (left.changeNodes change).Alike leftStart rightStart
      (right.changeNodes change) :=
  ⟨alike.map, alike.settings, alike.arena,
    congrArg
      (fun host : Host => { host with nodes := change host.nodes })
      alike.host,
    alike.active, alike.flight, alike.notes⟩

theorem withArena
    (alike : left.Alike leftStart rightStart right)
    {leftArena rightArena : Arena} (arena : leftArena.Alike rightArena) :
    Stage.Alike leftStart rightStart { left with arena := leftArena }
      { right with arena := rightArena } :=
  ⟨alike.map, alike.settings, arena, alike.host, alike.active, alike.flight,
    alike.notes⟩

theorem withActive
    (alike : left.Alike leftStart rightStart right)
    (active : Option SceneId) :
    Stage.Alike leftStart rightStart { left with active := active }
      { right with active := active } :=
  ⟨alike.map, alike.settings, alike.arena, alike.host, rfl, alike.flight,
    alike.notes⟩

theorem withFlight
    (alike : left.Alike leftStart rightStart right)
    (flight : Option Flight) :
    Stage.Alike leftStart rightStart { left with flight := flight }
      { right with flight := flight } :=
  ⟨alike.map, alike.settings, alike.arena, alike.host, alike.active, rfl,
    alike.notes⟩

theorem withNotes
    (alike : left.Alike leftStart rightStart right) (notes : Journal) :
    Stage.Alike leftStart rightStart
      { left with journal := leftStart ++ notes }
      { right with journal := rightStart ++ notes } :=
  ⟨alike.map, alike.settings, alike.arena, alike.host, alike.active,
    alike.flight, notes, rfl, rfl⟩

theorem setActivity
    (alike : left.Alike leftStart rightStart right) (id : Option SceneId)
    (active : Bool) :
    (left.setActivity id active).Alike leftStart rightStart
      (right.setActivity id active) := by
  cases id with
  | none => exact alike
  | some id =>
      exact alike.withArena (alike.arena.modifyScene id fun _ _ same =>
        (same.withActive_left active).withActive_right active)

/-- Marks of active scenes make no difference. -/
theorem setActivity_left
    (alike : left.Alike leftStart rightStart right) (id : Option SceneId)
    (active : Bool) :
    (left.setActivity id active).Alike leftStart rightStart right := by
  cases id with
  | none => exact alike
  | some id =>
      exact alike.withArena (alike.arena.setActivity_left id active)

end Stage.Alike

/-- Whether a change of scenes neither sees nor touches the mark of an active
scene. -/
def Scene.Blind (change : Scene → NodeTree → Scene × NodeTree) : Prop :=
  ∀ scene nodes active,
    change (scene.withActive active) nodes =
      ((change scene nodes).1.withActive active, (change scene nodes).2)

namespace Stage.Alike

variable {leftStart rightStart : Journal} {left right : Stage}

theorem changeScene
    (alike : left.Alike leftStart rightStart right) (id : SceneId)
    {change : Scene → NodeTree → Scene × NodeTree}
    (blind : Scene.Blind change) :
    (left.changeScene id change).Alike leftStart rightStart
      (right.changeScene id change) := by
  have related := alike.arena.scenes id
  unfold Stage.changeScene
  generalize left.arena.scene? id = before at related ⊢
  generalize right.arena.scene? id = after at related ⊢
  cases related with
  | none => exact alike
  | @some leftScene rightScene same =>
      have changed :=
        blind rightScene right.host.nodes leftScene.active
      rw [← same.eq_withActive] at changed
      dsimp only
      rw [alike.host, changed]
      have sameChange :
          ((change rightScene right.host.nodes).1.withActive
            leftScene.active).Alike (change rightScene right.host.nodes).1 :=
        Scene.Alike.withActive_left (Scene.Alike.refl _) _
      exact ⟨alike.map, alike.settings,
        alike.arena.modifyScene id fun _ _ _ => sameChange, rfl,
        alike.active, alike.flight, alike.notes⟩

theorem blind_changeProtagonist
    (change : Actor → NodeTree → Actor × NodeTree) :
    Scene.Blind fun scene => scene.changeProtagonist change := by
  intro scene nodes active
  cases listed : scene.actors with
  | nil => simp only [Scene.changeProtagonist, Scene.withActive, listed]
  | cons actor others =>
      simp only [Scene.changeProtagonist, Scene.withActive, listed]

theorem blind_resetScene : Scene.Blind resetScene :=
  fun _ _ _ => rfl

/-! ## Parts of transitions -/

theorem resumeMusic
    (alike : left.Alike leftStart rightStart right) (track : UInt16) :
    (left.resumeMusic track).Alike leftStart rightStart
      (right.resumeMusic track) := by
  unfold Stage.resumeMusic
  rw [alike.host]
  exact alike.calls _

theorem resumeActiveMusic
    (alike : left.Alike leftStart rightStart right) :
    left.resumeActiveMusic.Alike leftStart rightStart
      right.resumeActiveMusic := by
  have related := alike.activeScene?
  unfold Stage.resumeActiveMusic
  generalize left.activeScene? = before at related ⊢
  generalize right.activeScene? = after at related ⊢
  cases related with
  | none => exact alike
  | some same =>
      dsimp only
      rw [same.ambience]
      exact alike.resumeMusic _

theorem leave
    (alike : left.Alike leftStart rightStart right) (id : SceneId) :
    (left.leave id).Alike leftStart rightStart (right.leave id) :=
  (alike.changeScene id (blind_changeProtagonist Actor.kill)).setActivity
    (some id) false

theorem promote
    (alike : left.Alike leftStart rightStart right)
    (outgoing incoming : SceneId) :
    (left.promote outgoing incoming).Alike leftStart rightStart
      (right.promote outgoing incoming) :=
  alike.withArena (alike.arena.promote outgoing incoming)

theorem enter
    (alike : left.Alike leftStart rightStart right) (id : SceneId) :
    (left.enter id).Alike leftStart rightStart (right.enter id) := by
  have awake :=
    (alike.changeScene id (blind_changeProtagonist Actor.revive)).setActivity
      (some id) true
  exact awake.withActive (some id)

theorem swap
    (alike : left.Alike leftStart rightStart right)
    (outgoing incoming : SceneId) :
    (left.swap outgoing incoming).Alike leftStart rightStart
      (right.swap outgoing incoming) :=
  (((alike.leave outgoing).promote outgoing incoming).enter
    incoming).resumeActiveMusic

theorem present
    (alike : left.Alike leftStart rightStart right)
    {leftScene rightScene : Scene} (same : leftScene.Alike rightScene) :
    (left.present leftScene).Alike leftStart rightStart
      (right.present rightScene) := by
  unfold Stage.present
  rw [same.root, same.scenery, alike.arena.scenery?]
  have rooted :=
    alike.changeNodes (·.setActiveRoot (some rightScene.root))
  split
  · exact rooted.changeNodes _
  · exact rooted

theorem activate
    (alike : left.Alike leftStart rightStart right) (id : SceneId) :
    (left.activate id).Alike leftStart rightStart (right.activate id) := by
  have related := alike.arena.scenes id
  unfold Stage.activate
  generalize left.arena.scene? id = before at related ⊢
  generalize right.arena.scene? id = after at related ⊢
  cases related with
  | none => exact alike
  | some same =>
      have chosen := (alike.setActivity (some id) true).withActive (some id)
      dsimp only
      rw [same.index, same.protagonist?, same.ambience]
      exact ((chosen.present same).resumeMusic _).call _

theorem removeFamily
    (alike : left.Alike leftStart rightStart right) (id : SceneId) :
    (left.removeFamily id).Alike leftStart rightStart
      (right.removeFamily id) := by
  obtain ⟨sameArena, sameNodes⟩ :=
    alike.arena.removeFamily id right.host.nodes
  unfold Stage.removeFamily
  rw [alike.host]
  refine ⟨alike.map, alike.settings, sameArena, ?_, alike.active,
    alike.flight, alike.notes⟩
  dsimp only
  rw [sameNodes]

theorem clear
    (alike : left.Alike leftStart rightStart right)
    (previous : Option SceneId) :
    (left.clear previous).Alike leftStart rightStart
      (right.clear previous) := by
  cases previous with
  | none => exact alike
  | some id => exact alike.removeFamily id

theorem attach
    (alike : left.Alike leftStart rightStart right)
    (loaded : LoadedFamily) :
    (left.attach loaded).Alike leftStart rightStart
      (right.attach loaded) := by
  obtain ⟨sameArena, sameNodes⟩ :=
    alike.arena.family right.settings.editorMarkers loaded right.host.nodes
  unfold Stage.attach
  rw [alike.host, alike.settings]
  refine ⟨alike.map, rfl, sameArena, ?_, alike.active,
    alike.flight, alike.notes⟩
  dsimp only
  rw [sameNodes]

theorem replace
    (alike : left.Alike leftStart rightStart right)
    (previous : Option SceneId) (loaded : LoadedFamily) :
    (left.replace previous loaded).Alike leftStart rightStart
      (right.replace previous loaded) := by
  have cleared := alike.clear previous
  unfold Stage.replace
  generalize left.clear previous = leftCleared at cleared ⊢
  generalize right.clear previous = rightCleared at cleared ⊢
  dsimp only
  rw [cleared.arena.nextScene]
  exact (cleared.attach loaded).activate _

theorem land
    (alike : left.Alike leftStart rightStart right) (flight : Flight)
    (loaded : LoadedFamily) :
    (left.land flight loaded).Alike leftStart rightStart
      (right.land flight loaded) :=
  (alike.withFlight none).replace flight.previous loaded

theorem release
    (alike : left.Alike leftStart rightStart right) (held : Bool)
    (flight : Flight) :
    (left.release held flight).Alike leftStart rightStart
      (right.release held flight) := by
  have landed := alike.withFlight none
  unfold Stage.release
  cases held with
  | true =>
      cases flight.previous with
      | none => exact landed
      | some id => exact landed.note _
  | false => exact landed.setActivity flight.previous true

theorem miss
    (alike : left.Alike leftStart rightStart right) (held : Bool)
    (flight : Flight) (error : LoadError) :
    (left.miss held flight error).Alike leftStart rightStart
      (right.miss held flight error) :=
  (alike.note _).release held flight

theorem conclude
    (alike : left.Alike leftStart rightStart right) (flight : Flight)
    (result : Except LoadError LoadedFamily) :
    (left.conclude flight result).1 = (right.conclude flight result).1 ∧
      (left.conclude flight result).2.Alike leftStart rightStart
        (right.conclude flight result).2 := by
  cases result with
  | ok loaded => exact ⟨rfl, alike.land flight loaded⟩
  | error error => exact ⟨rfl, alike.miss false flight error⟩

end Stage.Alike

/-! ## Transitions -/

/-- Whether two courses are the same but for stages that are alike. -/
inductive Stage.Course.Alike (leftStart rightStart : Journal) :
    Stage.Course → Stage.Course → Prop where
  | done (result : Except LoadError Outcome) {left right : Stage}
      (alike : left.Alike leftStart rightStart right) :
      Alike leftStart rightStart (.done result left) (.done result right)
  | away (flight : Flight) {left right : Stage}
      (alike : left.Alike leftStart rightStart right) :
      Alike leftStart rightStart (.away flight left) (.away flight right)
  | panicked {left right : Stage}
      (alike : left.Alike leftStart rightStart right) :
      Alike leftStart rightStart (.panicked left) (.panicked right)

/-- Whether two departures are the same but for stages that are alike. -/
inductive Stage.Departure.Alike (leftStart rightStart : Journal) :
    Stage.Departure → Stage.Departure → Prop where
  | done (result : Except LoadError Outcome) {left right : Stage}
      (alike : left.Alike leftStart rightStart right) :
      Alike leftStart rightStart (.done result left) (.done result right)
  | away (flight : Flight) {left right : Stage}
      (alike : left.Alike leftStart rightStart right) :
      Alike leftStart rightStart (.away flight left) (.away flight right)

namespace Stage.Course.Alike

variable {leftStart rightStart : Journal} {left right : Stage.Course}

theorem transition
    (alike : left.Alike leftStart rightStart right) :
    left.transition.1 = right.transition.1 ∧
      left.transition.2.Alike leftStart rightStart right.transition.2 := by
  cases alike with
  | done result same => exact ⟨rfl, same⟩
  | away flight same => exact ⟨rfl, same⟩
  | panicked same => exact ⟨rfl, same⟩

end Stage.Course.Alike

namespace Stage.Alike

variable {leftStart rightStart : Journal} {left right : Stage}

theorem verdict?
    (alike : left.Alike leftStart rightStart right) (target : SceneIndex)
    (force : Bool) :
    left.verdict? target force = right.verdict? target force := by
  unfold Stage.verdict?
  rw [alike.isLoading, alike.activeIndex?, alike.map]

theorem depart
    (alike : left.Alike leftStart rightStart right) (game : GameBank)
    (target : SceneIndex) (force : Bool) :
    (left.depart game target force).Alike leftStart rightStart
      (right.depart game target force) := by
  have sameLoad : left.loadOf game target = right.loadOf game target := by
    rw [Stage.loadOf, alike.map, alike.settings, Stage.loadOf]
  unfold Stage.depart
  rw [alike.verdict?, alike.sideTarget?, sameLoad, alike.active]
  split
  · exact .done _ alike
  · split
    · exact .done _ (alike.swap _ _)
    · exact .away _ (alike.setActivity _ _)

/-- A load under way goes on in the same way. -/
theorem fly
    (alike : left.Alike leftStart rightStart right) (held : Bool)
    (source : Source) (flight : Flight) :
    (left.fly held (source.since leftStart.size) flight).Alike leftStart
      rightStart (right.fly held (source.since rightStart.size) flight) := by
  obtain ⟨notes, leftNotes, rightNotes⟩ := alike.notes
  unfold Stage.fly
  -- Both polls are one poll whose journal holds only the notes since the start.
  rw [leftNotes, rightNotes, Task.poll_since, Task.poll_since]
  cases flight.task.poll source notes with
  | mk progress after =>
      have polled := alike.withNotes after
      cases progress with
      | pending rest => exact .away _ (polled.withFlight _)
      | failed error => exact .done _ (polled.miss held flight error)
      | finished loaded =>
          cases held with
          | false => exact .done _ (polled.land flight loaded)
          | true => exact .panicked (polled.release true flight)

/-- So does a load that runs to its end. -/
theorem settle
    (alike : left.Alike leftStart rightStart right) (source : Source)
    (flight : Flight) :
    let leftSettled :=
      flight.task.settle (source.since leftStart.size) left.journal
    let rightSettled :=
      flight.task.settle (source.since rightStart.size) right.journal
    let leftEnded :=
      { left with journal := leftSettled.2 }.conclude flight leftSettled.1
    let rightEnded :=
      { right with journal := rightSettled.2 }.conclude flight rightSettled.1
    leftEnded.1 = rightEnded.1 ∧
      leftEnded.2.Alike leftStart rightStart rightEnded.2 := by
  obtain ⟨notes, leftNotes, rightNotes⟩ := alike.notes
  rw [leftNotes, rightNotes, Task.settle_since, Task.settle_since]
  exact (alike.withNotes _).conclude flight _

/-! ## Ticks, resets and unloading -/

theorem appendNotes
    (alike : left.Alike leftStart rightStart right) (added : Journal) :
    ∃ notes : Journal, left.journal ++ added = leftStart ++ notes ∧
      right.journal ++ added = rightStart ++ notes := by
  obtain ⟨notes, leftNotes, rightNotes⟩ := alike.notes
  refine ⟨notes ++ added, ?_, ?_⟩
  · rw [leftNotes, Array.append_assoc]
  · rw [rightNotes, Array.append_assoc]

theorem tickScene
    (alike : left.Alike leftStart rightStart right) (game : GameBank)
    (id : SceneId) {leftScene rightScene : Scene}
    (same : leftScene.Alike rightScene) :
    (left.tickScene game id leftScene).1 =
        (right.tickScene game id rightScene).1 ∧
      (left.tickScene game id leftScene).2.1 =
        (right.tickScene game id rightScene).2.1 ∧
      (left.tickScene game id leftScene).2.2.Alike leftStart rightStart
        (right.tickScene game id rightScene).2.2 := by
  have samePlay :
      playOf leftScene game right.host.nodes =
        playOf rightScene game right.host.nodes :=
    same.same fun scene => playOf scene game right.host.nodes
  have sameNotes (play : Play) :
      tickNotes play leftScene = tickNotes play rightScene :=
    same.same (tickNotes play)
  have samePlayed (play : Play) :
      (playedScene play leftScene).Alike (playedScene play rightScene) :=
    same.same (playedScene play)
  unfold Stage.tickScene
  rw [alike.settings, alike.host, samePlay]
  dsimp only
  rw [sameNotes, same.index]
  exact ⟨rfl, rfl, alike.map, rfl,
    alike.arena.modifyScene id fun _ _ _ => samePlayed _, rfl,
    alike.active, alike.flight, alike.appendNotes _⟩

theorem tick
    (alike : left.Alike leftStart rightStart right) (game : GameBank) :
    (left.tick game).1 = (right.tick game).1 ∧
      (left.tick game).2.1 = (right.tick game).2.1 ∧
      (left.tick game).2.2.Alike leftStart rightStart
        (right.tick game).2.2 := by
  have related := alike.activeScene?
  unfold Stage.tick
  rw [alike.isLoading, alike.active]
  split
  · exact ⟨rfl, rfl, alike⟩
  · generalize left.activeScene? = before at related ⊢
    generalize right.activeScene? = after at related ⊢
    cases right.active with
    | none => exact ⟨rfl, rfl, alike⟩
    | some id =>
        cases related with
        | none => exact ⟨rfl, rfl, alike⟩
        | some same =>
            exact alike.tickScene game id same

theorem reset
    (alike : left.Alike leftStart rightStart right) :
    left.reset.1 = right.reset.1 ∧
      left.reset.2.Alike leftStart rightStart right.reset.2 := by
  unfold Stage.reset
  rw [alike.isLoading, alike.active]
  split
  · exact ⟨rfl, alike⟩
  · cases right.active with
    | none => exact ⟨rfl, alike⟩
    | some id =>
        have restored := alike.changeScene id blind_resetScene
        have related := restored.activeScene?
        dsimp only
        generalize left.changeScene id resetScene = leftRestored at *
        generalize right.changeScene id resetScene = rightRestored at *
        generalize leftRestored.activeScene? = before at related ⊢
        generalize rightRestored.activeScene? = after at related ⊢
        cases related with
        | none => exact ⟨rfl, restored⟩
        | some same =>
            dsimp only
            rw [same.index, same.protagonist?]
            exact ⟨rfl, restored.call _⟩

theorem unload
    (alike : left.Alike leftStart rightStart right) :
    left.unload.1 = right.unload.1 ∧
      left.unload.2.Alike leftStart rightStart right.unload.2 := by
  unfold Stage.unload
  rw [alike.isLoading, alike.active]
  split
  · exact ⟨rfl, alike⟩
  · cases right.active with
    | none => exact ⟨rfl, alike⟩
    | some id =>
        have cleared :=
          ((alike.withActive none).removeFamily id).changeNodes
            (·.setActiveRoot none)
        exact ⟨rfl, cleared⟩

end Stage.Alike

/-! ## Acts -/

theorem Stage.Alike.now
    {leftStart rightStart : Journal} {left right : Stage}
    (alike : left.Alike leftStart rightStart right) :
    left.Alike left.journal right.journal right :=
  ⟨alike.map, alike.settings, alike.arena, alike.host, alike.active,
    alike.flight, #[], by simp, by simp⟩

theorem Order.target?_alike
    {leftStart rightStart : Journal} {left right : Stage}
    (alike : left.Alike leftStart rightStart right) (order : Order) :
    order.target? left = order.target? right := by
  cases order with
  | goto target force => rfl
  | next =>
      simp only [Order.target?, Stage.neighbour?, alike.activeIndex?,
        alike.map]
  | previous =>
      simp only [Order.target?, Stage.neighbour?, alike.activeIndex?,
        alike.map]

theorem Order.ask_alike
    {leftStart rightStart : Journal} {left right : Stage}
    (alike : left.Alike leftStart rightStart right) (order : Order) :
    order.ask left = order.ask right := by
  unfold Order.ask Order.verdict?
  rw [Order.target?_alike alike]
  cases order.target? right with
  | none => rfl
  | some pair => simp only [alike.verdict?]

theorem Order.depart_alike
    {leftStart rightStart : Journal} {left right : Stage}
    (alike : left.Alike leftStart rightStart right) (order : Order)
    (game : GameBank) :
    (order.depart game left).Alike leftStart rightStart
      (order.depart game right) := by
  unfold Order.depart
  rw [Order.target?_alike alike]
  cases order.target? right with
  | none => exact .done _ alike
  | some pair => exact alike.depart game pair.1 pair.2

/-- Whether two theatres differ at most in the marks of active scenes and in what
their journals hold so far. -/
structure Theatre.Alike (left right : Theatre) : Prop where
  game : left.game = right.game
  stage : left.stage.Alike left.stage.journal right.stage.journal right.stage

namespace Theatre

theorem Alike.refl (theatre : Theatre) : theatre.Alike theatre :=
  ⟨rfl, rfl, rfl, Arena.Alike.refl _, rfl, rfl, rfl, #[], by simp, by simp⟩

section Perform

variable {left right : Theatre}

/-- An act on theatres that are alike gives the same answer and adds the same
notes. -/
theorem perform_alike (alike : left.Alike right) (act : Act) :
    (left.perform act).1 = (right.perform act).1 ∧
      (left.perform act).2.game = (right.perform act).2.game ∧
      (left.perform act).2.stage.Alike left.stage.journal
        right.stage.journal (right.perform act).2.stage := by
  obtain ⟨sameGame, same⟩ := alike
  cases act with
  | go source order =>
      have departed := order.depart_alike same right.game
      simp only [perform, Order.carryOut_eq, sameGame, sourceNow]
      generalize order.depart right.game left.stage = leftCourse
        at departed ⊢
      generalize order.depart right.game right.stage = rightCourse
        at departed ⊢
      cases departed with
      | done result ended => exact ⟨rfl, trivial, ended⟩
      | away flight begun =>
          obtain ⟨sameResult, settled⟩ := begun.settle source flight
          exact ⟨congrArg Answer.settled sameResult, trivial, settled⟩
  | begin source order =>
      have departed := order.depart_alike same right.game
      simp only [perform, Order.begin_eq, sameGame, sourceNow]
      generalize order.depart right.game left.stage = leftCourse
        at departed ⊢
      generalize order.depart right.game right.stage = rightCourse
        at departed ⊢
      cases departed with
      | done result ended => exact ⟨rfl, trivial, ended⟩
      | away flight begun =>
          obtain ⟨sameResult, flown⟩ :=
            (begun.fly false source flight).transition
          exact ⟨congrArg Answer.begun sameResult, trivial, flown⟩
  | ask order =>
      exact ⟨congrArg Answer.begun (order.ask_alike same), sameGame, same⟩
  | poll held source =>
      simp only [perform, Stage.poll, same.flight, sourceNow]
      cases right.stage.flight with
      | none => exact ⟨rfl, sameGame, same⟩
      | some flight =>
          obtain ⟨sameResult, flown⟩ :=
            (same.fly held source flight).transition
          exact ⟨congrArg (fun result => Answer.polled (some result))
            sameResult, sameGame, flown⟩
  | abandon held =>
      simp only [perform, Stage.abandon, same.flight]
      cases right.stage.flight with
      | none => exact ⟨rfl, sameGame, same⟩
      | some flight => exact ⟨rfl, sameGame, same.release held flight⟩
  | tick =>
      obtain ⟨sameReport, sameBank, ticked⟩ := same.tick right.game
      simp only [perform, sameGame]
      exact ⟨congrArg Answer.ticked sameReport, sameBank, ticked⟩
  | reset =>
      obtain ⟨sameDone, restored⟩ := same.reset
      exact ⟨congrArg Answer.reset sameDone, sameGame, restored⟩
  | unload =>
      obtain ⟨sameDone, cleared⟩ := same.unload
      exact ⟨congrArg Answer.unloaded sameDone, sameGame, cleared⟩
  | change game => exact ⟨rfl, rfl, same⟩

theorem Alike.perform
    (alike : left.Alike right) (act : Act) :
    (left.perform act).2.Alike (right.perform act).2 := by
  obtain ⟨_, sameGame, same⟩ := perform_alike alike act
  exact ⟨sameGame, same.now⟩

end Perform

end Theatre

end Stagecraft
