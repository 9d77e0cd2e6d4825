import Stagecraft.Proofs.Stage.Courses
import Stagecraft.Proofs.Stage.Unseen
import Stagecraft.Stage.Theatre

/-!
# Stages that match

Two stages match if they differ at most in what nodes there are: in the markers
that are wanted, in the models of actors, in hosts and fetches. Whatever two
callers do alike, with content that matches, stages that match answer the same and
match again.
-/

namespace Stagecraft

/-! ## Journals -/

namespace Journal

theorem warnings_append (journal later : Journal) :
    warnings (journal ++ later) = journal.warnings ++ later.warnings := by
  simp [warnings, Array.toList_append, List.filterMap_append]

theorem warnings_push_call (journal : Journal) (call : HostCall) :
    warnings (journal.push (.call call)) = journal.warnings := by
  simp [warnings, Note.warning?]

end Journal

/-! ## Stages -/

/-- Whether two loads lead to the same scene from the same one and match. -/
structure Flight.Matches (flight other : Flight) : Prop where
  target : flight.target = other.target
  previous : flight.previous = other.previous
  task : Task.Matches (fun loaded other => loaded.unseen = other.unseen)
    flight.task other.task

namespace Stage

/-- Whether two stages differ at most in their hosts and in entries of their
journals that are no warnings. -/
structure SameMatter (before after : Stage) : Prop extends
    SameScenes before after where
  warnings : after.journal.warnings = before.journal.warnings

theorem SameMatter.refl (stage : Stage) : SameMatter stage stage :=
  ⟨.refl stage, rfl⟩

theorem SameMatter.trans {first second third : Stage}
    (same : SameMatter first second) (sameAgain : SameMatter second third) :
    SameMatter first third :=
  ⟨same.toSameScenes.trans sameAgain.toSameScenes,
    sameAgain.warnings.trans same.warnings⟩

theorem sameMatter_call (stage : Stage) (call : HostCall) :
    SameMatter stage (stage.call call) :=
  ⟨sameScenes_call stage call, stage.journal.warnings_push_call call⟩

theorem sameMatter_changeNodes (stage : Stage)
    (change : NodeTree → NodeTree) :
    SameMatter stage (stage.changeNodes change) :=
  ⟨sameScenes_changeNodes stage change, rfl⟩

theorem sameMatter_resumeMusic (stage : Stage) (track : UInt16) :
    SameMatter stage (stage.resumeMusic track) := by
  unfold resumeMusic
  generalize stage.host.musicCalls track = calls
  induction calls generalizing stage with
  | nil => exact .refl stage
  | cons first rest inductionHypothesis =>
      exact (sameMatter_call stage first).trans (inductionHypothesis _)

theorem sameMatter_resumeActiveMusic (stage : Stage) :
    SameMatter stage stage.resumeActiveMusic := by
  unfold resumeActiveMusic
  split
  · exact sameMatter_resumeMusic stage _
  · exact .refl stage

theorem sameMatter_present (stage : Stage) (scene : Scene) :
    SameMatter stage (stage.present scene) := by
  have rooted :=
    sameMatter_changeNodes stage (·.setActiveRoot (some scene.root))
  unfold present
  split
  · exact rooted.trans (sameMatter_changeNodes _ _)
  · exact rooted

/-- Whether two stages differ at most in what nodes there are. -/
structure Matches (left right : Stage) : Prop where
  map : left.map = right.map
  language : left.settings.language = right.settings.language
  stepBudget : left.settings.stepBudget = right.settings.stepBudget
  arena : left.arena.unseen = right.arena.unseen
  active : left.active = right.active
  flight : Option.Rel Flight.Matches left.flight right.flight
  warnings : left.journal.warnings = right.journal.warnings

namespace Matches

variable {left right leftAfter rightAfter : Stage}

theorem of_sameMatter (same : left.Matches right)
    (leftSame : left.SameMatter leftAfter)
    (rightSame : right.SameMatter rightAfter) :
    leftAfter.Matches rightAfter where
  map := by rw [leftSame.map, rightSame.map, same.map]
  language := by rw [leftSame.settings, rightSame.settings, same.language]
  stepBudget := by rw [leftSame.settings, rightSame.settings, same.stepBudget]
  arena := by rw [leftSame.arena, rightSame.arena, same.arena]
  active := by rw [leftSame.active, rightSame.active, same.active]
  flight := by rw [leftSame.flight, rightSame.flight]; exact same.flight
  warnings := by rw [leftSame.warnings, rightSame.warnings, same.warnings]

/-! ### Looking -/

theorem scene? (same : left.Matches right) (id : SceneId) :
    Option.Rel (fun scene other => scene.unseen = other.unseen)
      (left.arena.scene? id) (right.arena.scene? id) := by
  have related : (left.arena.scene? id).map Scene.unseen =
      (right.arena.scene? id).map Scene.unseen := by
    rw [← Arena.scene?_unseen, same.arena, Arena.scene?_unseen]
  generalize left.arena.scene? id = before at related ⊢
  generalize right.arena.scene? id = after at related ⊢
  cases before with
  | none =>
      cases after with
      | none => exact .none
      | some other => cases related
  | some scene =>
      cases after with
      | none => cases related
      | some other => exact .some (Option.some.inj related)

theorem isLoading (same : left.Matches right) :
    left.isLoading = right.isLoading := by
  have related := same.flight
  unfold Stage.isLoading
  generalize left.flight = before at related ⊢
  generalize right.flight = after at related ⊢
  cases related <;> rfl

theorem activeScene? (same : left.Matches right) :
    Option.Rel (fun scene other => scene.unseen = other.unseen)
      left.activeScene? right.activeScene? := by
  unfold Stage.activeScene?
  rw [same.active]
  cases right.active with
  | none => exact .none
  | some id => exact same.scene? id

theorem activeIndex? (same : left.Matches right) :
    left.activeIndex? = right.activeIndex? := by
  have related := same.activeScene?
  unfold Stage.activeIndex?
  generalize left.activeScene? = before at related ⊢
  generalize right.activeScene? = after at related ⊢
  cases related with
  | none => rfl
  | some sameScene => exact congrArg some (congrArg Scene.index sameScene :)

theorem sideTarget? (same : left.Matches right) (target : SceneIndex) :
    left.sideTarget? target = right.sideTarget? target := by
  unfold Stage.sideTarget?
  rw [same.active]
  cases right.active with
  | none => rfl
  | some id =>
      have related := same.scene? id
      dsimp only [Option.bind_eq_bind, Option.bind_some]
      generalize left.arena.scene? id = before at related ⊢
      generalize right.arena.scene? id = after at related ⊢
      cases related with
      | none => rfl
      | some sameScene =>
          have sides := (congrArg (fun scene : Scene => scene.side? target)
            sameScene :)
          exact congrArg (fun side => side.bind fun incoming =>
            some (id, incoming)) sides

/-! ### Small changes -/

theorem withArena (same : left.Matches right) {arena other : Arena}
    (sameArena : arena.unseen = other.unseen) (host otherHost : Host) :
    Matches { left with arena := arena, host := host }
      { right with arena := other, host := otherHost } :=
  { same with arena := sameArena }

theorem withActive (same : left.Matches right) (active : Option SceneId) :
    Matches { left with active := active } { right with active := active } :=
  { same with active := rfl }

theorem withFlight (same : left.Matches right) {flight other : Option Flight}
    (flights : Option.Rel Flight.Matches flight other) :
    Matches { left with flight := flight } { right with flight := other } :=
  { same with flight := flights }

theorem withJournal (same : left.Matches right) {journal other : Journal}
    (warnings : journal.warnings = other.warnings) :
    Matches { left with journal := left.journal ++ journal }
      { right with journal := right.journal ++ other } :=
  { same with
    warnings := by
      rw [Journal.warnings_append, Journal.warnings_append, same.warnings,
        warnings] }

theorem warn (same : left.Matches right) (warning : Warning) :
    (left.warn warning).Matches (right.warn warning) := by
  have alone : Journal.warnings #[.warning warning] =
      Journal.warnings #[.warning warning] := rfl
  exact same.withJournal alone

theorem modifyScene (same : left.Matches right) (id : SceneId)
    {change changed : Scene → Scene}
    (together : ∀ scene, (change scene).unseen = changed scene.unseen) :
    Matches { left with arena := left.arena.modifyScene id change }
      { right with arena := right.arena.modifyScene id change } := by
  refine same.withArena ?_ left.host right.host
  rw [Arena.modifyScene_unseen _ together, Arena.modifyScene_unseen _ together,
    same.arena]

theorem setActivity (same : left.Matches right) (id : Option SceneId)
    (active : Bool) :
    (left.setActivity id active).Matches (right.setActivity id active) := by
  cases id with
  | none => exact same
  | some id =>
      have together (scene : Scene) : (scene.withActive active).unseen =
          scene.unseen.withActive active := rfl
      exact same.modifyScene id together

theorem setScene (same : left.Matches right) (id : SceneId)
    {scene other : Scene} (sameScene : scene.unseen = other.unseen)
    (host otherHost : Host) :
    Matches
      { left with
        arena := left.arena.modifyScene id fun _ => scene
        host := host }
      { right with
        arena := right.arena.modifyScene id fun _ => other
        host := otherHost } := by
  refine same.withArena ?_ host otherHost
  rw [Arena.setScene_unseen, Arena.setScene_unseen, same.arena, sameScene]

theorem changeScene (same : left.Matches right) (id : SceneId)
    {change : Scene → NodeTree → Scene × NodeTree}
    (sightless : Scene.Sightless change) :
    (left.changeScene id change).Matches (right.changeScene id change) := by
  have related := same.scene? id
  unfold Stage.changeScene
  generalize left.arena.scene? id = before at related ⊢
  generalize right.arena.scene? id = after at related ⊢
  cases related with
  | none => exact same
  | @some scene other sameScene =>
      have changed (tree otherTree : NodeTree) :
          (change scene tree).1.unseen = (change other otherTree).1.unseen := by
        rw [sightless, sameScene, ← sightless]
      exact same.setScene id (changed _ _) _ _

/-! ### Parts of transitions -/

theorem leave (same : left.Matches right) (id : SceneId) :
    (left.leave id).Matches (right.leave id) :=
  (same.changeScene id Scene.sightless_kill).setActivity (some id) false

theorem promote (same : left.Matches right) (outgoing incoming : SceneId) :
    (left.promote outgoing incoming).Matches
      (right.promote outgoing incoming) := by
  refine same.withArena ?_ left.host right.host
  rw [Arena.promote_unseen, Arena.promote_unseen, same.arena]

theorem enter (same : left.Matches right) (id : SceneId) :
    (left.enter id).Matches (right.enter id) :=
  ((same.changeScene id Scene.sightless_revive).setActivity (some id)
    true).withActive (some id)

theorem swap (same : left.Matches right) (outgoing incoming : SceneId) :
    (left.swap outgoing incoming).Matches (right.swap outgoing incoming) :=
  (((same.leave outgoing).promote outgoing incoming).enter
    incoming).of_sameMatter (sameMatter_resumeActiveMusic _)
      (sameMatter_resumeActiveMusic _)

/-- A scene that becomes active changes nothing else but hosts. -/
theorem activate (same : left.Matches right) (id : SceneId) :
    (left.activate id).Matches (right.activate id) := by
  have related := same.scene? id
  have chosen := (same.setActivity (some id) true).withActive (some id)
  have shown (stage : Stage) (scene : Scene) :
      stage.SameMatter
        (((stage.present scene).resumeMusic scene.ambience.track).call
          (.camera scene.index (scene.protagonist?.map Actor.position))) :=
    ((sameMatter_present stage scene).trans
      (sameMatter_resumeMusic _ _)).trans (sameMatter_call _ _)
  unfold Stage.activate
  generalize left.arena.scene? id = before at related ⊢
  generalize right.arena.scene? id = after at related ⊢
  cases related with
  | none => exact same
  | @some scene other _ =>
      exact chosen.of_sameMatter (shown _ scene) (shown _ other)

theorem removeFamily (same : left.Matches right) (id : SceneId) :
    (left.removeFamily id).Matches (right.removeFamily id) := by
  have removed :
      (left.arena.removeFamily id left.host.nodes).1.unseen =
        (right.arena.removeFamily id right.host.nodes).1.unseen := by
    rw [Arena.removeFamily_unseen _ _ _ NodeTree.empty, same.arena,
      ← Arena.removeFamily_unseen]
  exact same.withArena removed _ _

theorem clear (same : left.Matches right) (previous : Option SceneId) :
    (left.clear previous).Matches (right.clear previous) := by
  cases previous with
  | none => exact same
  | some id => exact same.removeFamily id

theorem attach (same : left.Matches right) {loaded others : LoadedFamily}
    (sameLoaded : loaded.unseen = others.unseen) :
    (left.attach loaded).Matches (right.attach others) :=
  same.withArena
    (Attach.family_unseen _ _ sameLoaded same.arena _ _) _ _

theorem replace (same : left.Matches right) (previous : Option SceneId)
    {loaded others : LoadedFamily}
    (sameLoaded : loaded.unseen = others.unseen) :
    (left.replace previous loaded).Matches
      (right.replace previous others) := by
  have cleared := same.clear previous
  unfold Stage.replace
  generalize left.clear previous = leftCleared at cleared ⊢
  generalize right.clear previous = rightCleared at cleared ⊢
  have nextScene : leftCleared.arena.nextScene = rightCleared.arena.nextScene := by
    rw [← Arena.nextScene_unseen, cleared.arena, Arena.nextScene_unseen]
  dsimp only
  rw [nextScene]
  exact (cleared.attach sameLoaded).activate _

theorem land (same : left.Matches right) {flight other : Flight}
    (flights : flight.Matches other) {loaded others : LoadedFamily}
    (sameLoaded : loaded.unseen = others.unseen) :
    (left.land flight loaded).Matches (right.land other others) := by
  have landed := same.withFlight (.none : Option.Rel Flight.Matches none none)
  unfold Stage.land
  rw [flights.previous]
  exact landed.replace other.previous sameLoaded

theorem release (same : left.Matches right) (held : Bool)
    {flight other : Flight} (flights : flight.Matches other) :
    (left.release held flight).Matches (right.release held other) := by
  have landed := same.withFlight (.none : Option.Rel Flight.Matches none none)
  unfold Stage.release
  rw [flights.previous]
  cases held with
  | true =>
      cases other.previous with
      | none => exact landed
      | some id => exact landed.warn _
  | false => exact landed.setActivity other.previous true

theorem miss (same : left.Matches right) (held : Bool)
    {flight other : Flight} (flights : flight.Matches other)
    (error : LoadError) :
    (left.miss held flight error).Matches (right.miss held other error) := by
  unfold Stage.miss
  rw [flights.target]
  exact (same.warn _).release held flights

theorem conclude (same : left.Matches right) {flight other : Flight}
    (flights : flight.Matches other)
    {result otherResult : Except LoadError LoadedFamily}
    (results : ResultsMatch (fun loaded other => loaded.unseen = other.unseen)
      result otherResult) :
    (left.conclude flight result).1 = (right.conclude other otherResult).1 ∧
      (left.conclude flight result).2.Matches
        (right.conclude other otherResult).2 := by
  cases results with
  | ok sameLoaded =>
      simp only [Stage.conclude, flights.target, true_and]
      exact same.land flights sameLoaded
  | error error => exact ⟨rfl, same.miss false flights error⟩

end Matches

/-! ## Courses -/

/-- Whether two courses came equally far, with stages that match. -/
inductive Course.Matches : Course → Course → Prop
  | done (result : Except LoadError Outcome) {left right : Stage}
      (same : left.Matches right) :
      Matches (.done result left) (.done result right)
  | away {flight other : Flight} (flights : flight.Matches other)
      {left right : Stage} (same : left.Matches right) :
      Matches (.away flight left) (.away other right)
  | panicked {left right : Stage} (same : left.Matches right) :
      Matches (.panicked left) (.panicked right)

theorem Course.Matches.transition {course other : Course}
    (same : course.Matches other) :
    course.transition.1 = other.transition.1 ∧
      course.transition.2.Matches other.transition.2 := by
  cases same with
  | done result same => exact ⟨rfl, same⟩
  | away flights same => exact ⟨rfl, same⟩
  | panicked same => exact ⟨rfl, same⟩

/-- Whether two departures lead equally far, with stages that match. -/
inductive Departure.Matches : Departure → Departure → Prop
  | done (result : Except LoadError Outcome) {left right : Stage}
      (same : left.Matches right) :
      Matches (.done result left) (.done result right)
  | away {flight other : Flight} (flights : flight.Matches other)
      {left right : Stage} (same : left.Matches right) :
      Matches (.away flight left) (.away other right)

namespace Matches

variable {left right : Stage}

theorem loadOf (same : left.Matches right) (game : GameBank)
    (target : SceneIndex) :
    Task.Matches (fun loaded other => loaded.unseen = other.unseen)
      (left.loadOf game target) (right.loadOf game target) := by
  unfold Stage.loadOf
  rw [same.map, same.language]
  exact LoadContext.family_matches _ target

theorem verdict? (same : left.Matches right) (target : SceneIndex)
    (force : Bool) :
    left.verdict? target force = right.verdict? target force := by
  unfold Stage.verdict?
  rw [same.isLoading, same.activeIndex?, same.map]

theorem depart (same : left.Matches right) (game : GameBank)
    (target : SceneIndex) (force : Bool) :
    (left.depart game target force).Matches
      (right.depart game target force) := by
  have load := same.loadOf game target
  unfold Stage.depart
  rw [same.verdict?, same.sideTarget?, same.active]
  split
  · exact .done _ same
  · split
    · exact .done _ (same.swap _ _)
    · have flights : Flight.Matches
          ⟨target, right.active, left.loadOf game target⟩
          ⟨target, right.active, right.loadOf game target⟩ :=
        ⟨rfl, rfl, load⟩
      exact .away flights (same.setActivity _ _)

theorem orderTarget? (same : left.Matches right) (order : Order) :
    order.target? left = order.target? right := by
  cases order with
  | goto target force => rfl
  | next =>
      simp only [Order.target?, Stage.neighbour?, same.activeIndex?, same.map]
  | previous =>
      simp only [Order.target?, Stage.neighbour?, same.activeIndex?, same.map]

theorem ask (same : left.Matches right) (order : Order) :
    order.ask left = order.ask right := by
  unfold Order.ask Order.verdict?
  rw [same.orderTarget?]
  cases order.target? right with
  | none => rfl
  | some pair => simp only [same.verdict?]

theorem departOrder (same : left.Matches right) (order : Order)
    (game : GameBank) :
    (order.depart game left).Matches (order.depart game right) := by
  unfold Order.depart
  rw [same.orderTarget?]
  cases order.target? right with
  | none => exact .done _ same
  | some pair => exact same.depart game pair.1 pair.2

section Loads

variable {flight otherFlight : Flight} {source other : Source}

/-- Loads that match go on in unison. -/
theorem fly (same : left.Matches right) (flights : flight.Matches otherFlight)
    (sources : source.Matches other) (held : Bool) :
    (left.fly held (source.since left.journal.size) flight).Matches
      (right.fly held (other.since right.journal.size) otherFlight) := by
  have fresh (source : Source) (task : Task LoadedFamily)
      (journal : Journal) :
      task.poll (source.since journal.size) journal =
        journal.onto (task.poll source #[]) := by
    have polled := task.poll_since source journal #[]
    rwa [Array.append_empty] at polled
  have empty : Journal.Matches #[] #[] := ⟨rfl, rfl⟩
  have outcomes := flights.task.poll sources empty
  unfold Stage.fly
  rw [fresh, fresh]
  generalize flight.task.poll source #[] = outcome at outcomes ⊢
  generalize otherFlight.task.poll other #[] = otherOutcome at outcomes ⊢
  obtain ⟨progress, journal⟩ := outcome
  obtain ⟨otherProgress, otherJournal⟩ := otherOutcome
  obtain ⟨sameProgress, journals⟩ := outcomes
  have polled := same.withJournal journals.warnings
  cases sameProgress with
  | finished sameLoaded =>
      cases held with
      | true => exact .panicked (polled.release true flights)
      | false =>
          simp only [Journal.onto_mk, Bool.false_eq_true, if_false,
            flights.target]
          exact .done _ (polled.land flights sameLoaded)
  | failed error => exact .done _ (polled.miss held flights error)
  | @pending rest otherRest sameRest =>
      have remaining : Flight.Matches { flight with task := rest }
          { otherFlight with task := otherRest } :=
        ⟨flights.target, flights.previous, sameRest⟩
      exact .away remaining (polled.withFlight (.some remaining))

/-- So do loads that are run to their end. -/
theorem settle (same : left.Matches right)
    (flights : flight.Matches otherFlight) (sources : source.Matches other) :
    let settled := flight.task.settle (source.since left.journal.size)
      left.journal
    let otherSettled := otherFlight.task.settle
      (other.since right.journal.size) right.journal
    let ended := { left with journal := settled.2 }.conclude flight settled.1
    let otherEnded := { right with journal := otherSettled.2 }.conclude
      otherFlight otherSettled.1
    ended.1 = otherEnded.1 ∧ ended.2.Matches otherEnded.2 := by
  have fresh (source : Source) (task : Task LoadedFamily)
      (journal : Journal) :
      task.settle (source.since journal.size) journal =
        journal.onto (task.settle source #[]) := by
    have settled := task.settle_since source journal #[]
    rwa [Array.append_empty] at settled
  have empty : Journal.Matches #[] #[] := ⟨rfl, rfl⟩
  obtain ⟨results, journals⟩ := flights.task.settle sources empty
  rw [fresh, fresh]
  exact (same.withJournal journals.warnings).conclude flights results

end Loads

/-! ## Ticks, resets and unloading -/

theorem tickScene (same : left.Matches right) (game : GameBank)
    (id : SceneId) {scene other : Scene}
    (sameScene : scene.unseen = other.unseen) :
    (left.tickScene game id scene).1 = (right.tickScene game id other).1 ∧
      (left.tickScene game id scene).2.1 =
        (right.tickScene game id other).2.1 ∧
      (left.tickScene game id scene).2.2.Matches
        (right.tickScene game id other).2.2 := by
  have samePlay :
      ((playOf scene game left.host.nodes).tick
          left.settings.stepBudget).unseen =
        ((playOf other game right.host.nodes).tick
          right.settings.stepBudget).unseen := by
    rw [← Play.tick_unseen, ← Play.tick_unseen, Scene.playOf_unseen,
      Scene.playOf_unseen, sameScene, same.stepBudget]
  have index : scene.index = other.index :=
    (congrArg Scene.index sameScene :)
  unfold Stage.tickScene
  dsimp only
  generalize (playOf scene game left.host.nodes).tick
    left.settings.stepBudget = after at samePlay ⊢
  generalize (playOf other game right.host.nodes).tick
    right.settings.stepBudget = otherAfter at samePlay ⊢
  have sameNotes : tickNotes after scene = tickNotes otherAfter other := by
    rw [← Scene.tickNotes_unseen, samePlay, sameScene, Scene.tickNotes_unseen]
  have samePlayed : (playedScene after scene).unseen =
      (playedScene otherAfter other).unseen := by
    rw [Scene.playedScene_unseen, samePlay, sameScene,
      ← Scene.playedScene_unseen]
  have sameGame : after.game = otherAfter.game :=
    (congrArg Play.game samePlay :)
  rw [sameNotes, index, sameGame]
  exact ⟨rfl, rfl, (same.setScene id samePlayed _ _).withJournal rfl⟩

theorem tick (same : left.Matches right) (game : GameBank) :
    (left.tick game).1 = (right.tick game).1 ∧
      (left.tick game).2.1 = (right.tick game).2.1 ∧
      (left.tick game).2.2.Matches (right.tick game).2.2 := by
  have related := same.activeScene?
  unfold Stage.tick
  rw [same.isLoading, same.active]
  split
  · exact ⟨rfl, rfl, same⟩
  · generalize left.activeScene? = before at related ⊢
    generalize right.activeScene? = after at related ⊢
    cases right.active with
    | none => exact ⟨rfl, rfl, same⟩
    | some id =>
        cases related with
        | none => exact ⟨rfl, rfl, same⟩
        | some sameScene => exact same.tickScene game id sameScene

theorem reset (same : left.Matches right) :
    left.reset.1 = right.reset.1 ∧ left.reset.2.Matches right.reset.2 := by
  unfold Stage.reset
  rw [same.isLoading, same.active]
  split
  · exact ⟨rfl, same⟩
  · cases right.active with
    | none => exact ⟨rfl, same⟩
    | some id =>
        have restored := same.changeScene id Scene.sightless_resetScene
        have related := restored.activeScene?
        dsimp only
        generalize left.changeScene id resetScene = leftRestored at *
        generalize right.changeScene id resetScene = rightRestored at *
        generalize leftRestored.activeScene? = before at related ⊢
        generalize rightRestored.activeScene? = after at related ⊢
        cases related with
        | none => exact ⟨rfl, restored⟩
        | some _ =>
            exact ⟨rfl, restored.of_sameMatter (sameMatter_call _ _)
              (sameMatter_call _ _)⟩

theorem unload (same : left.Matches right) :
    left.unload.1 = right.unload.1 ∧
      left.unload.2.Matches right.unload.2 := by
  unfold Stage.unload
  rw [same.isLoading, same.active]
  split
  · exact ⟨rfl, same⟩
  · cases right.active with
    | none => exact ⟨rfl, same⟩
    | some id =>
        have cleared := ((same.withActive none).removeFamily id).of_sameMatter
          (sameMatter_changeNodes _ (·.setActiveRoot none))
          (sameMatter_changeNodes _ (·.setActiveRoot none))
        exact ⟨rfl, cleared⟩

end Matches

end Stage

end Stagecraft
