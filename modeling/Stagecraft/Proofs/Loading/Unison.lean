import Stagecraft.Loading.Family
import Stagecraft.Proofs.Loading.Matching
import Stagecraft.Proofs.Loading.Tickets

/-!
# Loads in unison

Tasks that match ask for the same and go on alike with answers that match, at
every point of their course. So the loads of one family from sources that match
are polled in unison, and the families that they end with differ at most in
models.
-/

namespace Stagecraft

namespace Task

/-- Whether two tasks ask for the same, all along, and end with values that are
related. -/
inductive Matches : {α : Type} → (α → α → Prop) → Task α → Task α → Prop
  | done {α : Type} {related : α → α → Prop} {value other : α}
      (same : related value other) :
      Matches related (.done value) (.done other)
  | failed {α : Type} {related : α → α → Prop} (error : LoadError) :
      Matches related (.failed error) (.failed error)
  | fetch {α : Type} {related : α → α → Prop} {request other : Fetch}
      {next : request.Answer → Task α} {otherNext : other.Answer → Task α}
      (same : request.Matches other)
      (onwards : ∀ answer otherAnswer,
        request.AnswersMatch other answer otherAnswer →
          Matches related (next answer) (otherNext otherAnswer)) :
      Matches related (.fetch request next) (.fetch other otherNext)
  | waiting {α : Type} {related : α → α → Prop} {request other : Fetch}
      {next : request.Answer → Task α} {otherNext : other.Answer → Task α}
      (same : request.Matches other) (pauses : Nat)
      (onwards : ∀ answer otherAnswer,
        request.AnswersMatch other answer otherAnswer →
          Matches related (next answer) (otherNext otherAnswer)) :
      Matches related (.waiting request pauses next)
        (.waiting other pauses otherNext)
  | join {α β : Type} {related : α → α → Prop} {among : β → β → Prop}
      {size : Nat} {members others : Fin size → Task β}
      {next otherNext : (Fin size → β) → Task α}
      (same : ∀ index, Matches among (members index) (others index))
      (onwards : ∀ values otherValues,
        (∀ index, among (values index) (otherValues index)) →
          Matches related (next values) (otherNext otherValues)) :
      Matches related (.join size members next) (.join size others otherNext)
  | turns {α β : Type} {related : α → α → Prop} {among : β → β → Prop}
      {crowd other : Crowd β} {next otherNext : List β → Task α}
      (same : crowd.Matches among other)
      (onwards : ∀ values otherValues,
        List.Forall₂ among values otherValues →
          Matches related (next values) (otherNext otherValues)) :
      Matches related (.turns crowd next) (.turns other otherNext)

inductive ProgressMatches {α : Type} (related : α → α → Prop) :
    Progress α → Progress α → Prop
  | finished {value other : α} (same : related value other) :
      ProgressMatches related (.finished value) (.finished other)
  | failed (error : LoadError) :
      ProgressMatches related (.failed error) (.failed error)
  | pending {rest other : Task α} (same : Matches related rest other) :
      ProgressMatches related (.pending rest) (.pending other)

/-- Whether two polls led to the same and noted the same. -/
def OutcomesMatch {α : Type} (related : α → α → Prop)
    (outcome other : Progress α × Journal) : Prop :=
  ProgressMatches related outcome.1 other.1 ∧ outcome.2.Matches other.2

/-! ## Building tasks that match -/

section Building

variable {α β : Type} {related : α → α → Prop} {among : β → β → Prop}

theorem Matches.bind {task other : Task β} (same : Matches among task other)
    {after otherAfter : β → Task α}
    (onwards : ∀ value otherValue, among value otherValue →
      Matches related (after value) (otherAfter otherValue)) :
    Matches related (task >>= after) (other >>= otherAfter) := by
  change Matches related (task.andThen after) (other.andThen otherAfter)
  induction same with
  | done same => exact onwards _ _ same
  | failed error => exact .failed error
  | fetch same _ inductionHypothesis =>
      exact .fetch same fun answer otherAnswer sameAnswer =>
        inductionHypothesis answer otherAnswer sameAnswer onwards
  | waiting same pauses _ inductionHypothesis =>
      exact .waiting same pauses fun answer otherAnswer sameAnswer =>
        inductionHypothesis answer otherAnswer sameAnswer onwards
  | join same _ _ inductionHypothesis =>
      exact .join same fun values otherValues sameValues =>
        inductionHypothesis values otherValues sameValues onwards
  | turns same _ inductionHypothesis =>
      exact .turns same fun values otherValues sameValues =>
        inductionHypothesis values otherValues sameValues onwards

theorem Matches.ask {request : Fetch} (same : request.Matches request) :
    Matches (request.AnswersMatch request) (ask request) (ask request) :=
  .fetch same fun _ _ sameAnswer => .done sameAnswer

/-- Tasks that run side by side, counted apart from their list. -/
theorem together_eq (tasks : List (Task α)) {size : Nat}
    (counted : size = tasks.length) :
    together tasks =
      .join size (fun index => tasks.get (index.cast counted))
        fun values => .done (List.ofFn values) := by
  subst counted
  rfl

theorem Matches.together {tasks others : List (Task α)}
    (same : List.Forall₂ (Matches related) tasks others) :
    Matches (List.Forall₂ related) (together tasks) (together others) := by
  rw [together_eq tasks rfl, together_eq others same.length_eq]
  refine .join (fun index => same.get index.isLt _)
    fun values otherValues sameValues => .done ?_
  rw [List.forall₂_iff_get]
  refine ⟨by simp, fun position bound otherBound => ?_⟩
  simpa using sameValues ⟨position, by simpa using bound⟩

theorem Matches.ofExcept {result other : Except LoadError α}
    (same : ResultsMatch related result other) :
    Matches related (ofExcept result) (ofExcept other) := by
  cases same with
  | ok same => exact .done same
  | error error => exact .failed error

theorem matches_ofList {errands others : List (Errand α)}
    (same : List.Forall₂ (Errand.Matches related) errands others) :
    (Crowd.ofList errands).Matches related (Crowd.ofList others) := by
  constructor
  · change Crowd.QueuesMatch related errands.zipIdx others.zipIdx
    generalize 0 = start
    induction same generalizing start with
    | nil => exact .nil
    | cons first _ inductionHypothesis =>
        exact .cons ⟨first, rfl⟩ (inductionHypothesis (start + 1))
  · change List.Forall₂ _ (errands.map fun _ => none)
      (others.map fun _ => none)
    induction same with
    | nil => exact .nil
    | cons _ _ inductionHypothesis => exact .cons .none inductionHypothesis

/-- Errands that match are run in unison, all together or in turns. -/
theorem Matches.runErrands {errands others : List (Errand α)}
    (same : List.Forall₂ (Errand.Matches related) errands others) :
    Matches (List.Forall₂ related) (runErrands errands) (runErrands others) := by
  have counted := same.length_eq
  unfold Task.runErrands
  rw [← counted]
  split
  · refine .together (List.forall₂_map_left_iff.mpr
      (List.forall₂_map_right_iff.mpr (same.imp fun errand other same => ?_)))
    exact .fetch same.request fun answer otherAnswer sameAnswer =>
      .done (same.read answer otherAnswer sameAnswer)
  · exact .turns (matches_ofList same) fun _ _ sameValues => .done sameValues

end Building

/-! ## Polling in unison -/

section Polling

variable {source other : Source}

def GroupsMatch {α : Type} (related : α → α → Prop) {size : Nat}
    (outcome other : Except LoadError (Fin size → Progress α) × Journal) :
    Prop :=
  outcome.2.Matches other.2 ∧
    ((∃ error, outcome.1 = .error error ∧ other.1 = .error error) ∨
      ∃ progress otherProgress,
        outcome.1 = .ok progress ∧ other.1 = .ok otherProgress ∧
        ∀ index, ProgressMatches related (progress index)
          (otherProgress index))

theorem GroupsMatch.inFront {α : Type} {related : α → α → Prop} {size : Nat}
    {outcome other : Except LoadError (Fin size → Progress α) × Journal}
    (same : GroupsMatch related outcome other) {first otherFirst : Progress α}
    (sameFirst : ProgressMatches related first otherFirst) :
    GroupsMatch related
      (outcome.1.map (Task.inFront first), outcome.2)
      (other.1.map (Task.inFront otherFirst), other.2) := by
  obtain ⟨result, after⟩ := outcome
  obtain ⟨otherResult, otherAfter⟩ := other
  obtain ⟨noted, ⟨error, rfl, rfl⟩ |
    ⟨progress, otherProgress, rfl, rfl, later⟩⟩ := same
  · exact ⟨noted, .inl ⟨error, rfl, rfl⟩⟩
  · exact ⟨noted, .inr ⟨_, _, rfl, rfl, Fin.cases sameFirst later⟩⟩

theorem pollMembers_matches {α : Type} {related : α → α → Prop} {size : Nat}
    {members others : Fin size → Polling α}
    (same : ∀ index {journal otherJournal : Journal},
      journal.Matches otherJournal →
        OutcomesMatch related (members index journal)
          (others index otherJournal))
    {journal otherJournal : Journal} (journals : journal.Matches otherJournal) :
    GroupsMatch related (pollMembers size members journal)
      (pollMembers size others otherJournal) := by
  induction size generalizing journal otherJournal with
  | zero => exact ⟨journals, .inr ⟨_, _, rfl, rfl, fun index => index.elim0⟩⟩
  | succ size inductionHypothesis =>
      have first := same 0 journals
      rw [pollMembers_succ, pollMembers_succ]
      generalize members 0 journal = polled at first ⊢
      generalize others 0 otherJournal = otherPolled at first ⊢
      obtain ⟨progress, after⟩ := polled
      obtain ⟨otherProgress, otherAfter⟩ := otherPolled
      obtain ⟨sameFirst, noted⟩ := first
      have rest := inductionHypothesis (fun index => same index.succ) noted
      cases sameFirst with
      | failed error => exact ⟨noted, .inl ⟨error, rfl, rfl⟩⟩
      | finished same => exact rest.inFront (.finished same)
      | pending same => exact rest.inFront (.pending same)

theorem allFinished_matches {α : Type} {related : α → α → Prop} {size : Nat}
    {progress others : Fin size → Progress α}
    (same : ∀ index, ProgressMatches related (progress index)
      (others index)) :
    Option.Rel (fun values otherValues => ∀ index,
        related (values index) (otherValues index))
      (allFinished size progress) (allFinished size others) := by
  induction size with
  | zero => exact .some fun index => index.elim0
  | succ size inductionHypothesis =>
      have first := same 0
      have rest := inductionHypothesis fun index => same index.succ
      simp only [allFinished]
      generalize progress 0 = head at first ⊢
      generalize others 0 = otherHead at first ⊢
      generalize (allFinished size fun index => progress index.succ) =
        tail at rest ⊢
      generalize (allFinished size fun index => others index.succ) =
        otherTail at rest ⊢
      cases first with
      | failed _ => exact .none
      | pending _ => exact .none
      | finished sameHead =>
          cases rest with
          | none => exact .none
          | some sameTail => exact .some (Fin.cases sameHead sameTail)

theorem ProgressMatches.rest {α : Type} {related : α → α → Prop}
    {progress others : Progress α} (same : ProgressMatches related progress others) :
    Matches related progress.rest others.rest := by
  cases same with
  | finished same => exact .done same
  | failed error => exact .failed error
  | pending same => exact same

/-- Tasks that match are polled in unison. -/
theorem Matches.poll {α : Type} {related : α → α → Prop}
    {task otherTask : Task α} (same : Matches related task otherTask)
    (sources : source.Matches other) {journal otherJournal : Journal}
    (journals : journal.Matches otherJournal) :
    OutcomesMatch related (task.poll source journal)
      (otherTask.poll other otherJournal) := by
  -- Both journals grow alike from poll to poll, so the induction is for all that
  -- match.
  induction same generalizing journal otherJournal with
  | done same => exact ⟨.finished same, journals⟩
  | failed error => exact ⟨.failed error, journals⟩
  | @fetch _ _ request otherRequest _ _ same onwards inductionHypothesis =>
      have noted := journals.fetched request otherRequest
      simp only [Task.poll]
      rw [← journals.size, ← sources.pauses journal.size same]
      cases source.pauses journal.size request with
      | succ pauses => exact ⟨.pending (.waiting same pauses onwards), noted⟩
      | zero =>
          rcases sources.answer same with
            ⟨answer, otherAnswer, answered, otherAnswered, sameAnswer⟩ |
            ⟨error, answered, otherAnswered⟩
          · simp only [answered, otherAnswered]
            exact inductionHypothesis answer otherAnswer sameAnswer noted
          · simp only [answered, otherAnswered]
            exact ⟨.failed error, noted⟩
  | waiting same pauses onwards inductionHypothesis =>
      cases pauses with
      | succ pauses => exact ⟨.pending (.waiting same pauses onwards), journals⟩
      | zero =>
          simp only [Task.poll]
          rcases sources.answer same with
            ⟨answer, otherAnswer, answered, otherAnswered, sameAnswer⟩ |
            ⟨error, answered, otherAnswered⟩
          · simp only [answered, otherAnswered]
            exact inductionHypothesis answer otherAnswer sameAnswer journals
          · simp only [answered, otherAnswered]
            exact ⟨.failed error, journals⟩
  | @join _ _ _ _ size members others _ _ same onwards membersHypothesis
      nextHypothesis =>
      have polled :
          GroupsMatch _
            (pollMembers size (fun index => (members index).poll source)
              journal)
            (pollMembers size (fun index => (others index).poll other)
              otherJournal) :=
        pollMembers_matches
          (fun index _ _ journals => membersHypothesis index journals) journals
      simp only [Task.poll]
      generalize pollMembers size (fun index => (members index).poll source)
        journal = outcome at polled ⊢
      generalize pollMembers size (fun index => (others index).poll other)
        otherJournal = otherOutcome at polled ⊢
      obtain ⟨result, after⟩ := outcome
      obtain ⟨otherResult, otherAfter⟩ := otherOutcome
      obtain ⟨noted, ⟨error, rfl, rfl⟩ |
        ⟨progress, otherProgress, rfl, rfl, sameProgress⟩⟩ := polled
      · exact ⟨.failed error, noted⟩
      · have finished := allFinished_matches sameProgress
        dsimp only
        generalize allFinished size progress = values at finished ⊢
        generalize allFinished size otherProgress = otherValues at finished ⊢
        cases finished with
        | some sameValues => exact nextHypothesis _ _ sameValues noted
        | none =>
            exact ⟨.pending (.join (fun index => (sameProgress index).rest)
              onwards), noted⟩
  | @turns _ _ _ _ crowd otherCrowd _ _ same onwards inductionHypothesis =>
      have polled := same.poll false sources journals
      simp only [Task.poll]
      generalize crowd.poll source false journal = outcome at polled ⊢
      generalize otherCrowd.poll other false otherJournal =
        otherOutcome at polled ⊢
      obtain ⟨progress, after⟩ := outcome
      obtain ⟨otherProgress, otherAfter⟩ := otherOutcome
      obtain ⟨noted, sameProgress⟩ := polled
      cases sameProgress with
      | finished sameValues => exact inductionHypothesis _ _ sameValues noted
      | failed error => exact ⟨.failed error, noted⟩
      | pending sameRest => exact ⟨.pending (.turns sameRest onwards), noted⟩

/-- Tasks that match are run to their end in unison. -/
theorem Matches.settle {α : Type} {related : α → α → Prop}
    {task otherTask : Task α} (same : Matches related task otherTask)
    (sources : source.Matches other) {journal otherJournal : Journal}
    (journals : journal.Matches otherJournal) :
    ResultsMatch related (task.settle source journal).1
        (otherTask.settle other otherJournal).1 ∧
      (task.settle source journal).2.Matches
        (otherTask.settle other otherJournal).2 := by
  revert otherTask otherJournal
  fun_induction Task.settle source task journal with
  | case1 task journal value after polled =>
      intro otherTask same otherJournal journals
      have outcomes := same.poll sources journals
      rw [polled] at outcomes
      cases otherPolled : otherTask.poll other otherJournal with
      | mk progress otherAfter =>
      rw [otherPolled] at outcomes
      obtain ⟨finished, noted⟩ := outcomes
      cases finished with
      | finished same =>
          rw [Task.settle, otherPolled]
          exact ⟨.ok same, noted⟩
  | case2 task journal error after polled =>
      intro otherTask same otherJournal journals
      have outcomes := same.poll sources journals
      rw [polled] at outcomes
      cases otherPolled : otherTask.poll other otherJournal with
      | mk progress otherAfter =>
      rw [otherPolled] at outcomes
      obtain ⟨failed, noted⟩ := outcomes
      cases failed with
      | failed error =>
          rw [Task.settle, otherPolled]
          exact ⟨.error error, noted⟩
  | case3 task journal rest after polled inductionHypothesis =>
      intro otherTask same otherJournal journals
      have outcomes := same.poll sources journals
      rw [polled] at outcomes
      cases otherPolled : otherTask.poll other otherJournal with
      | mk progress otherAfter =>
      rw [otherPolled] at outcomes
      obtain ⟨pending, noted⟩ := outcomes
      cases pending with
      | pending same =>
          rw [Task.settle.eq_def other otherTask, otherPolled]
          exact inductionHypothesis same noted

end Polling

end Task

/-! ## Loads -/

def LoadedActor.unseen (loaded : LoadedActor) : LoadedActor :=
  { loaded with asset := loaded.asset.unseen }

def LoadedScene.unseen (loaded : LoadedScene) : LoadedScene :=
  { loaded with actors := loaded.actors.map LoadedActor.unseen }

def LoadedFamily.unseen (loaded : LoadedFamily) : LoadedFamily :=
  { loaded with
    main := loaded.main.unseen
    sides := loaded.sides.map LoadedScene.unseen }

/-- Lists that a function does not tell apart, item by item. -/
theorem forall₂_iff_map_eq {α β : Type} {view : α → β} {items others : List α} :
    List.Forall₂ (fun item other => view item = view other) items others ↔
      items.map view = others.map view := by
  rw [← List.forall₂_eq_eq_eq, List.forall₂_map_left_iff,
    List.forall₂_map_right_iff]

theorem ResultsMatch.of_map_eq {α β : Type} {view : α → β}
    {result other : Except LoadError α}
    (same : result.map view = other.map view) :
    ResultsMatch (fun value otherValue => view value = view otherValue) result
      other := by
  cases result with
  | error error =>
      cases other with
      | error otherError =>
          obtain rfl : error = otherError := Except.error.inj same
          exact .error error
      | ok otherValue => cases same
  | ok value =>
      cases other with
      | error otherError => cases same
      | ok otherValue => exact .ok (Except.ok.inj same)

theorem SceneData.sameAmbience {found others : SceneData}
    (same : found.unseen = others.unseen) :
    found.ambience = others.ambience :=
  (congrArg SceneData.ambience same :)

namespace LoadContext

theorem compileActors_unseen (scene : SceneIndex) (assets : List ActorAsset)
    (position : Nat) :
    compileActors scene position (assets.map ActorAsset.unseen) =
      (compileActors scene position assets).map
        (List.map LoadedActor.unseen) := by
  induction assets generalizing position with
  | nil => rfl
  | cons asset rest inductionHypothesis =>
      simp only [List.map_cons, compileActors, inductionHypothesis]
      rw [show asset.unseen.data.life = asset.data.life from rfl,
        show asset.unseen.data.move = asset.data.move from rfl,
        show asset.unseen.data.name = asset.data.name from rfl]
      cases Program.compile asset.data.life with
      | error jump => rfl
      | ok life =>
          cases Program.compile asset.data.move with
          | error jump => rfl
          | ok move =>
              cases compileActors scene (position + 1) rest <;> rfl

theorem programsOf_unseen (actors : List LoadedActor) :
    programsOf (actors.map LoadedActor.unseen) = programsOf actors :=
  List.flatMap_map ..

variable (context : LoadContext)

theorem actorRequests_match (kind : SceneKind) {found others : SceneData}
    (same : found.unseen = others.unseen) :
    List.Forall₂
      (Errand.Matches fun asset other => asset.unseen = other.unseen)
      (context.actorRequests kind found)
      (context.actorRequests kind others) := by
  have actors : found.actors.map ActorData.unseen =
      others.actors.map ActorData.unseen :=
    (congrArg SceneData.actors same :)
  unfold actorRequests
  rw [SceneData.sameAmbience same]
  refine List.forall₂_map_left_iff.mpr (List.forall₂_map_right_iff.mpr ?_)
  exact (forall₂_iff_map_eq.mpr actors).imp fun _ _ sameActor =>
    ⟨⟨rfl, rfl, sameActor⟩, rfl, fun _ _ sameAnswer => sameAnswer⟩

theorem sceneryFor_matches (kind : SceneKind) (ambience : Ambience)
    (shared : Option Scenery) :
    Task.Matches Eq (context.sceneryFor kind ambience shared)
      (context.sceneryFor kind ambience shared) := by
  cases shared with
  | some scenery => exact .done rfl
  | none =>
      have same : Fetch.Matches
          (.scenery (context.sceneryKey kind) ambience)
          (.scenery (context.sceneryKey kind) ambience) := ⟨rfl, rfl⟩
      exact .ask same

theorem assemble_unseen (index : SceneIndex) (kind : SceneKind)
    {found others : SceneData} (same : found.unseen = others.unseen)
    {actors otherActors : List LoadedActor}
    (sameActors : actors.map LoadedActor.unseen =
      otherActors.map LoadedActor.unseen) (offset : Vec3) :
    (context.assemble index kind found actors offset).unseen =
      (context.assemble index kind others otherActors offset).unseen := by
  have zones : found.zones = others.zones :=
    (congrArg SceneData.zones same :)
  have points : found.points = others.points :=
    (congrArg SceneData.points same :)
  have samePrograms : programsOf actors = programsOf otherActors := by
    rw [← programsOf_unseen, sameActors, programsOf_unseen]
  simp only [assemble, LoadedScene.unseen, sameActors, samePrograms, zones,
    points, SceneData.sameAmbience same]

/-- The parts of a scene are loaded in unison. -/
theorem scene_matches (index : SceneIndex) (shared : Option Scenery) :
    Task.Matches
      (fun found other => found.1.unseen = other.1.unseen ∧ found.2 = other.2)
      (context.scene index shared) (context.scene index shared) := by
  unfold scene
  cases context.map.kind? index with
  | none => exact .failed _
  | some kind =>
      have asked : Fetch.Matches (.scene context.language index)
          (.scene context.language index) := ⟨rfl, rfl⟩
      refine (Task.Matches.ask asked).bind fun found others same => ?_
      have sameData : SceneData.unseen found = SceneData.unseen others := same
      refine (Task.Matches.runErrands
        (context.actorRequests_match kind sameData)).bind
        fun assets otherAssets sameAssets => ?_
      have compiled :
          (compileActors index 0 assets).map (List.map LoadedActor.unseen) =
            (compileActors index 0 otherAssets).map
              (List.map LoadedActor.unseen) := by
        rw [← compileActors_unseen, ← compileActors_unseen,
          forall₂_iff_map_eq.mp sameAssets]
      refine (Task.Matches.ofExcept (.of_map_eq compiled)).bind
        fun actors otherActors sameActors => ?_
      rw [SceneData.sameAmbience sameData]
      refine (context.sceneryFor_matches kind _ shared).bind
        fun scenery _ sameScenery => ?_
      subst sameScenery
      have placed : ResultsMatch Eq (offsetOf index kind scenery)
          (offsetOf index kind scenery) := by
        cases offsetOf index kind scenery with
        | ok offset => exact .ok rfl
        | error error => exact .error error
      refine (Task.Matches.ofExcept placed).bind fun offset _ sameOffset => ?_
      subst sameOffset
      exact .done
        ⟨context.assemble_unseen index kind sameData sameActors offset, rfl⟩

/-- A family is loaded in unison, whichever of its actors have models. -/
theorem family_matches (index : SceneIndex) :
    Task.Matches (fun loaded other => loaded.unseen = other.unseen)
      (context.family index) (context.family index) := by
  unfold family
  refine (context.scene_matches index none).bind
    fun ⟨main, scenery⟩ ⟨otherMain, _⟩ ⟨sameMain, sameScenery⟩ => ?_
  subst sameScenery
  have sides := List.forall₂_map_left_iff.mpr
    (List.forall₂_map_right_iff.mpr
      (List.forall₂_same.mpr fun side (_ : side ∈ context.map.sideScenes index) =>
        context.scene_matches side (some scenery)))
  refine (Task.Matches.together sides).bind
    fun loaded others sameSides => .done ?_
  have sameScenes : (loaded.map Prod.fst).map LoadedScene.unseen =
      (others.map Prod.fst).map LoadedScene.unseen := by
    rw [← forall₂_iff_map_eq, List.forall₂_map_left_iff,
      List.forall₂_map_right_iff]
    exact sameSides.imp fun _ _ same => same.1
  simp only [LoadedFamily.unseen, sameScenes]
  rw [show main.unseen = otherMain.unseen from sameMain]

end LoadContext

end Stagecraft
