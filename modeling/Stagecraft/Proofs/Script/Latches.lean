import Stagecraft.Proofs.Script.Testing
import Stagecraft.Proofs.Script.Wakefulness

/-!
# Tests remember what they saw

A one-time test passes once, a switching test passes when its condition turns
true. Each script holds one bit for either kind of test, and this bit sums up all
values that the condition of the test had since the script was created or renewed.
The history itself is kept beside a rehearsal: it grows when a test is made, and is
forgotten when the actor is woken or put back to how it was loaded.
-/

namespace Stagecraft

namespace Moment

/-! ## Tests and renewals of a moment -/

/-- Whether the next thing that is done is to put an actor back to how it was
loaded. -/
def resets (moment : Moment) (actor : Nat) : Bool :=
  match moment with
  | .resting (.intervene (.reset target) :: _) _ => target == actor
  | _ => false

/-- Whether the scripts of an actor are renewed between two moments: the actor is
woken, or put back to how it was loaded. -/
def renews (before after : Moment) (actor : Nat) : Bool :=
  !before.play.isAlive actor && after.play.isAlive actor ||
    before.resets actor

/-- The test that the next instruction makes, with the value of its condition. -/
def trial? : Moment → Option (TraceStep × Bool)
  | .working ⟨runner, kind, script, _ + 1⟩ _ play => do
      let command ← script.current?
      let condition ← command.condition?
      let site : TraceStep := ⟨runner, kind, script.state.position⟩
      let started := play.note (.executed site)
      return (site, (started.evaluate runner condition).1)
  | _ => none

/-- The value that the condition of a test comes to next, if it is this test that is
made next. -/
def value? (moment : Moment) (site : TraceStep) : Option Bool :=
  match moment.trial? with
  | some (tested, value) => if tested = site then some value else none
  | none => none

end Moment

/-- For each command the values that its condition had since its script was created
or renewed, in order. -/
abbrev Ledger := TraceStep → List Bool

def Ledger.blank : Ledger := fun _ => []

def Ledger.record (ledger : Ledger) (before after : Moment) : Ledger :=
  fun site =>
    (if before.renews after site.actor then [] else ledger site) ++
      (before.value? site).toList

/-- Whether the moments from a first one on lead to a moment and have filled a
ledger. -/
inductive Moment.Course (start : Moment) : Ledger → Moment → Prop where
  | begins : Course start Ledger.blank start
  | goesOn {ledger : Ledger} {before after : Moment}
      (course : Course start ledger before) (next : before.Next after) :
      Course start (ledger.record before after) after

theorem Moment.course_of_leads
    {start moment : Moment} (leads : start.Leads moment) :
    ∃ ledger, start.Course ledger moment := by
  induction leads with
  | refl => exact ⟨_, .begins⟩
  | tail _ next inductionHypothesis =>
      obtain ⟨ledger, course⟩ := inductionHypothesis
      exact ⟨_, .goesOn course next⟩

theorem Moment.Course.leads
    {start moment : Moment} {ledger : Ledger}
    (course : start.Course ledger moment) : start.Leads moment := by
  induction course with
  | begins => exact .refl
  | goesOn course next inductionHypothesis =>
      exact inductionHypothesis.tail next

namespace Moment

/-! ## What one moment does to scripts -/

variable {specs : List ActorData} {before after : Moment}

/-- The actor of a script at work is awake. -/
theorem runnerWakes_next (next : Next before after)
    (wakes : before.RunnerWakes) : after.RunnerWakes := by
  cases next with
  | intervenes _ _ _ | opens _ _ _ | closes _ _ _ | passes _ _ _ _
  | halts _ _ _ | tires _ _ _ _ | ends _ _ _ _ => trivial
  | begins turns budget deeds ready =>
      show Play.isAlive _ _ = true
      rw [Play.isAlive_putScript]
      exact (Play.ready?_eq_some ready).2
  | goesOn agenda current steps instructs =>
      exact (Play.does_instruct wakes instructs).2 rfl

section Trials

variable {work : Work} {agenda : Agenda} {play : Play} {command : Command}
  {rest : Nat}

theorem renews_working (after : Moment) (actor : Nat) :
    (working work agenda play).renews after actor =
      (!play.isAlive actor && after.play.isAlive actor) :=
  Bool.or_false _

theorem trial?_of_condition? (agenda : Agenda) (play : Play)
    (current : work.script.current? = some command)
    (steps : work.steps = rest + 1) {condition : Condition}
    (tests : command.condition? = some condition) :
    let site : TraceStep :=
      ⟨work.runner, work.kind, work.script.state.position⟩
    (working work agenda play).trial? =
      some
        (site,
          ((play.note (.executed site)).evaluate work.runner condition).1) := by
  obtain ⟨runner, kind, script, count⟩ := work
  subst steps
  simp only [trial?, current, tests, Option.bind_eq_bind, Option.bind_some]
  rfl

theorem trial?_of_past (past : work.script.current? = none) :
    (working work agenda play).trial? = none := by
  obtain ⟨runner, kind, script, count⟩ := work
  cases count with
  | zero => rfl
  | succ rest => simp only [trial?, past, Option.bind_eq_bind, Option.bind_none]

theorem trial?_of_tired (tired : work.steps = 0) :
    (working work agenda play).trial? = none := by
  obtain ⟨runner, kind, script, count⟩ := work
  subst tired
  rfl

theorem trial?_of_untested
    (current : work.script.current? = some command)
    (untested : command.condition? = none) :
    (working work agenda play).trial? = none := by
  obtain ⟨runner, kind, script, count⟩ := work
  cases count with
  | zero => rfl
  | succ rest =>
      simp only [trial?, current, untested, Option.bind_eq_bind,
        Option.bind_some, Option.bind_none]

/-- Only the script at work makes a test, where it stands. -/
theorem site_of_trial?
    {site : TraceStep} {value : Bool}
    (tried : (working work agenda play).trial? = some (site, value)) :
    site = ⟨work.runner, work.kind, work.script.state.position⟩ := by
  obtain ⟨runner, kind, script, count⟩ := work
  cases count with
  | zero => cases tried
  | succ rest =>
      simp only [trial?, Option.bind_eq_bind, Option.bind_eq_some_iff] at tried
      obtain ⟨command, current, condition, tests, same⟩ := tried
      cases same
      rfl

theorem value?_of_trial?
    {moment : Moment} {site : TraceStep} {value : Bool}
    (tried : moment.trial? = some (site, value)) (other : TraceStep) :
    moment.value? other = if site = other then some value else none := by
  simp only [value?, tried]

theorem value?_of_trial?_eq_none
    {moment : Moment} (idle : moment.trial? = none) (site : TraceStep) :
    moment.value? site = none := by
  simp only [value?, idle]

theorem value?_of_other
    {actor : Nat} {kind : ScriptKind}
    (other : ¬ (work.runner = actor ∧ work.kind = kind)) (index : Nat) :
    (working work agenda play).value? ⟨actor, kind, index⟩ = none := by
  cases tried : (working work agenda play).trial? with
  | none => exact value?_of_trial?_eq_none tried _
  | some trial =>
      obtain ⟨site, value⟩ := trial
      obtain rfl := site_of_trial? tried
      rw [value?_of_trial? tried, if_neg]
      rintro ⟨⟩
      exact other ⟨rfl, rfl⟩

/-- What an instruction does to scripts: it notes its own test in the script at
work, and renews the scripts of an actor that it wakes. -/
theorem learns_instruct
    {next : Play} {script : Script} {goes : Bool}
    (keeps : (working work agenda play).Keeps specs)
    (wakes : play.isAlive work.runner = true)
    (current : work.script.current? = some command)
    (steps : work.steps = rest + 1)
    (instructs : play.instruct work.runner work.kind command work.script =
      (goes, script, next)) (left : Nat)
    {actor : Nat} {kind : ScriptKind} {later : Script}
    (found : (working ⟨work.runner, work.kind, script, left⟩ agenda
      next).script? actor kind = some later) :
    ∃ old, (working work agenda play).script? actor kind = some old ∧
      old.Learns (!play.isAlive actor && next.isAlive actor)
        (fun index =>
          (working work agenda play).value? ⟨actor, kind, index⟩)
        later := by
  by_cases own : work.runner = actor ∧ work.kind = kind
  · obtain ⟨rfl, rfl⟩ := own
    obtain rfl : script = later :=
      Option.some.inj ((if_pos ⟨rfl, rfl⟩).symm.trans found)
    refine ⟨work.script, if_pos ⟨rfl, rfl⟩, ?_⟩
    simp only [wakes, Bool.not_true, Bool.false_and]
    cases tests : command.condition? with
    | none =>
        have same : work.script.SameTests
            (play.instruct work.runner work.kind command
              work.script).2.1 :=
          Play.sameTests_instruct tests work.script play
        rw [instructs] at same
        exact same.learns fun index =>
          value?_of_trial?_eq_none (trial?_of_untested current tests) _
    | some condition =>
        obtain ⟨target, jumps⟩ := Command.jumpTarget?_of_condition? tests
        have made :=
          play.instruct_of_condition? work.runner work.kind tests jumps
            work.script
        have tried := trial?_of_condition? agenda play current steps tests
        obtain ⟨spec, given, kept⟩ :=
          keeps.scripts work.runner work.kind work.script
            (if_pos ⟨rfl, rfl⟩)
        rw [instructs] at made
        obtain rfl : script = _ := congrArg (fun done => done.2.1) made
        refine Script.learns_noting kept current
          (Script.sameTests_goTo _ _) ?_ ?_
        · rw [value?_of_trial? tried, if_pos rfl]
        · intro index apart
          rw [value?_of_trial? tried, if_neg]
          rintro ⟨⟩
          exact apart rfl
  · have cases := play.instructs work.runner work.kind command work.script
    rw [instructs] at cases
    have renewed := Play.renews_instructs cases actor kind
    rw [script?, if_neg own, renewed, Option.map_eq_some_iff] at found
    obtain ⟨old, inSlot, rfl⟩ := found
    exact ⟨old, (if_neg own).trans inSlot,
      old.learns_renewed _ (value?_of_other own)⟩

end Trials

section Steps

variable {actor : Nat} {kind : ScriptKind} {later : Script}

/-- A change from outside that puts nobody back renews the scripts of an actor only
by waking it. -/
theorem learns_of_renews {intervention : Intervention} {deeds : List Deed}
    {play : Play}
    (spares :
      (resting (.intervene intervention :: deeds) play).resets actor = false)
    (renewal : play.Renews (play.intervene intervention))
    (found : (play.intervene intervention).script? actor kind = some later) :
    let before := resting (.intervene intervention :: deeds) play
    let after := resting deeds (play.intervene intervention)
    ∃ script, before.script? actor kind = some script ∧
      script.Learns (before.renews after actor)
        (fun index => before.value? ⟨actor, kind, index⟩) later := by
  intro before after
  rw [renewal actor kind, Option.map_eq_some_iff] at found
  obtain ⟨script, there, rfl⟩ := found
  refine ⟨script, there, ?_⟩
  rw [renews, spares, Bool.or_false]
  exact script.learns_renewed _ fun _ => rfl

/-- An actor that is put back to how it was loaded forgets all, any other one
nothing. -/
theorem learns_putBack {target : Nat} (deeds : List Deed) (play : Play)
    (found : (play.intervene (.reset target)).script? actor kind =
      some later) :
    let before := resting (.intervene (.reset target) :: deeds) play
    let after := resting deeds (play.intervene (.reset target))
    ∃ script, before.script? actor kind = some script ∧
      script.Learns (before.renews after actor)
        (fun index => before.value? ⟨actor, kind, index⟩) later := by
  intro before after
  have made (actor : Actor) (tree : NodeTree) :
      (actor.reset tree).1 = actor.atSpawn :=
    rfl
  have changed := play.actors_changeActor target made
  rw [Play.intervene, Play.script?_of_modify changed] at found
  by_cases own : target = actor
  · subst own
    rw [if_pos rfl, Option.map_eq_some_iff] at found
    obtain ⟨loaded, present, rfl⟩ := found
    refine ⟨loaded.script kind, ?_, ?_⟩
    · exact Option.map_eq_some_iff.mpr ⟨loaded, present, rfl⟩
    · rw [renews, resets, beq_self_eq_true, Bool.or_true]
      have put :
          loaded.atSpawn.script kind = (loaded.script kind).reset := by
        cases kind <;> rfl
      rw [put]
      exact Script.learns_reset _ fun _ => rfl
  · rw [if_neg own] at found
    refine ⟨later, found, ?_⟩
    have awake : after.play.isAlive actor = before.play.isAlive actor := by
      show (play.changeActor target Actor.reset).isAlive actor =
        play.isAlive actor
      rw [Play.isAlive_eq, Play.isAlive_eq, changed,
        List.getElem?_modify_ne Actor.atSpawn play.actors own]
    rw [renews, resets, awake, Bool.not_and_self,
      beq_eq_false_iff_ne.mpr own, Bool.or_self]
    exact (Script.SameTests.refl later).learns fun _ => rfl

/-- What a change from outside does to scripts: it renews those of an actor that it
wakes or puts back to how it was loaded. -/
theorem learns_intervenes (intervention : Intervention) (deeds : List Deed)
    (play : Play)
    (found : (play.intervene intervention).script? actor kind = some later) :
    let before := resting (.intervene intervention :: deeds) play
    let after := resting deeds (play.intervene intervention)
    ∃ script, before.script? actor kind = some script ∧
      script.Learns (before.renews after actor)
        (fun index => before.value? ⟨actor, kind, index⟩) later := by
  cases intervention with
  | kill target =>
      refine learns_of_renews rfl ?_ found
      exact Play.renews_of_modify
        (play.actors_changeActor target Actor.kill_actor)
        Actor.renews_killed
  | revive target =>
      refine learns_of_renews rfl ?_ found
      exact Play.renews_of_modify
        (play.actors_changeActor target Actor.revive_actor)
        Actor.renews_woken
  | pose target position behaviour animation =>
      refine learns_of_renews rfl ?_ found
      refine Play.renews_of_modify rfl fun actor => ?_
      apply Actor.renews_of_same rfl
      intro kind
      cases kind <;> rfl
  | arrange cube game zones points =>
      exact learns_of_renews rfl (Play.renews_of_actors rfl) found
  | reset target => exact learns_putBack deeds play found

/-- A script that was there before is renewed and tested by nobody at a moment at
which no test is made, nobody wakes and nobody is put back. -/
theorem learns_of_rests
    (awake : after.play.isAlive = before.play.isAlive)
    (idle : before.trial? = none) (spares : before.resets actor = false)
    {script : Script} (there : before.script? actor kind = some script)
    (same : script.SameTests later) :
    ∃ script, before.script? actor kind = some script ∧
      script.Learns (before.renews after actor)
        (fun index => before.value? ⟨actor, kind, index⟩) later := by
  refine ⟨script, there, ?_⟩
  rw [renews, awake, Bool.not_and_self, spares, Bool.or_false]
  exact same.learns fun index => value?_of_trial?_eq_none idle _

/-- What one moment does to scripts. -/
theorem learns_next (next : Next before after) (keeps : before.Keeps specs)
    (wakes : before.RunnerWakes)
    (found : after.script? actor kind = some later) :
    ∃ script, before.script? actor kind = some script ∧
      script.Learns (before.renews after actor)
        (fun index => before.value? ⟨actor, kind, index⟩) later := by
  cases next with
  | intervenes intervention deeds play =>
      exact learns_intervenes intervention deeds play found
  | opens _ _ _ | closes _ _ _ | passes _ _ _ _ =>
      exact learns_of_rests rfl rfl rfl found (.refl later)
  | begins turns budget deeds ready =>
      rw [script?_begins _ _ (Play.ready?_eq_some ready).1] at found
      exact learns_of_rests (Play.isAlive_putScript ..) rfl rfl found
        (.refl later)
  | @halts work agenda play past =>
      have idle : (working work agenda play).trial? = none :=
        trial?_of_past past
      rcases script?_of_putScript agenda found with
        ⟨rfl, own⟩ | ⟨known, -⟩
      · exact learns_of_rests (Play.isAlive_putScript ..) idle rfl
          (if_pos own) work.script.sameTests_halt
      · exact learns_of_rests (Play.isAlive_putScript ..) idle rfl known
          (.refl later)
  | @tires work agenda play command current tired =>
      have idle : (working work agenda play).trial? = none :=
        trial?_of_tired tired
      rcases script?_of_putScript agenda found with
        ⟨rfl, own⟩ | ⟨known, -⟩
      · exact learns_of_rests (Play.isAlive_putScript ..) idle rfl
          (if_pos own) (.refl work.script)
      · exact learns_of_rests (Play.isAlive_putScript ..) idle rfl known
          (.refl later)
  | goesOn agenda current steps instructs =>
      obtain ⟨script, there, learns⟩ :=
        learns_instruct keeps wakes current steps instructs _ found
      refine ⟨script, there, ?_⟩
      rw [renews_working]
      exact learns
  | @ends work agenda play after command script rest current steps
      instructs =>
      -- What is put back is what the instruction has left at work.
      have left :
          (working ⟨work.runner, work.kind, script, rest⟩ agenda
            after).script? actor kind = some later := by
        rcases @script?_of_putScript _ ⟨work.runner, work.kind, script, rest⟩
            agenda _ _ _ _ found
          with ⟨rfl, own⟩ | ⟨known, -⟩
        · exact if_pos own
        · exact known
      obtain ⟨old, there, learns⟩ :=
        learns_instruct keeps wakes current steps instructs rest left
      refine ⟨old, there, ?_⟩
      rw [renews_working, Moment.play, Play.isAlive_putScript]
      exact learns

end Steps

/-! ## Notes and history -/

/-- What holds at a moment that a ledger was kept up to. -/
structure Remembers (specs : List ActorData) (ledger : Ledger)
    (moment : Moment) : Prop where
  keeps : moment.Keeps specs
  wakes : moment.RunnerWakes
  recalls : ∀ actor kind script, moment.script? actor kind = some script →
    script.Recalls fun index => ledger ⟨actor, kind, index⟩

theorem remembers_resting
    {start : Play}
    (built : List.Forall₂
      (fun spec actor => ∃ node, Actor.ofData spec node = .ok actor)
      specs start.actors) (deeds : List Deed) :
    (resting deeds start).Remembers specs Ledger.blank := by
  refine ⟨keeps_resting built deeds, trivial, ?_⟩
  intro actor kind script found
  obtain ⟨member, inPlay, rfl⟩ := Option.map_eq_some_iff.mp found
  obtain ⟨inside, rfl⟩ := List.getElem?_eq_some_iff.mp inPlay
  have insideSpecs : actor < specs.length := by
    rw [built.length_eq]
    exact inside
  obtain ⟨node, made⟩ := built.get insideSpecs inside
  exact Script.recalls_of_reset (Actor.reset_script_of_ofData made kind)

theorem remembers_next
    {ledger : Ledger} (next : Next before after)
    (remembers : before.Remembers specs ledger) :
    after.Remembers specs (ledger.record before after) := by
  refine ⟨keeps_next next remembers.keeps,
    runnerWakes_next next remembers.wakes, ?_⟩
  intro actor kind later found
  obtain ⟨script, there, learns⟩ :=
    learns_next next remembers.keeps remembers.wakes found
  exact (remembers.recalls actor kind script there).learns learns

theorem Course.remembers
    {start moment : Moment} {ledger : Ledger}
    (course : start.Course ledger moment)
    (begun : start.Remembers specs Ledger.blank) :
    moment.Remembers specs ledger := by
  induction course with
  | begins => exact begun
  | goesOn course next inductionHypothesis =>
      exact remembers_next next inductionHypothesis

/-- Whether exactly one moment follows, at which the script at work has executed
its command and stands at a position in the same turn. -/
def GoesOnAt (moment : Moment) (position : Nat) : Prop :=
  ∃ runner kind script steps next rest agenda play scene,
    moment = .working ⟨runner, kind, script, steps⟩ agenda play ∧
      (∀ after, moment.Next after ↔
        after = .working ⟨runner, kind, next, rest⟩ agenda scene) ∧
      next.program = script.program ∧
      next.state.position = position

/-- An instruction after which the turn goes on leads to one moment only. -/
theorem next_iff_of_goesOn
    {work : Work} {agenda : Agenda} {play scene : Play} {command : Command}
    {script : Script} {rest : Nat}
    (current : work.script.current? = some command)
    (steps : work.steps = rest + 1)
    (instructs : play.instruct work.runner work.kind command work.script =
      (true, script, scene)) :
    Next (working work agenda play) after ↔
      after = working ⟨work.runner, work.kind, script, rest⟩ agenda scene := by
  constructor
  · intro next
    cases next with
    | halts agenda play past => rw [past] at current; cases current
    | tires agenda play currentToo tired => rw [tired] at steps; cases steps
    | goesOn agenda currentToo stepsToo instructsToo =>
        rw [current, Option.some.injEq] at currentToo
        rw [steps, Nat.add_right_cancel_iff] at stepsToo
        subst currentToo stepsToo
        rw [instructs] at instructsToo
        cases instructsToo
        rfl
    | ends agenda currentToo stepsToo instructsToo =>
        rw [current, Option.some.injEq] at currentToo
        subst currentToo
        rw [instructs] at instructsToo
        cases instructsToo
  · rintro rfl
    exact .goesOn agenda current steps instructs

/-- Where a test leads, in terms of what its script has noted. -/
theorem goesOnAt_of_condition?
    (agenda : Agenda) (play : Play) {work : Work} {command : Command}
    {rest : Nat} {condition : Condition} {target : UInt64}
    (current : work.script.current? = some command)
    (steps : work.steps = rest + 1)
    (tests : command.condition? = some condition)
    (jumps : command.jumpTarget? = some target) :
    let site : TraceStep :=
      ⟨work.runner, work.kind, work.script.state.position⟩
    let value :=
      ((play.note (.executed site)).evaluate work.runner condition).1
    (working work agenda play).value? site = some value ∧
      (working work agenda play).GoesOnAt
        (if work.script.passes command value then
          work.script.state.position + 1
        else
          target.toNat) := by
  intro site value
  have made :=
    play.instruct_of_condition? work.runner work.kind tests jumps
      work.script
  refine ⟨?_, ?_⟩
  · rw [value?_of_trial? (trial?_of_condition? agenda play current steps tests),
      if_pos rfl]
  · exact ⟨work.runner, work.kind, work.script, work.steps, _, rest, agenda,
      play, _, rfl, fun after => next_iff_of_goesOn current steps made,
      work.script.program_noting command value, rfl⟩

end Moment

namespace Play

/-! ## Whole rehearsals -/

/-- Throughout any rehearsal of actors that were just built, each test with a memory
goes by all the values that its condition had since the actor was built, woken or
put back to how it was loaded: a one-time test is passed when the condition is true
for the first time, and a switching test is passed when the condition is true and
was not true the time before. Nothing but a test of the same script at the same
position changes what a script has noted there, as long as its actor is not woken or
put back. -/
theorem tests_follow_history
    {specs : List ActorData} {start : Play}
    (built : List.Forall₂
      (fun spec actor => ∃ node, Actor.ofData spec node = .ok actor)
      specs start.actors) (deeds : List Deed) :
    let first := Moment.resting deeds start
    first.Leads (.resting [] (start.rehearse deeds)) ∧
      (∀ moment, first.Leads moment →
        ∃ ledger, first.Course ledger moment) ∧
      ∀ ledger moment, first.Course ledger moment →
        (∀ work agenda play rest condition target,
          moment = .working work agenda play → work.steps = rest + 1 →
          let site : TraceStep :=
            ⟨work.runner, work.kind, work.script.state.position⟩
          let value :=
            ((play.note (.executed site)).evaluate work.runner condition).1
          (work.script.current? = some (.oneIf condition target) →
            moment.value? site = some value ∧
              moment.GoesOnAt
                (if value = true ∧ true ∉ ledger site then
                  site.position + 1
                else
                  target.toNat)) ∧
          (work.script.current? = some (.switchIf condition target) →
            moment.value? site = some value ∧
              moment.GoesOnAt
                (if value = true ∧ (ledger site).getLast? ≠ some true then
                  site.position + 1
                else
                  target.toNat))) ∧
        ∀ after, moment.Next after → ∀ actor kind later,
          after.script? actor kind = some later →
          ∃ script, moment.script? actor kind = some script ∧
            (moment.renews after actor = false →
              ∀ index, moment.value? ⟨actor, kind, index⟩ = none →
                later.isSpent index = script.isSpent index ∧
                  later.lastSeen index = script.lastSeen index) := by
  intro first
  refine ⟨by simpa using Moment.leads_rehearse deeds [] start,
    fun _ => Moment.course_of_leads, ?_⟩
  intro ledger moment course
  have remembers := course.remembers (Moment.remembers_resting built deeds)
  refine ⟨?_, ?_⟩
  · rintro work agenda play rest condition target rfl steps site value
    have recalls :=
      remembers.recalls work.runner work.kind work.script
        (if_pos ⟨rfl, rfl⟩)
    refine ⟨?_, ?_⟩
    · intro current
      obtain ⟨tried, goes⟩ :=
        Moment.goesOnAt_of_condition? agenda play current steps rfl rfl
      refine ⟨tried, ?_⟩
      simpa [Script.passes, recalls.spent _ _ _ current] using goes
    · intro current
      obtain ⟨tried, goes⟩ :=
        Moment.goesOnAt_of_condition? agenda play current steps rfl rfl
      refine ⟨tried, ?_⟩
      simpa [Script.passes, recalls.last _ _ _ current] using goes
  · intro after next actor kind later found
    obtain ⟨script, there, learns⟩ :=
      Moment.learns_next next remembers.keeps remembers.wakes found
    exact ⟨script, there, learns.others⟩

/-- The sleeper is awake when it first asks, so it passes its one-time test. -/
theorem tests_follow_history_sleeper :
    List.Forall₂
        (fun spec actor => ∃ node, Actor.ofData spec node = .ok actor)
        [sleeper] bedroom.actors ∧
      ∃ work agenda play,
        (Moment.resting [.tick 5] bedroom).Leads
            (.working work agenda play) ∧
          work.script.state.position = 0 ∧
          (Moment.working work agenda play).GoesOnAt 1 := by
  have built :
      List.Forall₂
        (fun spec actor => ∃ node, Actor.ofData spec node = .ok actor)
        [sleeper] bedroom.actors :=
    .cons ⟨none, rfl⟩ .nil
  obtain ⟨-, -, follows⟩ := tests_follow_history built [.tick 5]
  have opened := Moment.Course.begins.goesOn (.opens 5 [] bedroom)
  have ready : bedroom.ready? (0, .life) = some _ := rfl
  have begun := opened.goesOn (.begins [(0, .move)] 5 [] ready)
  obtain ⟨passed, -⟩ := (follows _ _ begun).1 _ _ _ 4 _ _ rfl rfl
  obtain ⟨-, goes⟩ := passed rfl
  exact ⟨built, _, _, _, begun.leads, rfl, goes⟩

end Play

end Stagecraft
