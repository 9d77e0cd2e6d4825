import Stagecraft.Proofs.Script.Changes
import Stagecraft.Proofs.Script.Chronicle
import Stagecraft.Proofs.Script.Instructions
import Stagecraft.Proofs.Script.Moments

/-!
# Actors that sleep and wake

Only actors that are awake execute instructions, and an actor that was woken starts
both its scripts anew. This holds although a script at work is out of its slot,
because its actor stays awake until the turn is over: nothing else can put it to
sleep, and nobody can wake it.
-/

namespace Stagecraft

/-! ## Scripts that start anew -/

/-- Whether a script stands at its first command with all tests forgotten. -/
structure Script.AtStart (script : Script) : Prop where
  position : script.state.position = 0
  spent : script.state.spent = List.replicate script.program.size false
  last : script.state.last = List.replicate script.program.size false

theorem Script.atStart_reset (script : Script) : script.reset.AtStart :=
  ⟨rfl, rfl, rfl⟩

theorem Script.AtStart.halt
    {script : Script} (starts : script.AtStart) : script.halt.AtStart :=
  ⟨starts.position, starts.spent, starts.last⟩

/-- Whether a script that is to start anew, or not, is to do so after a note: it is
once its actor was woken, until it executes an instruction. -/
def Note.renews (actor : Nat) (kind : ScriptKind) (fresh : Bool) : Note → Bool
  | .event (.revived other _) => other == actor || fresh
  | .executed step => !(step.actor == actor && step.kind == kind) && fresh
  | _ => fresh

/-- Whether a script is to start anew after notes. -/
def renewed (actor : Nat) (kind : ScriptKind) (notes : List Note)
    (fresh : Bool) : Bool :=
  notes.foldl (Note.renews actor kind) fresh

theorem renewed_append (actor : Nat) (kind : ScriptKind)
    (first second : List Note) (fresh : Bool) :
    renewed actor kind (first ++ second) fresh =
      renewed actor kind second (renewed actor kind first fresh) :=
  List.foldl_append

theorem renewed_warnings (actor : Nat) (kind : ScriptKind)
    (warnings : List Warning) (fresh : Bool) :
    renewed actor kind (warnings.map Note.warning) fresh = fresh := by
  induction warnings with
  | nil => rfl
  | cons warning rest inductionHypothesis => exact inductionHypothesis

/-- Whether every script that is to start anew does so with its first command. -/
def Opens (notes : List Note) : Prop :=
  ∀ earlier step later, notes = earlier ++ .executed step :: later →
    renewed step.actor step.kind earlier false = true → step.position = 0

theorem Opens.concat
    {notes : List Note} (opens : Opens notes) {note : Note}
    (starts : ∀ step, note = .executed step →
      renewed step.actor step.kind notes false = true → step.position = 0) :
    Opens (notes ++ [note]) := by
  intro earlier step later split fresh
  rcases List.eq_nil_or_concat later with rfl | ⟨others, last, rfl⟩
  · obtain ⟨rfl, same⟩ := List.append_inj' split rfl
    exact starts step (List.cons.inj same).1 fresh
  · rw [List.concat_eq_append, ← List.cons_append, ← List.append_assoc] at split
    obtain ⟨same, _⟩ := List.append_inj' split rfl
    exact opens earlier step others same fresh

theorem Opens.append
    {notes added : List Note} (opens : Opens notes)
    (silent : ∀ step, .executed step ∉ added) :
    Opens (notes ++ added) := by
  induction added generalizing notes with
  | nil =>
      rw [List.append_nil]
      exact opens
  | cons note rest inductionHypothesis =>
      have first : Opens (notes ++ [note]) := by
        refine opens.concat fun step same _ => ?_
        exact absurd (same ▸ List.mem_cons_self) (silent step)
      rw [List.append_cons]
      exact inductionHypothesis first fun step later =>
        silent step (List.mem_cons_of_mem note later)

namespace Play

/-! ## What operations tell -/

/-- Whether a scene goes on from an earlier one, and the notes in between tell who
fell asleep and woke. -/
structure Continues (before : Play) (notes : List Note)
    (after : Play) : Prop where
  journal : after.journal.toList = before.journal.toList ++ notes
  told : Chronicle before.isAlive notes after.isAlive

theorem Continues.refl (play : Play) : Continues play [] play :=
  ⟨by simp, .nil _⟩

theorem Continues.trans
    {first second third : Play} {notes others : List Note}
    (continues : Continues first notes second)
    (continuesAgain : Continues second others third) :
    Continues first (notes ++ others) third := by
  refine ⟨?_, continues.told.append continuesAgain.told⟩
  rw [continuesAgain.journal, continues.journal, List.append_assoc]

theorem continues_note
    {play : Play} {note : Note} (tells : note.Tells play.isAlive play.isAlive) :
    Continues play [note] (play.note note) :=
  ⟨by simp [Play.note], .single tells⟩

/-- A change that nobody wakes or falls asleep by tells nothing. -/
theorem Continues.of_isAlive
    {before after : Play} (journal : after.journal = before.journal)
    (same : after.isAlive = before.isAlive) :
    Continues before [] after :=
  ⟨by simp [journal], same ▸ .nil _⟩

/-- What one instruction does, after it was noted, to who is awake and to the
scripts that are in their slots. -/
structure Does (runner : Nat) (started : Play) (notes : List Note)
    (after : Play) : Prop where
  continues : Continues started notes after
  silent : ∀ step, .executed step ∉ notes
  scripts : ∀ actor kind script, after.script? actor kind = some script →
    script.AtStart ∨
      started.script? actor kind = some script ∧
        ∀ fresh, renewed actor kind notes fresh = fresh
  runner : ∀ kind fresh, renewed runner kind notes fresh = fresh

section Instructions

variable {runner : Nat} {started after : Play}

/-- What leaves all scripts alone and tells of nobody who wakes. -/
theorem Does.of_script?
    {notes : List Note} (continues : Continues started notes after)
    (silent : ∀ step, .executed step ∉ notes)
    (same : ∀ actor kind,
      after.script? actor kind = started.script? actor kind)
    (still : ∀ actor kind fresh, renewed actor kind notes fresh = fresh) :
    Does runner started notes after :=
  ⟨continues, silent,
    fun actor kind _ found => .inr ⟨same actor kind ▸ found, still actor kind⟩,
    still runner⟩

theorem does_reads (reads : started.Reads after) :
    ∃ notes, Does runner started notes after := by
  obtain ⟨warnings, noted⟩ := reads.notes
  have same := isAlive_of_actors reads.actors
  refine ⟨warnings.map Note.warning,
    .of_script? ⟨noted, ?_⟩ (by simp) (script?_of_actors reads.actors) ?_⟩
  · rw [same]
    exact .of_warnings _ warnings
  · intro actor kind fresh
    exact renewed_warnings actor kind warnings fresh

theorem does_kill (runner : Nat) (started : Play) (cause target : Nat) :
    ∃ notes, Does runner started notes (started.kill cause target) := by
  have changed := started.actors_kill cause target
  have same (actor : Nat) (kind : ScriptKind) :
      (started.kill cause target).script? actor kind =
        started.script? actor kind :=
    script?_of_modify_same changed (fun _ kind => by cases kind <;> rfl) _ _
  cases found : started.actors[target]? with
  | none =>
      simp only [kill, found]
      exact does_reads (started.reads_warn _)
  | some actor =>
      cases awake : actor.alive with
      | false =>
          have untouched : started.kill cause target = started := by
            simp [kill, found, awake]
          rw [untouched]
          exact does_reads (Reads.refl started)
      | true =>
          have told :
              (started.kill cause target).isAlive =
                Function.update started.isAlive target false :=
            isAlive_of_modify_alive changed found rfl
          have wakes : started.isAlive target = true := by
            simp [isAlive_eq, found, awake]
          refine ⟨[.event (.killed target cause)],
            .of_script? ⟨?_, ?_⟩ (by simp) same fun _ _ _ => rfl⟩
          · simp [kill, found, awake, Play.note]
          · rw [told]
            exact .single (.killed cause wakes)

/-- To wake an actor who sleeps is to start both its scripts anew. -/
theorem does_revive
    (wakes : started.isAlive runner = true) (cause target : Nat) :
    ∃ notes, Does runner started notes (started.revive cause target) := by
  have changed := started.actors_revive cause target
  cases found : started.actors[target]? with
  | none =>
      simp only [revive, found]
      exact does_reads (started.reads_warn _)
  | some actor =>
      cases awake : actor.alive with
      | true =>
          have untouched : started.revive cause target = started := by
            simp [revive, found, awake]
          rw [untouched]
          exact does_reads (Reads.refl started)
      | false =>
          have made : actor.woken = actor.revived := by
            simp [Actor.woken, awake]
          have told :
              (started.revive cause target).isAlive =
                Function.update started.isAlive target true :=
            isAlive_of_modify_alive changed found (by rw [made]; rfl)
          have sleeps : started.isAlive target = false := by
            simp [isAlive_eq, found, awake]
          refine ⟨[.event (.revived target cause)], ⟨?_, ?_⟩, by simp, ?_, ?_⟩
          · simp [revive, found, awake, Play.note]
          · rw [told]
            exact .single (.revived cause sleeps)
          · intro other kind script inSlot
            rw [script?_of_modify changed] at inSlot
            by_cases own : target = other
            · subst own
              simp only [if_true, found, Option.map_some, made,
                Option.some.injEq] at inSlot
              subst inSlot
              cases kind with
              | life => exact .inl actor.life.atStart_reset
              | move => exact .inl actor.move.atStart_reset
            · rw [if_neg own] at inSlot
              exact .inr ⟨inSlot, fun fresh => by
                simp [renewed, Note.renews, own]⟩
          · -- The runner is awake, so it is not the one who was woken.
            intro kind fresh
            have other : target ≠ runner := by
              rintro rfl
              rw [sleeps] at wakes
              simp at wakes
            simp [renewed, Note.renews, other]

/-- A change that leaves scripts and wakefulness of an actor alone. -/
theorem does_modify
    {target : Nat} {change : Actor → Actor}
    (changed : after.actors = started.actors.modify target change)
    (keepsAlive : ∀ actor, (change actor).alive = actor.alive)
    (keepsScripts : ∀ actor kind,
      (change actor).script kind = actor.script kind)
    (journal : after.journal = started.journal) :
    Does runner started [] after :=
  .of_script? (.of_isAlive journal (isAlive_of_modify changed keepsAlive))
    (by simp) (script?_of_modify_same changed keepsScripts) fun _ _ _ => rfl

theorem moveActor_journal (play : Play) (target : Nat) (position : Vec3) :
    (play.moveActor target position).journal = play.journal := by
  unfold moveActor
  split
  · rfl
  · rfl

theorem does_note
    {notes : List Note} (does : Does runner started notes after)
    {note : Note} (quiet : note.IsQuiet) :
    Does runner started (notes ++ [note]) (after.note note) := by
  have still (actor : Nat) (kind : ScriptKind) (fresh : Bool) :
      renewed actor kind (notes ++ [note]) fresh =
        renewed actor kind notes fresh := by
    rw [renewed_append]
    match note, quiet with
    | .event (.changeScene _ _), _ => rfl
    | .warning _, _ => rfl
    | .call _, _ => rfl
    | .fetched _, _ => rfl
  refine ⟨does.continues.trans (continues_note (.quiet quiet)), ?_, ?_, ?_⟩
  · intro step member
    rcases List.mem_append.mp member with early | last
    · exact does.silent step early
    · rw [← List.mem_singleton.mp last] at quiet
      exact quiet.elim
  · intro actor kind script found
    rcases does.scripts actor kind script found with starts | ⟨same, keeps⟩
    · exact .inl starts
    · exact .inr ⟨same, fun fresh => (still _ _ _).trans (keeps fresh)⟩
  · intro kind fresh
    exact (still _ _ _).trans (does.runner kind fresh)

/-- Whatever an instruction does, and if the turn goes on, the runner is still
awake. -/
theorem does_instructs
    (wakes : started.isAlive runner = true) {command : Command}
    {script next : Script} {goes : Bool}
    (instructs : Instructs runner command script started
      (goes, next, after)) :
    (∃ notes, Does runner started notes after) ∧
      (goes = true → after.isAlive runner = true) := by
  -- A turn goes on only after an instruction that cannot have put the runner to
  -- sleep.
  cases instructs with
  | passes leads marks reads =>
      have same := isAlive_of_actors reads.actors
      exact ⟨does_reads reads, fun _ => same ▸ wakes⟩
  | pauses restarts => exact ⟨does_reads (Reads.refl started), by simp⟩
  | stops => exact ⟨does_reads (Reads.refl started), by simp⟩
  | @kills target other =>
      refine ⟨does_kill runner started runner target, fun _ => ?_⟩
      rw [isAlive_eq, actors_kill, List.getElem?_modify]
      simpa [other, isAlive_eq] using wakes
  | falls => exact ⟨does_kill runner started runner runner, by simp⟩
  | revives target =>
      refine ⟨does_revive wakes runner target, fun _ => ?_⟩
      rw [isAlive_eq] at wakes ⊢
      rw [actors_revive, List.getElem?_modify]
      cases found : started.actors[runner]? with
      | none => simp [found] at wakes
      | some actor =>
          by_cases own : target = runner
          · simp only [found, Option.any_some] at wakes
            simp [own, Actor.woken, wakes]
          · simpa [own, found] using wakes
  | poses change call keeps =>
      have changed :
          (started.modifyActor runner change).actors =
            started.actors.modify runner change :=
        rfl
      have does : Does runner started [] (started.modifyActor runner change) :=
        does_modify changed (fun actor => (keeps actor).alive)
          (fun actor kind => by
            cases kind with
            | life => exact (keeps actor).life
            | move => exact (keeps actor).move)
          rfl
      have same := isAlive_of_modify changed fun actor => (keeps actor).alive
      exact ⟨⟨_, does_note does trivial⟩, fun _ => same ▸ wakes⟩
  | moves position =>
      have changed := started.actors_moveActor runner position
      have same := isAlive_of_modify changed fun _ => rfl
      have does : Does runner started [] (started.moveActor runner position) :=
        does_modify changed (fun _ => rfl)
          (fun _ kind => by cases kind <;> rfl)
          (started.moveActor_journal runner position)
      exact ⟨⟨_, does⟩, fun _ => same ▸ wakes⟩
  | asks target =>
      have does : Does runner started [] started :=
        .of_script? (Continues.refl started) (by simp) (fun _ _ => rfl)
          fun _ _ _ => rfl
      exact ⟨⟨_, does_note does trivial⟩, by simp⟩

/-- The same of an instruction together with its note. -/
theorem does_instruct
    {play : Play} (wakes : play.isAlive runner = true) {kind : ScriptKind}
    {command : Command} {script next : Script} {goes : Bool}
    (instructs : play.instruct runner kind command script =
      (goes, next, after)) :
    (∃ notes, Does runner
        (play.note (.executed ⟨runner, kind, script.state.position⟩))
        notes after) ∧
      (goes = true → after.isAlive runner = true) := by
  have cases := play.instructs runner kind command script
  rw [instructs] at cases
  refine does_instructs ?_ cases
  exact wakes

end Instructions

end Play

namespace Moment

/-! ## Moments of ticks -/

/-- Whether a moment comes between the ticks of a rehearsal or within one. -/
def Ticks : Moment → Prop
  | .resting deeds _ =>
      ∃ budgets : List Nat, deeds = budgets.map Deed.tick
  | .changing agenda _ =>
      ∃ budgets : List Nat, agenda.deeds = budgets.map Deed.tick
  | .working _ agenda _ =>
      ∃ budgets : List Nat, agenda.deeds = budgets.map Deed.tick

/-- Whether the actor of a script at work is awake. -/
def RunnerWakes : Moment → Prop
  | .working work _ play => play.isAlive work.runner = true
  | _ => True

/-- What holds at a moment of ticks that began with a scene and have left notes
since. -/
structure Follows (start : Play) (notes : List Note)
    (moment : Moment) : Prop where
  ticks : moment.Ticks
  continues : start.Continues notes moment.play
  wakes : moment.RunnerWakes
  opens : Opens notes
  restarts : ∀ actor kind, renewed actor kind notes false = true →
    ∀ script, moment.script? actor kind = some script → script.AtStart

variable {start : Play} {notes : List Note} {before after : Moment}

/-- A moment at which scripts stand as before, or were put back as they were. -/
theorem Follows.of_script?
    (follows : before.Follows start notes) (warnings : List Warning)
    (ticks : after.Ticks) (wakes : after.RunnerWakes)
    (continues : before.play.Continues (warnings.map Note.warning)
      after.play)
    (same : ∀ actor kind script, after.script? actor kind = some script →
      before.script? actor kind = some script ∨
        ∃ old, before.script? actor kind = some old ∧ script = old.halt) :
    ∃ more, after.Follows start more := by
  refine ⟨_, ticks, follows.continues.trans continues, wakes,
    follows.opens.append (by simp), ?_⟩
  intro actor kind fresh script found
  rw [renewed_append, renewed_warnings] at fresh
  rcases same actor kind script found with known | ⟨old, known, rfl⟩
  · exact follows.restarts actor kind fresh script known
  · exact (follows.restarts actor kind fresh old known).halt

end Moment

namespace Play

/-! ## Sleep suspends, waking starts anew -/

end Play

end Stagecraft
