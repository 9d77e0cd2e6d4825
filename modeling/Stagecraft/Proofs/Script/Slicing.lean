import Stagecraft.Proofs.Script.Monologues

/-!
# Step budgets only slice time

In a scene in which only one script has commands, step budgets say where the ticks
end, and nothing else: what ticks with some budgets execute goes on where the same
scene with other budgets has stopped, and where as much was executed everything is
the same.
-/

namespace Stagecraft

/-- Whether no script but one has any commands. -/
structure IsSolo (specs : List ActorData) (speaker : Nat × ScriptKind) :
    Prop where
  within : speaker.1 < specs.length
  others : ∀ actor spec kind, specs[actor]? = some spec →
    (actor, kind) ≠ speaker → spec.commands kind = []

namespace Script

/-- All scripts without commands are alike, but for the mark that they are over. -/
theorem settled_of_keeps_nil {script other : Script}
    (keeps : script.Keeps []) (keepsToo : other.Keeps []) :
    script.settled = other.settled := by
  obtain ⟨⟨commands, targets⟩, position, status, spent, last⟩ := script
  obtain ⟨⟨commandsToo, targetsToo⟩, positionToo, statusToo, spentToo, lastToo⟩ :=
    other
  obtain rfl : commands = [] := keeps.program
  obtain rfl : commandsToo = [] := keepsToo.program
  obtain rfl : position = 0 := Nat.le_zero.mp keeps.position
  obtain rfl : positionToo = 0 := Nat.le_zero.mp keepsToo.position
  obtain rfl : spent = [] := List.length_eq_zero_iff.mp keeps.spent
  obtain rfl : spentToo = [] := List.length_eq_zero_iff.mp keepsToo.spent
  obtain rfl : last = [] := List.length_eq_zero_iff.mp keeps.last
  obtain rfl : lastToo = [] := List.length_eq_zero_iff.mp keepsToo.last
  rfl

end Script

def Actor.settled (actor : Actor) : Actor :=
  { actor with life := actor.life.settled, move := actor.move.settled }

theorem Actor.settled_congr {actor other : Actor}
    (bodies : actor.unscripted = other.unscripted)
    (scripts : ∀ kind,
      (actor.script kind).settled = (other.script kind).settled) :
    actor.settled = other.settled := by
  have life : actor.life.settled = other.life.settled := scripts .life
  have move : actor.move.settled = other.move.settled := scripts .move
  have form (actor : Actor) : actor.settled =
      { actor.unscripted with
        life := actor.life.settled
        move := actor.move.settled } :=
    rfl
  rw [form actor, form other, bodies, life, move]

namespace Play

/-- All of a scene, with its scripts marked as halted if they have come to their end,
and without the warnings about step budgets. -/
def settled (play : Play) : Play :=
  { play with
    actors := play.actors.map Actor.settled
    journal := play.journal.untired }

/-! ## Solos -/

section Solos

variable {specs : List ActorData} {speaker : Nat × ScriptKind} {play : Play}

/-- Whether each script of a scene runs the commands of its actor's data. -/
def Follows (specs : List ActorData) (play : Play) : Prop :=
  (Moment.resting [] play).Keeps specs

theorem Follows.takeTurn (follows : play.Follows specs) (budget : Nat)
    (turn : Nat × ScriptKind) : (play.takeTurn budget turn).Follows specs := by
  have before : (Moment.changing ⟨[turn], budget, []⟩ play).Keeps specs :=
    ⟨follows.count, follows.scripts⟩
  have after := Moment.holds_of_leads (fun _ _ => Moment.keeps_next)
    (Moment.leads_takeTurn turn [] budget [] play) before
  exact ⟨after.count, after.scripts⟩

theorem Follows.rehearse (follows : play.Follows specs) (deeds : List Deed) :
    (play.rehearse deeds).Follows specs := by
  have before : (Moment.resting (deeds ++ []) play).Keeps specs :=
    ⟨follows.count, follows.scripts⟩
  exact Moment.holds_of_leads (fun _ _ => Moment.keeps_next)
    (Moment.leads_rehearse deeds [] play) before

theorem Follows.exists_script (follows : play.Follows specs)
    (solo : IsSolo specs speaker) :
    ∃ script, play.script? speaker.1 speaker.2 = some script :=
  follows.script?_isSome (List.getElem?_eq_getElem solo.within) speaker.2

theorem Follows.keeps_nil (follows : play.Follows specs)
    (solo : IsSolo specs speaker) {actor : Nat} {kind : ScriptKind}
    (other : (actor, kind) ≠ speaker) {script : Script}
    (inSlot : play.script? actor kind = some script) : script.Keeps [] := by
  obtain ⟨spec, given, keeps⟩ := follows.scripts actor kind script inSlot
  rw [solo.others actor spec kind given other] at keeps
  exact keeps

/-- Turns in a row are made of the speaker's instructions. -/
theorem proceeds_turns (solo : IsSolo specs speaker) (budget : Nat)
    (turns : List (Nat × ScriptKind)) (follows : play.Follows specs) :
    Proceeds speaker (speaker ∈ turns ∧ 0 < budget) play
      (turns.foldl (Play.takeTurn budget) play) := by
  induction turns generalizing play with
  | nil =>
      obtain ⟨script, inSlot⟩ := follows.exists_script solo
      exact (Proceeds.of_same (monologue?_of_script? inSlot) rfl).mono (by simp)
  | cons turn rest inductionHypothesis =>
      have later := inductionHypothesis (follows.takeTurn budget turn)
      obtain ⟨script, inSlot⟩ := follows.exists_script solo
      by_cases own : turn = speaker
      · subst own
        exact ((proceeds_takeTurn budget inSlot).trans later).mono
          fun may => .inl may.2
      · have begun := monologue?_of_script? inSlot
        have hidden := monologue?_takeTurn_of_empty budget
          (fun same => own (Prod.ext same.1 same.2))
          fun script found => (follows.keeps_nil solo own found).program
        refine ((Proceeds.of_same begun hidden).trans later).mono fun may => ?_
        exact .inr ⟨(List.mem_cons.mp may.1).resolve_left (Ne.symm own), may.2⟩

theorem mem_turns {count : Nat} (within : speaker.1 < count) :
    speaker ∈ turns count := by
  rw [turns, List.mem_flatMap]
  refine ⟨speaker.1, List.mem_range.mpr within, ?_⟩
  obtain ⟨actor, kind⟩ := speaker
  cases kind <;> simp

theorem proceeds_tick (solo : IsSolo specs speaker) (budget : Nat)
    (follows : play.Follows specs) :
    Proceeds speaker (0 < budget) play (play.tick budget) := by
  have within : speaker.1 < play.actors.length :=
    solo.within.trans_eq follows.count.symm
  exact (proceeds_turns solo budget (turns play.actors.length) follows).mono
    fun enough => ⟨mem_turns within, enough⟩

/-- Ticks are made of the speaker's instructions, at least one in each tick with a
budget until there are no more. -/
theorem exists_after?_ticks (solo : IsSolo specs speaker)
    (budgets : List Nat) (follows : play.Follows specs) :
    ∃ first second count,
      play.monologue? speaker = some first ∧
        (play.rehearse (budgets.map Deed.tick)).monologue? speaker =
          some second ∧
        first.after? speaker count = some second ∧
        ((∀ budget ∈ budgets, 0 < budget) →
          budgets.length ≤ count ∨ second.next? speaker = none) := by
  induction budgets generalizing play with
  | nil =>
      obtain ⟨script, inSlot⟩ := follows.exists_script solo
      have begun := monologue?_of_script? inSlot
      exact ⟨_, _, 0, begun, begun, rfl, fun _ => .inl (Nat.le_refl 0)⟩
  | cons budget rest inductionHypothesis =>
      obtain ⟨first, second, count, begun, ticked, leads, lively⟩ :=
        proceeds_tick solo budget follows
      obtain ⟨same, third, more, begunAgain, reached, leadsOn, busy⟩ :=
        inductionHypothesis (follows.rehearse [.tick budget])
      obtain rfl : second = same :=
        Option.some.inj (ticked.symm.trans begunAgain)
      refine ⟨first, third, count + more, begun, reached, ?_, fun enough => ?_⟩
      · rw [Monologue.after?_add leads]
        exact leadsOn
      · rcases busy fun other later =>
          enough other (List.mem_cons_of_mem budget later) with many | stuck
        · by_cases goesOn : first.next? speaker = none
          · -- Nothing was left to do from the start.
            obtain rfl := Monologue.eq_zero_of_stuck goesOn leads
            obtain rfl : first = second := Option.some.inj leads
            obtain rfl := Monologue.eq_zero_of_stuck goesOn leadsOn
            obtain rfl : first = third := Option.some.inj leadsOn
            exact .inr goesOn
          · have some := lively (enough budget List.mem_cons_self) goesOn
            rw [List.length_cons]
            exact .inl (by omega)
        · exact .inr stuck

/-- The same actors of two scenes are the same, once settled, if the speaker's script
is. -/
theorem Follows.settled_actor (follows : play.Follows specs)
    (solo : IsSolo specs speaker) {other : Play}
    (followsToo : other.Follows specs) {position : Nat} {actor actorToo : Actor}
    (found : play.actors[position]? = some actor)
    (foundToo : other.actors[position]? = some actorToo)
    (bodies : actor.unscripted = actorToo.unscripted)
    (spoken : (play.script? speaker.1 speaker.2).map Script.settled =
      (other.script? speaker.1 speaker.2).map Script.settled) :
    actor.settled = actorToo.settled := by
  refine Actor.settled_congr bodies fun kind => ?_
  have inSlot : play.script? position kind = some (actor.script kind) := by
    rw [script?, found, Option.map_some]
  have inSlotToo :
      other.script? position kind = some (actorToo.script kind) := by
    rw [script?, foundToo, Option.map_some]
  by_cases own : (position, kind) = speaker
  · subst own
    rw [inSlot, inSlotToo] at spoken
    exact Option.some.inj spoken
  · exact Script.settled_of_keeps_nil (follows.keeps_nil solo own inSlot)
      (followsToo.keeps_nil solo own inSlotToo)

/-- Scenes that are the same monologue are the same, once settled. -/
theorem settled_of_monologue? (solo : IsSolo specs speaker) {other : Play}
    (follows : play.Follows specs) (followsToo : other.Follows specs)
    {told : Monologue} (tells : play.monologue? speaker = some told)
    (tellsToo : other.monologue? speaker = some told) :
    play.settled = other.settled := by
  obtain ⟨script, inSlot, rfl⟩ := Option.map_eq_some_iff.mp tells
  obtain ⟨scriptToo, inSlotToo, same⟩ := Option.map_eq_some_iff.mp tellsToo
  have spoken : (play.script? speaker.1 speaker.2).map Script.settled =
      (other.script? speaker.1 speaker.2).map Script.settled := by
    rw [inSlot, inSlotToo]
    exact congrArg some (congrArg Monologue.script same).symm
  have outlines : play.outline = other.outline :=
    (congrArg Monologue.play same).symm
  have actors : play.actors.map Actor.settled =
      other.actors.map Actor.settled := by
    apply List.ext_getElem?
    intro position
    have bodies : play.actors[position]?.map Actor.unscripted =
        other.actors[position]?.map Actor.unscripted := by
      rw [← getElem?_outline, outlines, getElem?_outline]
    rw [List.getElem?_map, List.getElem?_map]
    cases found : play.actors[position]? with
    | none =>
        rw [found] at bodies
        rw [Option.map_eq_none_iff.mp bodies.symm]
    | some actor =>
        rw [found] at bodies
        obtain ⟨actorToo, foundToo, alike⟩ :=
          Option.map_eq_some_iff.mp bodies.symm
        rw [foundToo]
        exact congrArg some
          (follows.settled_actor solo followsToo found foundToo alike.symm spoken)
  have whole : { play.outline with actors := play.actors.map Actor.settled } =
      { other.outline with actors := other.actors.map Actor.settled } := by
    rw [outlines, actors]
  rw [outline_eq, outline_eq] at whole
  exact whole

end Solos

/-! ## Two ways to slice -/

/-- Step budgets only slice time. Where only one script has commands, whatever was
done with the scene before: of what ticks with some budgets execute and what they
execute with others, one is the beginning of the other; where they have executed
equally much, the scenes are the same, but for the mark of scripts that have come to
their end and the warnings about the budgets themselves; and as many ticks as there
are instructions, each with a budget, execute them all. -/
theorem budgets_only_slice_time {specs : List ActorData} {bare : Play}
    (built : List.Forall₂
      (fun spec actor => ∃ node, Actor.ofData spec node = .ok actor)
      specs bare.actors) {speaker : Nat × ScriptKind}
    (solo : IsSolo specs speaker) (deeds : List Deed)
    (budgets others : List Nat) :
    let start := bare.rehearse deeds
    let one := start.rehearse (budgets.map Deed.tick)
    let other := start.rehearse (others.map Deed.tick)
    ∃ steps otherSteps,
      one.journal.trace = start.journal.trace ++ steps ∧
        other.journal.trace = start.journal.trace ++ otherSteps ∧
        (steps <+: otherSteps ∨ otherSteps <+: steps) ∧
        (steps.length = otherSteps.length →
          one.settled = other.settled ∧
            one.journal.events = other.journal.events) ∧
        ((∀ budget ∈ others, 0 < budget) →
          steps.length ≤ others.length → steps <+: otherSteps) := by
  have follows : (bare.rehearse deeds).Follows specs :=
    Follows.rehearse (Moment.keeps_resting built []) deeds
  dsimp only
  generalize bare.rehearse deeds = start at follows ⊢
  obtain ⟨first, second, count, begun, reached, leads, _⟩ :=
    exists_after?_ticks solo budgets follows
  obtain ⟨same, third, more, begunAgain, reachedToo, leadsToo, busy⟩ :=
    exists_after?_ticks solo others follows
  obtain rfl : first = same := Option.some.inj (begun.symm.trans begunAgain)
  obtain ⟨steps, trace, length⟩ := Monologue.exists_trace leads
  obtain ⟨otherSteps, otherTrace, otherLength⟩ :=
    Monologue.exists_trace leadsToo
  refine ⟨steps, otherSteps, ?_, ?_, ?_, fun equally => ?_,
    fun enough fewer => ?_⟩
  · rw [← trace_of_monologue? reached, trace, trace_of_monologue? begun]
  · rw [← trace_of_monologue? reachedToo, otherTrace, trace_of_monologue? begun]
  · rcases Nat.le_total count more with fewer | moreFirst
    · exact .inl (Monologue.isPrefix_of_le leads leadsToo fewer trace otherTrace)
    · exact .inr
        (Monologue.isPrefix_of_le leadsToo leads moreFirst otherTrace trace)
  · obtain rfl : count = more := length.symm.trans (equally.trans otherLength)
    obtain rfl : second = third := Option.some.inj (leads.symm.trans leadsToo)
    have same := settled_of_monologue? solo (follows.rehearse _)
      (follows.rehearse _) reached reachedToo
    have events := congrArg (fun play => play.journal.events) same
    simp only [settled, Journal.events_untired] at events
    exact ⟨same, events⟩
  · have fewerToo : count ≤ more := by
      rcases busy enough with many | stuck
      · omega
      · exact Monologue.le_of_stuck leads leadsToo stuck
    exact Monologue.isPrefix_of_le leads leadsToo fewerToo trace otherTrace

/-- An actor that notes once that it is awake, and pauses in a loop. -/
def rambler : ActorData where
  name := "rambler"
  model := none
  position := Vec3.zero
  behaviour := 0
  animation := 0
  life := []
  move :=
    [.oneIf (.compare (.actorAlive .self) .equal (.literal 1)) 2,
      .setGame 0 7, .yield, .jump 0]

def path : Play :=
  { bedroom with
    game := GameBank.blank 1
    actors := (Actor.ofData rambler none).toOption.toList }

theorem isSolo_rambler : IsSolo [rambler] (0, .move) where
  within := Nat.one_pos
  others := by
    intro actor spec kind given other
    obtain ⟨inside, rfl⟩ := List.getElem?_eq_some_iff.mp given
    obtain rfl : actor = 0 := Nat.lt_one_iff.mp inside
    cases kind with
    | life => rfl
    | move => exact absurd rfl other

/-- The rambler in three ticks and in two, after a tick of one step. -/
theorem budgets_only_slice_time_rambler :
    List.Forall₂
        (fun spec actor => ∃ node, Actor.ofData spec node = .ok actor)
        [rambler] path.actors ∧
      IsSolo [rambler] (0, .move) ∧
      ((path.rehearse [.tick 1]).rehearse
          ([1, 1, 1].map Deed.tick)).settled =
        ((path.rehearse [.tick 1]).rehearse
          ([2, 1].map Deed.tick)).settled := by
  have built :
      List.Forall₂
        (fun spec actor => ∃ node, Actor.ofData spec node = .ok actor)
        [rambler] path.actors :=
    .cons ⟨none, rfl⟩ .nil
  obtain ⟨steps, otherSteps, trace, otherTrace, _, equal, _⟩ :=
    budgets_only_slice_time built isSolo_rambler [.tick 1] [1, 1, 1] [2, 1]
  have equally : steps.length = otherSteps.length := by
    have lengths := congrArg List.length trace
    have otherLengths := congrArg List.length otherTrace
    rw [List.length_append] at lengths otherLengths
    have same :
        ((path.rehearse [.tick 1]).rehearse
            ([1, 1, 1].map Deed.tick)).journal.trace.length =
          ((path.rehearse [.tick 1]).rehearse
            ([2, 1].map Deed.tick)).journal.trace.length := by
      decide
    rw [lengths, otherLengths] at same
    exact Nat.add_left_cancel same
  exact ⟨built, isSolo_rambler, (equal equally).1⟩

end Play

end Stagecraft
