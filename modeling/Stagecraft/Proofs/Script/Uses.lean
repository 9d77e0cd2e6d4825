import Stagecraft.Proofs.Script.Bounds
import Stagecraft.Proofs.Script.Mentions

/-!
# What scripts use

An instruction accesses no variable that its command does not mention, and so a
whole tick accesses none that the scripts of the scene do not mention. A cube bank
with room for the mentioned variables therefore never grows.
-/

namespace Stagecraft

/-- Whether a cube bank has room for the cube variables mentioned. -/
def CubeBank.Covers (bank : CubeBank) (mentioned : VariableRef → Prop) :
    Prop :=
  ∀ index, mentioned (.cube index) → index.toNat < bank.size

namespace Play

/-- Whether a scene became another one by use of no variables but those mentioned.
A cube bank that covers them keeps its size without a warning. -/
structure Uses (mentioned : VariableRef → Prop) (before after : Play) :
    Prop where
  size : before.cube.Covers mentioned → after.cube.size = before.cube.size
  growth : before.cube.Covers mentioned → ∀ index size,
    Note.warning (.cubeVariableGrown index size) ∈ after.journal →
      Note.warning (.cubeVariableGrown index size) ∈ before.journal
  touched : ∀ index ∈ after.game.touched,
    index ∈ before.game.touched ∨ mentioned (.game index)

section Uses

variable {mentioned others : VariableRef → Prop} {first second third : Play}

theorem Uses.trans (uses : Uses mentioned first second)
    (usesAgain : Uses mentioned second third) :
    Uses mentioned first third := by
  have coversStill (covers : first.cube.Covers mentioned) :
      second.cube.Covers mentioned := fun index names =>
    (uses.size covers).symm ▸ covers index names
  refine ⟨fun covers => ?_, fun covers index size grown => ?_,
    fun index listed => ?_⟩
  · exact (usesAgain.size (coversStill covers)).trans (uses.size covers)
  · exact uses.growth covers index size
      (usesAgain.growth (coversStill covers) index size grown)
  · rcases usesAgain.touched index listed with earlier | names
    · exact uses.touched index earlier
    · exact .inr names

/-- To use few variables is to use no more than many. -/
theorem Uses.widen (uses : Uses mentioned first second)
    (within : ∀ reference, mentioned reference → others reference) :
    Uses others first second := by
  have coversFewer (covers : first.cube.Covers others) :
      first.cube.Covers mentioned := fun index names =>
    covers index (within _ names)
  exact ⟨fun covers => uses.size (coversFewer covers),
    fun covers => uses.growth (coversFewer covers),
    fun index listed => (uses.touched index listed).imp_right (within _)⟩

/-- What leaves both banks alone and notes no growth uses no variable. -/
theorem uses_nothing (cube : second.cube = first.cube)
    (game : second.game = first.game)
    (growth : ∀ index size,
      Note.warning (.cubeVariableGrown index size) ∈ second.journal →
        Note.warning (.cubeVariableGrown index size) ∈ first.journal) :
    Uses mentioned first second :=
  ⟨fun _ => congrArg CubeBank.size cube, fun _ => growth,
    fun _ listed => .inl (game ▸ listed)⟩

end Uses

section Steps

variable {mentioned : VariableRef → Prop} (play : Play)

theorem uses_self : Uses mentioned play play :=
  uses_nothing rfl rfl fun _ _ => id

theorem uses_note {entry : Note}
    (other : ∀ index size, entry ≠ .warning (.cubeVariableGrown index size)) :
    Uses mentioned play (play.note entry) := by
  refine uses_nothing rfl rfl fun index size grown => ?_
  rcases Array.mem_push.mp grown with earlier | same
  · exact earlier
  · exact absurd same.symm (other index size)

/-- An access to a mentioned cube variable. -/
theorem uses_cube {index : UInt16} (names : mentioned (.cube index))
    {bank : CubeBank} (size : bank.size = max play.cube.size (index.toNat + 1)) :
    Uses mentioned play
      { play.warnIf (play.cube.grows index)
          (.cubeVariableGrown index play.cube.size) with
        cube := bank } := by
  have roomy (covers : play.cube.Covers mentioned) :
      play.cube.grows index = false := by
    have inside := covers index names
    rw [← Bool.not_eq_true, CubeBank.grows_iff]
    omega
  refine ⟨fun covers => ?_, fun covers _ _ grown => ?_,
    fun other listed => ?_⟩
  · have inside := covers index names
    show bank.size = play.cube.size
    omega
  · rw [roomy covers] at grown
    exact grown
  · unfold warnIf at listed
    split at listed <;> exact .inl listed

/-- An access to a mentioned game variable. -/
theorem uses_game {index : UInt16} (names : mentioned (.game index))
    {bank : GameBank}
    (touched : ∀ other, other ∈ bank.touched ↔
      other = index ∨ other ∈ play.game.touched) :
    Uses mentioned play
      { play.warnIf (play.game.grows index)
          (.gameVariableGrown index play.game.size) with
        game := bank } := by
  have warned :
      Uses mentioned play
        (play.warnIf (play.game.grows index)
          (.gameVariableGrown index play.game.size)) := by
    unfold warnIf
    split
    · exact play.uses_note (by simp)
    · exact play.uses_self
  refine ⟨warned.size, warned.growth, fun other listed => ?_⟩
  rcases (touched other).mp listed with rfl | earlier
  · exact .inr names
  · exact .inl earlier

/-! ## Instructions -/

theorem uses_read (runner : Nat) (operand : Operand) :
    Uses operand.Mentions play (play.read runner operand).2 := by
  cases operand with
  | literal value => exact play.uses_self
  | cubeVariable index =>
      exact play.uses_cube (.cube index) (play.cube.size_touch index)
  | gameVariable index =>
      exact play.uses_game (.game index) fun other =>
        play.game.mem_touched_touch index other
  | zoneEntered zone =>
      simp only [read]
      split
      · exact play.uses_self
      · exact play.uses_note (by simp)
  | zoneTriggered zone =>
      simp only [read]
      split
      · exact uses_nothing rfl rfl fun _ _ => id
      · exact play.uses_note (by simp)
  | actorAlive actor => exact play.uses_self
  | actorBehaviour actor => exact play.uses_self
  | actorAnimation actor => exact play.uses_self

/-- A condition is read operand by operand, at every depth. -/
theorem uses_evaluate (runner : Nat) (condition : Condition) :
    Uses condition.Mentions play (play.evaluate runner condition).2 := by
  induction condition generalizing play with
  | compare left test right =>
      have readLeft :=
        (play.uses_read runner left).widen fun _ names =>
          Condition.Mentions.left test right names
      have readRight :=
        ((play.read runner left).2.uses_read runner right).widen
          fun _ names => Condition.Mentions.right left test names
      exact readLeft.trans readRight
  | not term inductionHypothesis =>
      exact (inductionHypothesis play).widen fun _ => .not
  | and left right leftHypothesis rightHypothesis =>
      have evaluatedLeft := (leftHypothesis play).widen fun _ inside =>
        Condition.Mentions.andLeft right inside
      have evaluatedRight :=
        (rightHypothesis (play.evaluate runner left).2).widen
          fun _ inside => Condition.Mentions.andRight left inside
      exact evaluatedLeft.trans evaluatedRight
  | or left right leftHypothesis rightHypothesis =>
      have evaluatedLeft := (leftHypothesis play).widen fun _ inside =>
        Condition.Mentions.orLeft right inside
      have evaluatedRight :=
        (rightHypothesis (play.evaluate runner left).2).widen
          fun _ inside => Condition.Mentions.orRight left inside
      exact evaluatedLeft.trans evaluatedRight

theorem uses_kill (cause target : Nat) :
    Uses mentioned play (play.kill cause target) := by
  unfold kill
  split
  · exact play.uses_note (by simp)
  · split
    · exact (play.uses_note (by simp)).trans
        (uses_nothing rfl rfl fun _ _ => id)
    · exact play.uses_self

theorem uses_revive (cause target : Nat) :
    Uses mentioned play (play.revive cause target) := by
  unfold revive
  split
  · exact play.uses_note (by simp)
  · split
    · exact play.uses_self
    · exact (play.uses_note (by simp)).trans
        (uses_nothing rfl rfl fun _ _ => id)

theorem uses_moveActor (target : Nat) (position : Vec3) :
    Uses mentioned play (play.moveActor target position) := by
  unfold moveActor
  split
  · exact play.uses_self
  · exact uses_nothing rfl rfl fun _ _ => id

theorem uses_pose (call : HostCall) (target : Nat) (change : Actor → Actor) :
    Uses mentioned play ((play.modifyActor target change).note (.call call)) :=
  (uses_nothing rfl rfl fun _ _ => id : Uses mentioned play
    (play.modifyActor target change)).trans (uses_note _ (by simp))

theorem uses_execute (runner position : Nat) (command : Command)
    (script : Script) :
    Uses command.Mentions play
      (play.execute runner position command script).2.2 := by
  cases command with
  | ifThen condition elseTarget =>
      exact (play.uses_evaluate runner condition).widen fun _ =>
        .ifThen elseTarget
  | oneIf condition elseTarget =>
      have tested := (play.uses_evaluate runner condition).widen fun _ =>
        Command.Mentions.oneIf elseTarget
      simp only [execute]
      split <;> exact tested
  | switchIf condition elseTarget =>
      exact (play.uses_evaluate runner condition).widen fun _ =>
        .switchIf elseTarget
  | jump target => exact play.uses_self
  | yield => exact play.uses_self
  | restart => exact play.uses_self
  | stop => exact play.uses_self
  | setCube index value =>
      exact play.uses_cube (.setCube index value)
        (play.cube.size_write index value)
  | setGame index value =>
      exact play.uses_game (.setGame index value) fun other =>
        play.game.mem_touched_write index other value
  | kill actor =>
      simp only [execute]
      split <;> exact play.uses_kill _ _
  | revive actor => exact play.uses_revive _ _
  | setBehaviour behaviour => exact play.uses_pose _ runner _
  | playAnimation animation => exact play.uses_pose _ runner _
  | setPosition target => exact play.uses_moveActor _ _
  | moveToPoint index =>
      simp only [execute]
      split
      · exact play.uses_moveActor _ _
      · exact play.uses_note (by simp)
  | changeScene target => exact play.uses_note (by simp)

theorem uses_instruct (runner : Nat) (kind : ScriptKind) (command : Command)
    (script : Script) :
    Uses command.Mentions play
      (play.instruct runner kind command script).2.2 := by
  have noted :
      Uses command.Mentions play
        (play.note (.executed ⟨runner, kind, script.state.position⟩)) :=
    play.uses_note (by simp)
  refine noted.trans ?_
  have executed :=
    (play.note (.executed ⟨runner, kind, script.state.position⟩)).uses_execute
      runner script.state.position command script
  unfold instruct
  dsimp only
  split <;> simp_all

end Steps

/-! ## Programs -/

def program? (play : Play) (position : Nat) (kind : ScriptKind) :
    Option Program :=
  (play.script? position kind).map Script.program

/-- Whether some script of the actors mentions a variable. -/
def Mentions (play : Play) (reference : VariableRef) : Prop :=
  ∃ position kind program, play.program? position kind = some program ∧
    program.Mentions reference

theorem Instructs.program
    {runner : Nat} {command : Command} {script next : Script}
    {before after : Play} {goes : Bool}
    (instructs : Instructs runner command script before (goes, next, after)) :
    next.program = script.program := by
  cases instructs with
  | passes leads marks reads => cases marks <;> rfl
  | _ => rfl

theorem Retains.program?
    {before after : Play} (retains : Retains before after) (position : Nat)
    (kind : ScriptKind) :
    after.program? position kind = before.program? position kind := by
  unfold Play.program?
  cases found : after.script? position kind with
  | some script =>
      obtain ⟨old, inSlot, rfl | rfl⟩ :=
        retains.scripts position kind script found
      · rw [inSlot]
      · rw [inSlot]
        rfl
  | none =>
      have beyond : before.script? position kind = none := by
        unfold script? at found ⊢
        rw [Option.map_eq_none_iff, List.getElem?_eq_none_iff] at found ⊢
        exact retains.count ▸ found
      rw [beyond]

theorem program?_putScript (play : Play) (position : Nat) (kind : ScriptKind)
    (script : Script) (other : Nat) (otherKind : ScriptKind) :
    (play.putScript position kind script).program? other otherKind =
      if position = other ∧ kind = otherKind then
        (play.program? other otherKind).map fun _ => script.program
      else
        play.program? other otherKind := by
  unfold program?
  rw [script?_putScript]
  split
  · rw [Option.map_map, Option.map_map]
    rfl
  · rfl

/-! ## Turns and ticks -/

section Ticks

variable (play : Play)

/-- A script at work keeps its program, leaves those in the slots as they are, and
uses what its own program mentions. -/
structure Works (script next : Script) (before after : Play) : Prop where
  own : next.program = script.program
  slots : ∀ position kind,
    after.program? position kind = before.program? position kind
  uses : Uses script.program.Mentions before after

theorem works_instruct (runner : Nat) (kind : ScriptKind) {command : Command}
    {script : Script} (current : script.current? = some command) :
    let done := play.instruct runner kind command script
    Works script done.2.1 play done.2.2 := by
  have instructs := play.instructs runner kind command script
  have used := play.uses_instruct runner kind command script
  have member : command ∈ script.program.commands :=
    List.mem_of_getElem? current
  exact ⟨instructs.program, (retains_instructs instructs).program?,
    used.widen fun _ mentions => ⟨command, member, mentions⟩⟩

theorem works_runScript (runner : Nat) (kind : ScriptKind)
    (budget steps : Nat) (script : Script) :
    let ran := play.runScript runner kind budget steps script
    Works script ran.1 play ran.2 := by
  fun_induction runScript runner kind budget steps script play with
  | case1 steps script play past =>
      exact ⟨rfl, fun _ _ => rfl, play.uses_self⟩
  | case2 script play command current =>
      exact ⟨rfl, fun _ _ => rfl, play.uses_note (by simp [exhaustion])⟩
  | case3 script play command rest current next after executed
      inductionHypothesis =>
      have works := play.works_instruct runner kind current
      rw [executed] at works
      have onward := inductionHypothesis
      refine ⟨onward.own.trans works.own, fun position kind => ?_, ?_⟩
      · exact (onward.slots position kind).trans (works.slots position kind)
      · have uses := onward.uses
        rw [works.own] at uses
        exact works.uses.trans uses
  | case4 script play command rest current last after executed =>
      have works := play.works_instruct runner kind current
      rw [executed] at works
      exact works

/-- When its turn is over, a script is back in its slot with its program. -/
theorem program?_giveTurn (turn : Nat × ScriptKind) (budget : Nat)
    {script : Script} (inSlot : play.script? turn.1 turn.2 = some script)
    (position : Nat) (kind : ScriptKind) :
    (play.giveTurn turn.1 turn.2 budget script).program? position kind =
      play.program? position kind := by
  have works :=
    (play.putScript turn.1 turn.2 Script.vacant).works_runScript turn.1
      turn.2 budget budget script
  unfold giveTurn
  dsimp only
  rw [program?_putScript, works.slots, program?_putScript]
  by_cases own : turn.1 = position ∧ turn.2 = kind
  · obtain ⟨rfl, rfl⟩ := own
    have known : play.program? turn.1 turn.2 = some script.program := by
      rw [program?, inSlot, Option.map_some]
    simp [known, works.own]
  · simp only [if_neg own]

theorem program?_takeTurn (budget : Nat) (turn : Nat × ScriptKind)
    (position : Nat) (kind : ScriptKind) :
    (play.takeTurn budget turn).program? position kind =
      play.program? position kind := by
  unfold takeTurn
  cases ready : play.ready? turn with
  | none => rfl
  | some script =>
      exact play.program?_giveTurn turn budget (ready?_eq_some ready).1 _ _

theorem uses_takeTurn (budget : Nat) (turn : Nat × ScriptKind) :
    Uses play.Mentions play (play.takeTurn budget turn) := by
  unfold takeTurn
  cases ready : play.ready? turn with
  | none => exact play.uses_self
  | some script =>
      have known : play.program? turn.1 turn.2 = some script.program := by
        rw [program?, (ready?_eq_some ready).1, Option.map_some]
      have works :=
        (play.putScript turn.1 turn.2 Script.vacant).works_runScript turn.1
          turn.2 budget budget script
      have used := works.uses.widen fun _ mentions =>
        (⟨turn.1, turn.2, _, known, mentions⟩ : play.Mentions _)
      exact ⟨used.size, used.growth, used.touched⟩

/-- A tick changes no program and uses what the programs mention. -/
theorem programs_uses_tick (budget : Nat) :
    (∀ position kind, (play.tick budget).program? position kind =
      play.program? position kind) ∧
      Uses play.Mentions play (play.tick budget) := by
  unfold tick
  generalize turns play.actors.length = turns
  induction turns generalizing play with
  | nil => exact ⟨fun _ _ => rfl, play.uses_self⟩
  | cons turn rest inductionHypothesis =>
      obtain ⟨programs, uses⟩ := inductionHypothesis (play.takeTurn budget turn)
      have taken := play.program?_takeTurn budget turn
      have sameMentions :
          (play.takeTurn budget turn).Mentions = play.Mentions := by
        funext reference
        unfold Mentions
        simp only [taken]
      rw [sameMentions] at uses
      exact ⟨fun position kind =>
          (programs position kind).trans (taken position kind),
        (play.uses_takeTurn budget turn).trans uses⟩

end Ticks

end Play

end Stagecraft
