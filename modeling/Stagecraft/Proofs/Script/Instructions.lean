import Stagecraft.Script.Machine

/-!
# What an instruction does

Everything that a single instruction can do to a scene and to the script that is
at work, case by case. Later arguments about scripts go through these cases and
never open the sixteen commands again.
-/

namespace Stagecraft

/-! ## Scripts at work -/

/-- Whether a script at work differs from an earlier one at most in what its
present test noted. -/
inductive Script.Marks (before : Script) : Script → Prop where
  | nothing : Marks before before
  | spent : Marks before (before.spend before.state.position)
  | seen (value : Bool) : Marks before (before.see before.state.position value)

/-- Whether a command can lead on from a position to another one in the same
turn: to its successor, or to where it jumps. -/
inductive Command.LeadsTo (command : Command) (position : Nat) : Nat → Prop where
  | successor : LeadsTo command position (position + 1)
  | jump {target : UInt64} (jumps : command.jumpTarget? = some target) :
      LeadsTo command position target.toNat

/-- Whether two actors differ at most in behaviour and animation. -/
structure Actor.SameBody (before after : Actor) : Prop where
  node : after.node = before.node
  spawn : after.spawn = before.spawn
  position : after.position = before.position
  alive : after.alive = before.alive
  life : after.life = before.life
  move : after.move = before.move

namespace Play

/-! ## Reading -/

/-- Whether a scene differs from an earlier one at most in its variables, in what
its zones have noticed, and by warnings. -/
structure Reads (before after : Play) : Prop where
  scene : after.scene = before.scene
  actors : after.actors = before.actors
  zones : after.zones.map Zone.node = before.zones.map Zone.node
  points : after.points = before.points
  nodes : after.nodes = before.nodes
  notes : ∃ warnings : List Warning,
    after.journal.toList =
      before.journal.toList ++ warnings.map Note.warning

theorem Reads.refl (play : Play) : Reads play play :=
  ⟨rfl, rfl, rfl, rfl, rfl, [], by simp⟩

theorem Reads.trans
    {first second third : Play}
    (reads : Reads first second) (readsAgain : Reads second third) :
    Reads first third := by
  obtain ⟨warnings, noted⟩ := reads.notes
  obtain ⟨others, notedAgain⟩ := readsAgain.notes
  refine ⟨readsAgain.scene.trans reads.scene,
    readsAgain.actors.trans reads.actors,
    readsAgain.zones.trans reads.zones,
    readsAgain.points.trans reads.points,
    readsAgain.nodes.trans reads.nodes, warnings ++ others, ?_⟩
  rw [notedAgain, noted, List.map_append, List.append_assoc]

theorem reads_warn (play : Play) (warning : Warning) :
    Reads play (play.warn warning) :=
  ⟨rfl, rfl, rfl, rfl, rfl, [warning], by simp [warn, note]⟩

theorem reads_warnIf (play : Play) (condition : Bool) (warning : Warning) :
    Reads play (play.warnIf condition warning) := by
  unfold warnIf
  split
  · exact reads_warn play warning
  · exact Reads.refl play

/-- Variables may change as they like. -/
theorem Reads.arrange
    {before after : Play} (reads : Reads before after) (cube : CubeBank)
    (game : GameBank) :
    Reads before { after with cube := cube, game := game } :=
  ⟨reads.scene, reads.actors, reads.zones, reads.points, reads.nodes,
    reads.notes⟩

/-- To use up a trigger leaves the zones where they are. -/
theorem reads_taken (play : Play) (index : Nat) :
    Reads play { play with zones := play.zones.modify index Zone.taken } := by
  refine ⟨rfl, rfl, ?_, rfl, rfl, [], by simp⟩
  apply List.ext_getElem?
  intro position
  rw [List.getElem?_map, List.getElem?_map, List.getElem?_modify]
  cases play.zones[position]? with
  | none => rfl
  | some zone => by_cases own : index = position <;> simp [own, Zone.taken]

theorem reads_read (play : Play) (runner : Nat) (operand : Operand) :
    Reads play (play.read runner operand).2 := by
  cases operand with
  | literal value => exact Reads.refl play
  | cubeVariable index =>
      exact (play.reads_warnIf _ _).arrange _ _
  | gameVariable index =>
      exact (play.reads_warnIf _ _).arrange _ _
  | zoneEntered zone =>
      simp only [read]
      split
      · exact Reads.refl play
      · exact reads_warn play _
  | zoneTriggered zone =>
      simp only [read]
      split
      · exact reads_taken play _
      · exact reads_warn play _
  | actorAlive actor => exact Reads.refl play
  | actorBehaviour actor => exact Reads.refl play
  | actorAnimation actor => exact Reads.refl play

/-- A condition is read operand by operand. -/
theorem reads_evaluate (play : Play) (runner : Nat) (condition : Condition) :
    Reads play (play.evaluate runner condition).2 := by
  induction condition generalizing play with
  | compare left test right =>
      exact (play.reads_read runner left).trans (reads_read _ runner right)
  | not term inductionHypothesis =>
      exact inductionHypothesis play
  | and left right leftHypothesis rightHypothesis =>
      exact (leftHypothesis play).trans (rightHypothesis _)
  | or left right leftHypothesis rightHypothesis =>
      exact (leftHypothesis play).trans (rightHypothesis _)

/-! ## Instructions -/

/-- What an instruction makes of a scene in which it has been noted: whether the
turn goes on, the script at work, and the scene. -/
inductive Instructs (runner : Nat) (command : Command) (script : Script)
    (started : Play) : Bool × Script × Play → Prop where
  | passes {next : Nat} {marked : Script} {after : Play}
      (leads : command.LeadsTo script.state.position next)
      (marks : script.Marks marked) (reads : started.Reads after) :
      Instructs runner command script started (true, marked.goTo next, after)
  | pauses {next : Nat}
      (restarts : next = script.state.position + 1 ∨ next = 0) :
      Instructs runner command script started
        (false, script.goTo next, started)
  | stops :
      Instructs runner command script started (false, script.halt, started)
  | kills {target : Nat} (other : target ≠ runner) :
      Instructs runner command script started
        (true, script.goTo (script.state.position + 1),
          started.kill runner target)
  | falls :
      Instructs runner command script started
        (false, script.goTo (script.state.position + 1),
          started.kill runner runner)
  | revives (target : Nat) :
      Instructs runner command script started
        (true, script.goTo (script.state.position + 1),
          started.revive runner target)
  | poses (change : Actor → Actor) (call : HostCall)
      (keeps : ∀ actor : Actor, actor.SameBody (change actor)) :
      Instructs runner command script started
        (true, script.goTo (script.state.position + 1),
          (started.modifyActor runner change).note (.call call))
  | moves (position : Vec3) :
      Instructs runner command script started
        (true, script.goTo (script.state.position + 1),
          started.moveActor runner position)
  | asks (target : SceneIndex) :
      Instructs runner command script started
        (false, script.goTo (script.state.position + 1),
          started.note (.event (.changeScene target runner)))

/-- What a branch comes to, whichever way it goes. -/
theorem Instructs.branches
    {runner : Nat} {command : Command} {script : Script} {started : Play}
    (condition : Condition) {target : UInt64}
    (jumps : command.jumpTarget? = some target) (taken : Bool)
    {marked : Script} (marks : script.Marks marked) :
    Instructs runner command script started
      (true,
        marked.goTo
          (if taken then script.state.position + 1 else target.toNat),
        (started.evaluate runner condition).2) := by
  refine .passes ?_ marks (started.reads_evaluate runner condition)
  cases taken with
  | true => exact .successor
  | false => exact .jump jumps

theorem instructs (runner : Nat) (kind : ScriptKind) (command : Command)
    (script : Script) (play : Play) :
    Instructs runner command script
      (play.note (.executed ⟨runner, kind, script.state.position⟩))
      (play.instruct runner kind command script) := by
  unfold instruct
  dsimp only
  generalize
    play.note (.executed ⟨runner, kind, script.state.position⟩) = started
  cases command with
  | ifThen condition elseTarget =>
      exact .branches condition rfl _ .nothing
  | oneIf condition elseTarget =>
      simp only [execute]
      cases (started.evaluate runner condition).1 &&
          !script.isSpent script.state.position with
      | true => exact .branches condition rfl true .spent
      | false => exact .branches condition rfl false .nothing
  | switchIf condition elseTarget =>
      exact .branches condition rfl _ (.seen _)
  | jump target => exact .passes (.jump rfl) .nothing (Reads.refl started)
  | yield => exact .pauses (.inl rfl)
  | restart => exact .pauses (.inr rfl)
  | stop => exact .stops
  | setCube index value =>
      exact .passes .successor .nothing
        ((started.reads_warnIf _ _).arrange _ _)
  | setGame index value =>
      exact .passes .successor .nothing
        ((started.reads_warnIf _ _).arrange _ _)
  | kill actor =>
      simp only [execute]
      by_cases own : actor.resolve runner = runner
      · rw [if_pos own, own]
        exact .falls
      · rw [if_neg own]
        exact .kills own
  | revive actor => exact .revives _
  | setBehaviour behaviour =>
      exact .poses _ _ fun actor => ⟨rfl, rfl, rfl, rfl, rfl, rfl⟩
  | playAnimation animation =>
      exact .poses _ _ fun actor => ⟨rfl, rfl, rfl, rfl, rfl, rfl⟩
  | setPosition target => exact .moves target
  | moveToPoint index =>
      simp only [execute]
      cases started.points[index.toNat]? with
      | some point => exact .moves point.position
      | none => exact .passes .successor .nothing (reads_warn started _)
  | changeScene target => exact .asks target

end Play

end Stagecraft
