import Stagecraft.Proofs.Script.Staging
import Stagecraft.Proofs.Session.Restoring
import Stagecraft.Stage.Basic

/-!
# Tidy sessions

Scripts only read and write game variables, so a tick leaves a tidy bank tidy:
whatever a script could have changed is among the touched variables.
-/

namespace Stagecraft

namespace Play

variable {play : Play}

/-! ## Instructions -/

theorem tidy_read (tidy : play.game.Tidy) (runner : Nat)
    (operand : Operand) : (play.read runner operand).2.game.Tidy := by
  have warned (condition : Bool) (warning : Warning) :
      (play.warnIf condition warning).game.Tidy := by
    unfold warnIf
    split <;> exact tidy
  cases operand with
  | gameVariable index => exact tidy.touch index
  | cubeVariable index => exact warned _ _
  | zoneEntered zone =>
      simp only [read]
      split <;> exact tidy
  | zoneTriggered zone =>
      simp only [read]
      split <;> exact tidy
  | _ => exact tidy

theorem tidy_evaluate (tidy : play.game.Tidy) (runner : Nat)
    (condition : Condition) :
    (play.evaluate runner condition).2.game.Tidy := by
  induction condition generalizing play with
  | compare left test right =>
      have afterLeft := tidy_read tidy runner left
      exact tidy_read afterLeft runner right
  | not term inductionHypothesis => exact inductionHypothesis tidy
  | and left right leftHypothesis rightHypothesis =>
      exact rightHypothesis (leftHypothesis tidy)
  | or left right leftHypothesis rightHypothesis =>
      exact rightHypothesis (leftHypothesis tidy)

theorem kill_game (play : Play) (cause target : Nat) :
    (play.kill cause target).game = play.game := by
  unfold kill
  split
  · rfl
  · split <;> rfl

theorem revive_game (play : Play) (cause target : Nat) :
    (play.revive cause target).game = play.game := by
  unfold revive
  split
  · rfl
  · split <;> rfl

theorem moveActor_game (play : Play) (target : Nat) (position : Vec3) :
    (play.moveActor target position).game = play.game := by
  unfold moveActor
  split <;> rfl

theorem tidy_execute (tidy : play.game.Tidy) (runner position : Nat)
    (command : Command) (script : Script) :
    (play.execute runner position command script).2.2.game.Tidy := by
  cases command with
  | ifThen condition elseTarget => exact tidy_evaluate tidy runner condition
  | oneIf condition elseTarget =>
      have tested := tidy_evaluate tidy runner condition
      simp only [execute]
      split <;> exact tested
  | switchIf condition elseTarget => exact tidy_evaluate tidy runner condition
  | setCube index value =>
      simp only [execute, warnIf]
      split <;> exact tidy
  | setGame index value => exact tidy.write index value
  | kill actor =>
      have killed := play.kill_game runner (actor.resolve runner)
      simp only [execute]
      split <;> exact killed.symm ▸ tidy
  | revive actor =>
      exact (play.revive_game runner (actor.resolve runner)).symm ▸ tidy
  | setPosition target =>
      exact (play.moveActor_game runner target).symm ▸ tidy
  | moveToPoint index =>
      simp only [execute]
      split
      · exact (play.moveActor_game runner _).symm ▸ tidy
      · exact tidy
  | _ => exact tidy

theorem tidy_instruct (tidy : play.game.Tidy) (runner : Nat)
    (kind : ScriptKind) (command : Command) (script : Script) :
    (play.instruct runner kind command script).2.2.game.Tidy := by
  have started :
      (play.note
        (.executed ⟨runner, kind, script.state.position⟩)).game.Tidy := tidy
  have executed := tidy_execute started runner script.state.position command
    script
  unfold instruct
  dsimp only
  split <;> simp_all

/-! ## Ticks -/

theorem tidy_tick (tidy : play.game.Tidy) (budget : Nat) :
    (play.tick budget).game.Tidy := by
  let holds : Play → Prop := fun play => play.game.Tidy
  have begun : holds play := tidy
  refine holds_of_tick ?slots ?warns ?instructs budget begun
  case slots => exact fun _ _ _ _ tidy => tidy
  case warns => exact fun _ _ tidy => tidy
  case instructs =>
    intro play runner kind command script tidy
    exact tidy_instruct tidy runner kind command script

end Play

theorem Stage.tidy_tick (stage : Stage) {game : GameBank}
    (tidy : game.Tidy) : (stage.tick game).2.1.Tidy := by
  unfold tick
  split
  · exact tidy
  · split
    · exact Play.tidy_tick tidy _
    · exact tidy

end Stagecraft
