import Stagecraft.Proofs.Script.Simulations
import Stagecraft.Proofs.Variables

/-!
# Scripts and the banks of two sessions

Scripts see the values of game variables, never the length of their bank nor what
was accessed before. So a tick of one scene in two sessions with the same values
goes the same way, but for warnings that the bank of one of them grew.
-/

namespace Stagecraft

/-! ## Banks and journals -/

/-- Whether two banks hold the same values, and the second was accessed where the
first was and otherwise at most at extra indices. -/
structure GameBank.Agree (extra : UInt16 → Prop) (left right : GameBank) :
    Prop where
  value : ∀ index, right.value index = left.value index
  kept : ∀ index ∈ left.touched, index ∈ right.touched
  known : ∀ index ∈ right.touched, index ∈ left.touched ∨ extra index

/-- What a journal holds besides warnings that the game bank grew. -/
def Journal.steady (journal : Journal) : List Note :=
  journal.toList.filter fun entry => !entry.isGameGrowth

section Banks

variable {extra : UInt16 → Prop}

theorem GameBank.Agree.refl (bank : GameBank) : bank.Agree extra bank :=
  ⟨fun _ => rfl, fun _ => id, fun _ => .inl⟩

variable {left right : GameBank}

theorem GameBank.Agree.touch (agree : left.Agree extra right)
    (index : UInt16) :
    (left.touch index).Agree extra (right.touch index) := by
  refine ⟨fun other => ?_, fun other listed => ?_, fun other listed => ?_⟩
  · rw [value_touch, value_touch, agree.value]
  · rw [mem_touched_touch] at listed ⊢
    exact listed.imp_right (agree.kept other)
  · rw [mem_touched_touch] at listed
    rw [mem_touched_touch, or_assoc]
    exact listed.imp_right (agree.known other)

theorem GameBank.Agree.write (agree : left.Agree extra right)
    (index : UInt16) (value : Int32) :
    (left.write index value).Agree extra (right.write index value) := by
  refine ⟨fun other => ?_, fun other listed => ?_, fun other listed => ?_⟩
  · rw [value_write, value_write, agree.value]
  · rw [mem_touched_write] at listed ⊢
    exact listed.imp_right (agree.kept other)
  · rw [mem_touched_write] at listed
    rw [mem_touched_write, or_assoc]
    exact listed.imp_right (agree.known other)

end Banks

namespace Journal

theorem steady_append (first second : Journal) :
    steady (first ++ second) = steady first ++ steady second := by
  rw [steady, Array.toList_append, List.filter_append]
  rfl

/-- A view that does not show warnings sees the same without some of them. -/
theorem filterMap_without {α : Type} {view : Note → Option α}
    (blind : ∀ warning, view (.warning warning) = none)
    (hides : Warning → Bool) (notes : List Note) :
    (notes.filter fun entry => !entry.warning?.any hides).filterMap view =
      notes.filterMap view := by
  rw [List.filterMap_filter]
  apply List.filterMap_congr
  intro entry _
  cases entry with
  | warning warning =>
      rw [blind]
      exact ite_self none
  | _ => rfl

/-- A view that does not show warnings sees what is steady. -/
theorem filterMap_steady {α : Type} {view : Note → Option α}
    (blind : ∀ warning, view (.warning warning) = none) (journal : Journal) :
    journal.steady.filterMap view = journal.toList.filterMap view :=
  filterMap_without blind _ journal.toList

variable {left right : Journal}

theorem trace_of_steady (same : right.steady = left.steady) :
    right.trace = left.trace := by
  rw [trace, ← filterMap_steady fun _ => rfl, same,
    filterMap_steady fun _ => rfl, trace]

theorem events_of_steady (same : right.steady = left.steady) :
    right.events = left.events := by
  rw [events, ← filterMap_steady fun _ => rfl, same,
    filterMap_steady fun _ => rfl, events]

theorem calls_of_steady (same : right.steady = left.steady) :
    right.calls = left.calls := by
  rw [calls, ← filterMap_steady fun _ => rfl, same,
    filterMap_steady fun _ => rfl, calls]

end Journal

/-! ## Scenes in two sessions -/

namespace Play

/-- Whether two scenes differ at most in their sessions, which agree, and in notes
that the game bank grew. -/
inductive Agree (extra : UInt16 → Prop) (left : Play) : Play → Prop where
  | intro {game : GameBank} {journal : Journal}
      (banks : left.game.Agree extra game)
      (notes : journal.steady = left.journal.steady) :
      Agree extra left { left with game := game, journal := journal }

namespace Agree

variable {extra : UInt16 → Prop} {left right : Play}

theorem note (agree : left.Agree extra right) (entry : Note) :
    (left.note entry).Agree extra (right.note entry) := by
  cases agree with
  | intro banks notes =>
      refine .intro banks ?_
      rw [← Array.append_singleton, Play.note, ← Array.append_singleton,
        Journal.steady_append, Journal.steady_append, notes]

theorem warnIf (agree : left.Agree extra right) (condition : Bool)
    (warning : Warning) :
    (left.warnIf condition warning).Agree extra
      (right.warnIf condition warning) := by
  cases condition with
  | true => exact agree.note _
  | false => exact agree

/-- Only one of two banks may grow, or both from different sizes. -/
theorem growth (agree : left.Agree extra right) (leftGrows rightGrows : Bool)
    (index : UInt16) (leftSize rightSize : Nat) :
    (left.warnIf leftGrows (.gameVariableGrown index leftSize)).Agree extra
      (right.warnIf rightGrows (.gameVariableGrown index rightSize)) := by
  have hidden (journal : Journal) (size : Nat) :
      Journal.steady (journal.push (.warning (.gameVariableGrown index size))) =
        journal.steady := by
    rw [← Array.append_singleton, Journal.steady_append]
    exact List.append_nil _
  cases agree with
  | intro banks notes =>
      cases leftGrows <;> cases rightGrows
      · exact .intro banks notes
      · exact .intro banks ((hidden _ _).trans notes)
      · exact .intro banks (notes.trans (hidden _ _).symm)
      · exact .intro banks
          (((hidden _ _).trans notes).trans (hidden _ _).symm)

theorem withCube (agree : left.Agree extra right) (cube : CubeBank) :
    Agree extra { left with cube := cube } { right with cube := cube } := by
  cases agree with
  | intro banks notes => exact .intro banks notes

theorem withGame (agree : left.Agree extra right) {game other : GameBank}
    (banks : game.Agree extra other) :
    Agree extra { left with game := game } { right with game := other } := by
  cases agree with
  | intro _ notes => exact .intro banks notes

theorem withActors (agree : left.Agree extra right) (actors : List Actor)
    (nodes : NodeTree) :
    Agree extra { left with actors := actors, nodes := nodes }
      { right with actors := actors, nodes := nodes } := by
  cases agree with
  | intro banks notes => exact .intro banks notes

theorem game (agree : left.Agree extra right) :
    left.game.Agree extra right.game := by
  cases agree with
  | intro banks notes => exact banks

theorem actors (agree : left.Agree extra right) :
    right.actors = left.actors := by
  cases agree with
  | intro banks notes => rfl

theorem nodes (agree : left.Agree extra right) :
    right.nodes = left.nodes := by
  cases agree with
  | intro banks notes => rfl

theorem scene (agree : left.Agree extra right) :
    right.scene = left.scene := by
  cases agree with
  | intro banks notes => rfl

theorem modifyActor (agree : left.Agree extra right) (position : Nat)
    (change : Actor → Actor) :
    (left.modifyActor position change).Agree extra
      (right.modifyActor position change) := by
  cases agree with
  | intro banks notes => exact .intro banks notes

/-! ## Instructions -/

theorem read (agree : left.Agree extra right) (runner : Nat)
    (operand : Operand) :
    (right.read runner operand).1 = (left.read runner operand).1 ∧
      (left.read runner operand).2.Agree extra
        (right.read runner operand).2 := by
  cases operand with
  | gameVariable index =>
      exact ⟨agree.game.value index,
        (agree.growth _ _ _ _ _).withGame (agree.game.touch index)⟩
  | cubeVariable index =>
      have warned :=
        agree.warnIf (left.cube.grows index)
          (.cubeVariableGrown index left.cube.size)
      cases agree with
      | intro banks notes => exact ⟨rfl, warned.withCube _⟩
  | zoneEntered zone =>
      have warned :=
        agree.note (.warning (.zoneMissing left.scene runner zone.toNat))
      cases agree with
      | intro banks notes =>
          simp only [Play.read]
          cases left.zones[zone.toNat]? with
          | none => exact ⟨rfl, warned⟩
          | some found => exact ⟨rfl, .intro banks notes⟩
  | zoneTriggered zone =>
      have warned :=
        agree.note (.warning (.zoneMissing left.scene runner zone.toNat))
      cases agree with
      | intro banks notes =>
          simp only [Play.read]
          cases left.zones[zone.toNat]? with
          | none => exact ⟨rfl, warned⟩
          | some found => exact ⟨rfl, .intro banks notes⟩
  | literal value => exact ⟨rfl, agree⟩
  | actorAlive actor =>
      cases agree with
      | intro banks notes => exact ⟨rfl, .intro banks notes⟩
  | actorBehaviour actor =>
      cases agree with
      | intro banks notes => exact ⟨rfl, .intro banks notes⟩
  | actorAnimation actor =>
      cases agree with
      | intro banks notes => exact ⟨rfl, .intro banks notes⟩

/-- A condition is read operand by operand, at every depth. -/
theorem evaluate (agree : left.Agree extra right) (runner : Nat)
    (condition : Condition) :
    (right.evaluate runner condition).1 =
        (left.evaluate runner condition).1 ∧
      (left.evaluate runner condition).2.Agree extra
        (right.evaluate runner condition).2 := by
  induction condition generalizing left right with
  | compare first test second =>
      obtain ⟨sameFirst, readFirst⟩ := agree.read runner first
      obtain ⟨sameSecond, readSecond⟩ := readFirst.read runner second
      simp only [Play.evaluate]
      rw [sameFirst, sameSecond]
      exact ⟨rfl, readSecond⟩
  | not term inductionHypothesis =>
      obtain ⟨same, after⟩ := inductionHypothesis agree
      simp only [Play.evaluate]
      rw [same]
      exact ⟨rfl, after⟩
  | and first second firstHypothesis secondHypothesis =>
      obtain ⟨sameFirst, afterFirst⟩ := firstHypothesis agree
      obtain ⟨sameSecond, afterSecond⟩ := secondHypothesis afterFirst
      simp only [Play.evaluate]
      rw [sameFirst, sameSecond]
      exact ⟨rfl, afterSecond⟩
  | or first second firstHypothesis secondHypothesis =>
      obtain ⟨sameFirst, afterFirst⟩ := firstHypothesis agree
      obtain ⟨sameSecond, afterSecond⟩ := secondHypothesis afterFirst
      simp only [Play.evaluate]
      rw [sameFirst, sameSecond]
      exact ⟨rfl, afterSecond⟩

theorem kill (agree : left.Agree extra right) (cause target : Nat) :
    (left.kill cause target).Agree extra (right.kill cause target) := by
  have noted := agree.note (.event (.killed target cause))
  unfold Play.kill
  rw [agree.actors, agree.nodes, agree.scene]
  cases left.actors[target]? with
  | none => exact agree.note _
  | some actor =>
      dsimp only
      split
      · exact noted.withActors _ _
      · exact agree

theorem revive (agree : left.Agree extra right) (cause target : Nat) :
    (left.revive cause target).Agree extra (right.revive cause target) := by
  have noted := agree.note (.event (.revived target cause))
  unfold Play.revive
  rw [agree.actors, agree.nodes, agree.scene]
  cases left.actors[target]? with
  | none => exact agree.note _
  | some actor =>
      dsimp only
      split
      · exact agree
      · exact noted.withActors _ _

theorem moveActor (agree : left.Agree extra right) (target : Nat)
    (position : Vec3) :
    (left.moveActor target position).Agree extra
      (right.moveActor target position) := by
  cases agree with
  | intro banks notes =>
      simp only [Play.moveActor]
      cases left.actors[target]? with
      | none => exact .intro banks notes
      | some actor => exact .intro banks notes

theorem execute (agree : left.Agree extra right) (runner position : Nat)
    (command : Command) (script : Script) :
    let leftDone := left.execute runner position command script
    let rightDone := right.execute runner position command script
    rightDone.1 = leftDone.1 ∧ rightDone.2.1 = leftDone.2.1 ∧
      leftDone.2.2.Agree extra rightDone.2.2 := by
  -- Opening the agreement makes all but sessions and notes one, so that both sides
  -- note the same. What depends on the sessions is settled before.
  cases command with
  | ifThen condition elseTarget =>
      obtain ⟨same, after⟩ := agree.evaluate runner condition
      simp only [Play.execute]
      rw [same]
      exact ⟨rfl, trivial, after⟩
  | oneIf condition elseTarget =>
      obtain ⟨same, after⟩ := agree.evaluate runner condition
      simp only [Play.execute]
      rw [same]
      split
      · exact ⟨rfl, rfl, after⟩
      · exact ⟨rfl, rfl, after⟩
  | switchIf condition elseTarget =>
      obtain ⟨same, after⟩ := agree.evaluate runner condition
      simp only [Play.execute]
      rw [same]
      exact ⟨rfl, rfl, after⟩
  | jump target => exact ⟨rfl, rfl, agree⟩
  | yield => exact ⟨rfl, rfl, agree⟩
  | restart => exact ⟨rfl, rfl, agree⟩
  | stop => exact ⟨rfl, rfl, agree⟩
  | setCube index value =>
      have warned :=
        agree.warnIf (left.cube.grows index)
          (.cubeVariableGrown index left.cube.size)
      cases agree with
      | intro banks notes => exact ⟨rfl, rfl, warned.withCube _⟩
  | setGame index value =>
      exact ⟨rfl, rfl,
        (agree.growth _ _ _ _ _).withGame (agree.game.write index value)⟩
  | kill actor =>
      have killed := agree.kill runner (actor.resolve runner)
      simp only [Play.execute]
      split
      · exact ⟨rfl, rfl, killed⟩
      · exact ⟨rfl, rfl, killed⟩
  | revive actor => exact ⟨rfl, rfl, agree.revive runner _⟩
  | setBehaviour behaviour =>
      have posed := agree.modifyActor runner fun actor =>
        { actor with behaviour := behaviour }
      cases agree with
      | intro banks notes => exact ⟨rfl, rfl, posed.note _⟩
  | playAnimation animation =>
      have posed := agree.modifyActor runner fun actor =>
        { actor with animation := animation }
      cases agree with
      | intro banks notes => exact ⟨rfl, rfl, posed.note _⟩
  | setPosition target => exact ⟨rfl, rfl, agree.moveActor runner target⟩
  | moveToPoint index =>
      have missing :=
        agree.note (.warning (.pointMissing left.scene runner index.toNat))
      have moved (point : Point) := agree.moveActor runner point.position
      cases agree with
      | intro banks notes =>
          simp only [Play.execute]
          cases left.points[index.toNat]? with
          | none => exact ⟨rfl, rfl, missing⟩
          | some point => exact ⟨rfl, rfl, moved point⟩
  | changeScene target => exact ⟨rfl, rfl, agree.note _⟩

theorem instruct (agree : left.Agree extra right) (runner : Nat)
    (kind : ScriptKind) (command : Command) (script : Script) :
    let leftDone := left.instruct runner kind command script
    let rightDone := right.instruct runner kind command script
    rightDone.1 = leftDone.1 ∧ rightDone.2.1 = leftDone.2.1 ∧
      leftDone.2.2.Agree extra rightDone.2.2 := by
  have started :=
    agree.note (.executed ⟨runner, kind, script.state.position⟩)
  obtain ⟨sameFlow, sameScript, after⟩ :=
    started.execute runner script.state.position command script
  simp only [Play.instruct]
  rw [sameFlow, sameScript]
  split
  · exact ⟨rfl, rfl, after⟩
  · exact ⟨rfl, rfl, after⟩
  · exact ⟨rfl, rfl, after⟩

/-! ## Turns and ticks -/

/-- A scene plays in step with itself in a session that agrees. -/
theorem isSimulation (extra : UInt16 → Prop) :
    IsSimulation (Agree extra) (fun _ => Eq) where
  count agree := congrArg List.length agree.actors
  ready := by
    intro left right agree turn
    have same : right.ready? turn = left.ready? turn := by
      simp only [ready?, script?, isAlive, agree.actors]
    rw [same]
    cases left.ready? turn with
    | none => exact .none
    | some script => exact .some rfl
  vacant _ := rfl
  put := by
    rintro left right runner script _ agree rfl kind
    exact agree.modifyActor _ _
  tires := by
    rintro left right runner script _ agree rfl kind budget
    rw [exhaustion, exhaustion, agree.scene]
    exact agree.note _
  halts := by
    rintro _ script _ rfl past
    exact ⟨past, rfl⟩
  instructs := by
    rintro left right runner script _ command agree rfl current kind
    obtain ⟨goes, sameScript, after⟩ :=
      agree.instruct runner kind command script
    exact ⟨command, current, goes, sameScript.symm, after⟩

/-- A tick goes the same way in two sessions that agree. -/
theorem tick (agree : left.Agree extra right) (budget : Nat) :
    (left.tick budget).Agree extra (right.tick budget) :=
  (isSimulation extra).tick agree budget

end Agree

end Play

end Stagecraft
