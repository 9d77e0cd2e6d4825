import Stagecraft.Proofs.Variables
import Stagecraft.Script.References

/-!
# What scripts mention

Which variables a command mentions, by the form of the command alone, and that the
survey of a scene's programs finds exactly these: no command and no operand is
missed at any depth, and nothing else is listed.
-/

namespace Stagecraft

/-! ## Mentions -/

/-- Which operands name a variable. -/
inductive Operand.Mentions : Operand → VariableRef → Prop where
  | cube (index : UInt16) : Mentions (.cubeVariable index) (.cube index)
  | game (index : UInt16) : Mentions (.gameVariable index) (.game index)

/-- Which variables the comparisons in a condition name, however deep they
stand. -/
inductive Condition.Mentions : Condition → VariableRef → Prop where
  | left {left : Operand} {reference : VariableRef} (test : Comparison)
      (right : Operand) (names : left.Mentions reference) :
      Mentions (.compare left test right) reference
  | right {right : Operand} {reference : VariableRef} (left : Operand)
      (test : Comparison) (names : right.Mentions reference) :
      Mentions (.compare left test right) reference
  | not {term : Condition} {reference : VariableRef}
      (inside : Mentions term reference) :
      Mentions (.not term) reference
  | andLeft {left : Condition} {reference : VariableRef} (right : Condition)
      (inside : Mentions left reference) :
      Mentions (.and left right) reference
  | andRight {right : Condition} {reference : VariableRef} (left : Condition)
      (inside : Mentions right reference) :
      Mentions (.and left right) reference
  | orLeft {left : Condition} {reference : VariableRef} (right : Condition)
      (inside : Mentions left reference) :
      Mentions (.or left right) reference
  | orRight {right : Condition} {reference : VariableRef} (left : Condition)
      (inside : Mentions right reference) :
      Mentions (.or left right) reference

inductive Command.Mentions : Command → VariableRef → Prop where
  | setCube (index : UInt16) (value : Int32) :
      Mentions (.setCube index value) (.cube index)
  | setGame (index : UInt16) (value : Int32) :
      Mentions (.setGame index value) (.game index)
  | ifThen {condition : Condition} {reference : VariableRef} (target : UInt64)
      (tests : condition.Mentions reference) :
      Mentions (.ifThen condition target) reference
  | oneIf {condition : Condition} {reference : VariableRef} (target : UInt64)
      (tests : condition.Mentions reference) :
      Mentions (.oneIf condition target) reference
  | switchIf {condition : Condition} {reference : VariableRef} (target : UInt64)
      (tests : condition.Mentions reference) :
      Mentions (.switchIf condition target) reference

def Program.Mentions (program : Program) (reference : VariableRef) : Prop :=
  ∃ command ∈ program.commands, command.Mentions reference

/-- Whether some program mentions a variable. -/
def Mentioned (programs : List Program) (reference : VariableRef) : Prop :=
  ∃ program ∈ programs, program.Mentions reference

/-! ## The survey is exact -/

theorem Operand.mentions_iff (operand : Operand) (reference : VariableRef) :
    operand.Mentions reference ↔ operand.variable? = some reference := by
  constructor
  · intro names
    cases names <;> rfl
  · intro known
    unfold Operand.variable? at known
    cases operand <;> simp only [Option.some.injEq, reduceCtorEq] at known
    · exact known ▸ .cube _
    · exact known ▸ .game _

theorem Condition.mentions_iff (condition : Condition)
    (reference : VariableRef) :
    condition.Mentions reference ↔
      ∃ operand ∈ condition.operands, operand.Mentions reference := by
  induction condition with
  | compare left test right =>
      simp only [operands, List.mem_cons, List.not_mem_nil, or_false,
        exists_eq_or_imp, exists_eq_left]
      constructor
      · intro mentions
        cases mentions with
        | left test right names => exact .inl names
        | right left test names => exact .inr names
      · rintro (names | names)
        · exact .left test right names
        · exact .right left test names
  | not term inductionHypothesis =>
      rw [operands, ← inductionHypothesis]
      constructor
      · intro mentions
        cases mentions with
        | not inside => exact inside
      · exact .not
  | and left right leftHypothesis rightHypothesis =>
      simp only [operands, List.mem_append, or_and_right, exists_or,
        ← leftHypothesis, ← rightHypothesis]
      constructor
      · intro mentions
        cases mentions with
        | andLeft right inside => exact .inl inside
        | andRight left inside => exact .inr inside
      · rintro (inside | inside)
        · exact .andLeft right inside
        · exact .andRight left inside
  | or left right leftHypothesis rightHypothesis =>
      simp only [operands, List.mem_append, or_and_right, exists_or,
        ← leftHypothesis, ← rightHypothesis]
      constructor
      · intro mentions
        cases mentions with
        | orLeft right inside => exact .inl inside
        | orRight left inside => exact .inr inside
      · rintro (inside | inside)
        · exact .orLeft right inside
        · exact .orRight left inside

theorem Command.mentions_iff (command : Command) (reference : VariableRef) :
    command.Mentions reference ↔ reference ∈ command.variableRefs := by
  have listed :
      reference ∈ command.variableRefs ↔
        command.assigned? = some reference ∨
          ∃ condition, command.condition? = some condition ∧
            condition.Mentions reference := by
    simp only [variableRefs, List.mem_append, Option.mem_toList,
      List.mem_filterMap, ← Operand.mentions_iff, operands]
    cases command.condition? with
    | none => simp
    | some condition => simp [condition.mentions_iff]
  rw [listed]
  constructor
  · intro mentions
    cases mentions with
    | setCube index value => exact .inl rfl
    | setGame index value => exact .inl rfl
    | ifThen target tests => exact .inr ⟨_, rfl, tests⟩
    | oneIf target tests => exact .inr ⟨_, rfl, tests⟩
    | switchIf target tests => exact .inr ⟨_, rfl, tests⟩
  · rintro (sets | ⟨condition, tested, tests⟩)
    · cases command <;>
        simp only [assigned?, Option.some.injEq, reduceCtorEq] at sets
      · exact sets ▸ .setCube _ _
      · exact sets ▸ .setGame _ _
    · cases command <;>
        simp only [condition?, Option.some.injEq, reduceCtorEq] at tested
      · exact .ifThen _ (tested ▸ tests)
      · exact .oneIf _ (tested ▸ tests)
      · exact .switchIf _ (tested ▸ tests)

theorem mem_variablesOf (programs : List Program) (reference : VariableRef) :
    reference ∈ variablesOf programs ↔ Mentioned programs reference := by
  simp only [variablesOf, List.mem_flatMap, ← Command.mentions_iff]
  rfl

/-! ## Sizes and lists -/

/-- Whether a size is one more than the largest of some indices, or zero if there
are none. -/
inductive Spans (size : Nat) (indices : UInt16 → Prop) : Prop where
  | nothing (none : ∀ index, ¬ indices index) (zero : size = 0)
  | upTo (largest : UInt16) (listed : indices largest)
      (greatest : ∀ index, indices index → index ≤ largest)
      (next : size = largest.toNat + 1)

theorem Spans.lt {size : Nat} {indices : UInt16 → Prop}
    (spans : Spans size indices) {index : UInt16} (listed : indices index) :
    index.toNat < size := by
  cases spans with
  | nothing none zero => exact absurd listed (none index)
  | upTo largest _ greatest next =>
      have below : index.toNat ≤ largest.toNat :=
        UInt16.le_iff_toNat_le.mp (greatest index listed)
      omega

/-- A size that takes in one more index. -/
theorem Spans.insert {size : Nat} {indices : UInt16 → Prop}
    (spans : Spans size indices) (added : UInt16) :
    Spans (max size (added.toNat + 1))
      (fun index => index = added ∨ indices index) := by
  by_cases inside : added.toNat < size
  · cases spans with
    | nothing none zero => omega
    | upTo largest listed greatest next =>
        refine .upTo largest (.inr listed) ?_ (by omega)
        rintro index (rfl | known)
        · rw [UInt16.le_iff_toNat_le]
          omega
        · exact greatest index known
  · refine .upTo added (.inl rfl) ?_ (by omega)
    rintro index (rfl | known)
    · exact UInt16.le_refl _
    · have below := spans.lt known
      rw [UInt16.le_iff_toNat_le]
      omega

theorem Spans.congr {size : Nat} {indices others : UInt16 → Prop}
    (spans : Spans size indices)
    (same : ∀ index, indices index ↔ others index) :
    Spans size others := by
  have equal : indices = others := funext fun index => propext (same index)
  exact equal ▸ spans

theorem spans_foldl {size : Nat} {indices : UInt16 → Prop}
    (spans : Spans size indices) (added : List UInt16) :
    Spans
      (added.foldl (fun size index => max size (index.toNat + 1)) size)
      (fun index => index ∈ added ∨ indices index) := by
  induction added generalizing size indices with
  | nil =>
      exact spans.congr fun index => by simp
  | cons head rest inductionHypothesis =>
      refine (inductionHypothesis (spans.insert head)).congr fun index => ?_
      rw [List.mem_cons]
      exact or_left_comm.trans or_assoc.symm

/-- The size of a cube bank is one more than the largest cube variable that the
programs mention. -/
theorem spans_cubeSize (programs : List Program) :
    Spans (cubeSize programs)
      (fun index => Mentioned programs (.cube index)) := by
  have started : Spans 0 (fun _ : UInt16 => False) :=
    .nothing (fun _ => id) rfl
  refine (spans_foldl started _).congr fun index => ?_
  rw [or_false, List.mem_filterMap, ← mem_variablesOf]
  constructor
  · rintro ⟨_ | _, listed, known⟩
    · obtain rfl := Option.some.inj known
      exact listed
    · simp [VariableRef.cubeIndex?] at known
  · exact fun listed => ⟨_, listed, rfl⟩

theorem mem_gameReferences (programs : List Program) (index : UInt16) :
    index ∈ gameReferences programs ↔
      Mentioned programs (.game index) := by
  rw [gameReferences, mem_foldl_insertIndex, ← mem_variablesOf,
    List.mem_filterMap]
  constructor
  · rintro (⟨_ | _, listed, known⟩ | known)
    · simp [VariableRef.gameIndex?] at known
    · obtain rfl := Option.some.inj known
      exact listed
    · simp at known
  · exact fun listed => .inl ⟨_, listed, rfl⟩

theorem gameReferences_ascending (programs : List Program) :
    (gameReferences programs).Pairwise (· < ·) :=
  ascending_foldl_insertIndex .nil _

end Stagecraft
