import Stagecraft.Proofs.Content.Tagged
import Stagecraft.Proofs.Number.Single

/-!
# Spellings decode

However a command is written, it is read as that command. A condition that a command
tests has no more levels than its spelling, so that the decoder reaches all of it.
-/

namespace Stagecraft

/-! ## Numbers -/

namespace Json

theorem integer?_int {low high value : Int} (aboveLow : low ≤ value)
    (belowHigh : value ≤ high) :
    (int value).integer? low high = some value :=
  if_pos ⟨aboveLow, belowHigh⟩

theorem integer?_nat {high : Int} {value : Nat} (below : (value : Int) ≤ high) :
    (nat value).integer? 0 high = some (value : Int) :=
  integer?_int (Int.natCast_nonneg value) below

@[simp]
theorem word8?_nat (word : UInt8) : (nat word.toNat).word8? = some word := by
  have bound := word.toNat_lt
  rw [word8?, integer?_nat (by omega)]
  simp

@[simp]
theorem word16?_nat (word : UInt16) :
    (nat word.toNat).word16? = some word := by
  have bound := word.toNat_lt
  rw [word16?, integer?_nat (by omega)]
  simp

@[simp]
theorem word32?_nat (word : UInt32) :
    (nat word.toNat).word32? = some word := by
  have bound := word.toNat_lt
  rw [word32?, integer?_nat (by omega)]
  simp

@[simp]
theorem word64?_nat (word : UInt64) :
    (nat word.toNat).word64? = some word := by
  have bound := word.toNat_lt
  rw [word64?, integer?_nat (by omega)]
  simp

@[simp]
theorem signed32?_int (word : Int32) :
    (int word.toInt).signed32? = some word := by
  have low := word.le_toInt
  have high := word.toInt_lt
  rw [signed32?, integer?_int (by omega) (by omega)]
  simp

end Json

namespace Vec3

theorem single?_coordinate {value : Float32} (finite : value.isFinite) :
    (coordinate value).single? = some value := by
  rw [coordinate, if_pos finite, Json.single?, Reader.singleOf,
    Single.narrow_widen]

theorem ofForm?_form {vector : Vec3} (x : vector.x.isFinite)
    (y : vector.y.isFinite) (z : vector.z.isFinite) :
    ofForm? vector.form = some vector := by
  have read : vector.form.fields? ["x", "y", "z"] =
      some [coordinate vector.x, coordinate vector.y, coordinate vector.z] :=
    rfl
  rw [ofForm?, read]
  simp only [single?_coordinate x, single?_coordinate y, single?_coordinate z]
  rfl

end Vec3

/-! ## Operands -/

@[simp]
theorem ActorRef.ofForm?_form (actor : ActorRef) :
    ofForm? actor.form = some actor := by
  cases actor with
  | self => rfl
  | numbered index => simp [form, ofForm?, Json.variant?]

@[simp]
theorem Operand.ofForm?_form (operand : Operand) :
    ofForm? operand.form = some operand := by
  cases operand <;> simp [form, ofForm?, Json.variant?]

@[simp]
theorem Comparison.ofForm?_text_name (comparison : Comparison) :
    ofForm? (.text comparison.name) = some comparison := by
  cases comparison <;> rfl

/-! ## Conditions -/

namespace Condition

variable {condition : Condition} {json : Json}

/-- A condition has no more levels than any of its spellings. -/
theorem IsSpelled.height_le (spelled : condition.IsSpelled json) :
    condition.height ≤ json.depth := by
  induction spelled with
  | compare tagged =>
      rw [height]
      exact Nat.lt_of_le_of_lt (Nat.zero_le _)
        (tagged.depth_lt List.mem_cons_self)
  | not termSpelled tagged term =>
      have below := tagged.depth_lt List.mem_cons_self
      rw [height]
      omega
  | and leftSpelled rightSpelled tagged left right
  | or leftSpelled rightSpelled tagged left right =>
      have leftBelow := tagged.depth_lt List.mem_cons_self
      have rightBelow :=
        tagged.depth_lt (List.mem_cons_of_mem _ List.mem_cons_self)
      rw [height]
      omega

theorem height_pos (condition : Condition) : 0 < condition.height := by
  cases condition <;> exact Nat.succ_pos _

theorem IsSpelled.ofFormWithin? {levels : Nat}
    (enough : condition.height ≤ levels) (spelled : condition.IsSpelled json) :
    ofFormWithin? levels json = some condition := by
  induction levels generalizing condition json with
  | zero => exact absurd condition.height_pos (Nat.not_lt.mpr enough)
  | succ levels inductionHypothesis =>
      rw [Condition.ofFormWithin?]
      cases spelled with
      | compare tagged =>
          obtain ⟨body, untagged, fields⟩ := tagged.untag (by simp)
          simp only [List.map_cons, List.map_nil] at fields
          simp [untagged, kindOf?, kinds, fields]
      | not termSpelled tagged =>
          have term :=
            inductionHypothesis (Nat.le_of_succ_le_succ enough) termSpelled
          obtain ⟨body, untagged, fields⟩ := tagged.untag (by simp)
          simp only [List.map_cons, List.map_nil] at fields
          simp [untagged, kindOf?, kinds, fields, term]
      | and leftSpelled rightSpelled tagged
      | or leftSpelled rightSpelled tagged =>
          rw [height, Nat.add_le_add_iff_right, Nat.max_le] at enough
          have left := inductionHypothesis enough.1 leftSpelled
          have right := inductionHypothesis enough.2 rightSpelled
          obtain ⟨body, untagged, fields⟩ := tagged.untag (by simp)
          simp only [List.map_cons, List.map_nil] at fields
          simp [untagged, kindOf?, kinds, fields, left, right]

/-- Every spelling of a condition decodes to it. -/
theorem IsSpelled.ofForm? (spelled : condition.IsSpelled json) :
    ofForm? json = some condition :=
  spelled.ofFormWithin? spelled.height_le

theorem isSpelled_form (condition : Condition) :
    condition.IsSpelled condition.form := by
  induction condition with
  | compare left test right => exact .compare (.object (.refl _))
  | not term termSpelled => exact .not termSpelled (.object (.refl _))
  | and left right leftSpelled rightSpelled =>
      exact .and leftSpelled rightSpelled (.object (.refl _))
  | or left right leftSpelled rightSpelled =>
      exact .or leftSpelled rightSpelled (.object (.refl _))

end Condition

/-! ## Commands -/

namespace Command

theorem name_mem_names (command : Command) : command.name ∈ names := by
  cases command <;> simp [name, names]

theorem nodup_fields (command : Command) :
    ("op" :: command.fields.map Prod.fst).Nodup := by
  cases command <;> simp [fields]

section Fields

variable {command : Command} {body : Json}

theorem ofFields?_of_conditional {condition : Condition} {target : UInt64}
    {inside : Json} (tests : command.condition? = some condition)
    (jumps : command.jumpTarget? = some target)
    (spelled : condition.IsSpelled inside)
    (read : body.fields? ["condition", "else_target"] =
      some [inside, .nat target.toNat]) :
    ofFields? command.name body = some command := by
  cases command with
  | ifThen own ownTarget | oneIf own ownTarget | switchIf own ownTarget =>
      cases tests
      cases jumps
      simp [ofFields?, name, conditional?, read, spelled.ofForm?]
  | _ => cases tests

theorem ofFields?_of_plain (finite : command.isFinite)
    (untested : command.condition? = none)
    (read : body.fields? (command.fields.map Prod.fst) =
      some (command.fields.map Prod.snd)) :
    ofFields? command.name body = some command := by
  cases command with
  | ifThen | oneIf | switchIf => cases untested
  | setPosition position =>
      simp only [isFinite, Bool.and_eq_true] at finite
      obtain ⟨⟨x, y⟩, z⟩ := finite
      simp only [fields, List.map_cons, List.map_nil] at read
      simp [ofFields?, name, single?, read, Vec3.ofForm?_form x y z]
  | _ =>
      simp only [fields, List.map_cons, List.map_nil] at read
      simp [ofFields?, name, single?, assignment?, bare?, read]

end Fields

section Spelled

variable {command : Command} {json : Json} (spelled : command.IsSpelled json)
  (finite : command.isFinite)

include spelled finite

/-- A spelling of a command is its name tagged with fields that decode to it. -/
theorem IsSpelled.exists_fields :
    ∃ fields, json.IsTagged "op" command.name fields ∧
      ("op" :: fields.map Prod.fst).Nodup ∧
      ∀ body : Json,
        body.fields? (fields.map Prod.fst) = some (fields.map Prod.snd) →
          ofFields? command.name body = some command := by
  cases spelled with
  | conditional tests jumps conditionSpelled tagged =>
      exact ⟨_, tagged, by simp, fun body read =>
        ofFields?_of_conditional tests jumps conditionSpelled read⟩
  | plain untested tagged =>
      exact ⟨_, tagged, command.nodup_fields, fun body read =>
        ofFields?_of_plain finite untested read⟩

/-- A spelling of a command decodes to it. -/
theorem IsSpelled.ofForm? : ofForm? json = some command := by
  obtain ⟨fields, tagged, distinct, decodes⟩ := spelled.exists_fields finite
  obtain ⟨body, untagged, read⟩ := tagged.untag distinct
  simp [Command.ofForm?, untagged, Json.text?, decodes body read]

/-- A text whose value spells a command is read as it. -/
theorem IsSpelled.reader {enclosing : Nat} {fragment : Fragment}
    (whole : fragment.whole enclosing = .ok json) :
    reader enclosing fragment = .ok command := by
  obtain ⟨fields, tagged, distinct, _⟩ := spelled.exists_fields finite
  have read :=
    Reader.tagged_of_whole command.name_mem_names tagged distinct whole
  rw [Command.reader, Reader.decoded]
  simp only [read, bind, Except.bind, spelled.ofForm? finite]

end Spelled

/-- A command's own fields, tagged in any way, spell it. -/
theorem isSpelled_of_isTagged (command : Command) {json : Json}
    (tagged : json.IsTagged "op" command.name command.fields) :
    command.IsSpelled json := by
  cases command with
  | ifThen condition target | oneIf condition target
  | switchIf condition target =>
      exact .conditional rfl rfl condition.isSpelled_form tagged
  | _ => exact .plain rfl tagged

/-- The object and the array of a command spell it, and whatever spells it, in any
order of the members, is decoded to it, is read as it from a text, and spells no
other command. -/
theorem spellings_decode {command : Command} (finite : command.isFinite) :
    command.IsSpelled command.form ∧
      command.IsSpelled command.arrayForm ∧
      ∀ json, command.IsSpelled json →
        ofForm? json = some command ∧
        (∀ enclosing (fragment : Fragment),
          fragment.whole enclosing = .ok json →
            reader enclosing fragment = .ok command) ∧
        ∀ other : Command, other.isFinite → other.IsSpelled json →
          other = command := by
  refine ⟨command.isSpelled_of_isTagged (.object (.refl _)),
    command.isSpelled_of_isTagged .array, fun json spelled => ?_⟩
  have decoded := spelled.ofForm? finite
  refine ⟨decoded, fun _ _ whole => spelled.reader finite whole, ?_⟩
  intro other otherFinite otherSpelled
  have otherDecoded := otherSpelled.ofForm? otherFinite
  exact Option.some.inj (otherDecoded.symm.trans decoded)

theorem spellings_decode_leap :
    let command : Command := .setPosition ⟨0.5, -0.0, Float32.ofBits 1⟩
    let json : Json := .object
      [("position", Vec3.form ⟨0.5, -0.0, Float32.ofBits 1⟩),
        ("op", .text "SET_POSITION")]
    command.isFinite = true ∧ command.IsSpelled json ∧
      ofForm? json = some command := by
  intro command json
  have finite : command.isFinite = true := by decide
  have spelled : command.IsSpelled json := .plain rfl (.object (.swap ..))
  exact ⟨finite, spelled, ((spellings_decode finite).2.2 json spelled).1⟩

example :
    reader 0 (Fragment.ofText ("[\"ONE_IF\",[\"NOT\",[\"COMPARE\"," ++
      "\x7b\"VAR_CUBE\":2\x7d,\"LT\",\x7b\"LITERAL\":-5\x7d]],7]")) =
      .ok (.oneIf
        (.not (.compare (.cubeVariable 2) .less (.literal (-5)))) 7) := by
  cbv

end Command

end Stagecraft
