import Mathlib.Data.List.Forall2
import Stagecraft.Json.Fragment
import Stagecraft.Proofs.Json.Numerals
import Stagecraft.Proofs.Json.Spelling

/-!
# Reading what was printed

An indented value is read as the fragment that belongs to it, whatever text
follows. A number alone needs a text behind it that does not continue it; inside
an object it always has one.
-/

namespace Stagecraft

/-- Whether the text of a value ends where a text behind it starts. -/
def Json.Closes (rest : List Char) : Json → Prop
  | .number _ => Numeral.Stops rest
  | _ => True

namespace Fragment

/-- Whether the indented text of a value is read as a fragment. -/
def ReadsAs (level : Nat) (json : Json) (fragment : Fragment) : Prop :=
  ∀ (measure : Nat) (rest : List Char),
    2 * (json.indentedChars level).length < measure →
    json.Closes rest →
    readValue measure (json.indentedChars level ++ rest) = (fragment, rest)

/-! ## White space -/

theorem skipSpace_newLine (level : Nat) (chars : List Char) :
    skipSpace (Json.newLine level ++ chars) = skipSpace chars := by
  unfold skipSpace
  refine List.dropWhile_append_of_pos fun char listed => ?_
  rcases List.mem_cons.mp listed with rfl | inside
  · rfl
  · rw [List.eq_of_mem_replicate inside]
    rfl

theorem skipSpace_of_visible {char : Char} (visible : isSpace char = false)
    (rest : List Char) : skipSpace (char :: rest) = char :: rest := by
  simp [skipSpace, visible]

theorem readValue_blank (measure : Nat) (chars : List Char) :
    readValue (measure + 1) (' ' :: chars) = readValue (measure + 1) chars := by
  have skipped : skipSpace (' ' :: chars) = skipSpace chars := rfl
  rw [readValue, readValue, skipped]

/-! ## Scalars -/

theorem readsAs_null (level : Nat) : ReadsAs level .null .null := by
  intro measure rest enough _
  obtain ⟨measure, rfl⟩ := Nat.exists_eq_add_of_lt enough
  rfl

theorem readValue_numeral {first : Char}
    (numeric : (first == '-' || first.isDigit) = true) (measure : Nat)
    (rest : List Char) :
    readValue (measure + 1) (first :: rest) = numeral (first :: rest) := by
  have apart (other : Char)
      (foreign : (other == '-' || other.isDigit) = false) : first ≠ other := by
    rintro rfl
    exact Bool.false_ne_true (foreign.symm.trans numeric)
  have visible : isSpace first = false := by
    simp [isSpace, apart ' ' rfl, apart '\n' rfl, apart '\t' rfl,
      apart '\r' rfl]
  rw [readValue, skipSpace_of_visible visible]
  split
  · next empty => cases empty
  · next starts => exact absurd (List.cons.inj starts).1 (apart 'n' rfl)
  · next starts => exact absurd (List.cons.inj starts).1 (apart 't' rfl)
  · next starts => exact absurd (List.cons.inj starts).1 (apart 'f' rfl)
  · next starts => exact absurd (List.cons.inj starts).1 (apart '"' rfl)
  · next starts => exact absurd (List.cons.inj starts).1 (apart '[' rfl)
  · next starts => exact absurd (List.cons.inj starts).1 (apart '{' rfl)
  · next starts =>
      cases starts
      rw [if_pos numeric]

theorem readsAs_int (level : Nat) (value : Int) :
    ReadsAs level (.int value) (.number (.ofInt value)) := by
  intro measure rest enough stops
  obtain ⟨measure, rfl⟩ := Nat.exists_eq_add_of_lt enough
  have scanned := Numeral.scan_intChars stops value
  have starts : ∃ first others, Json.intChars value = first :: others ∧
      (first == '-' || first.isDigit) = true := by
    cases value with
    | ofNat value =>
        obtain ⟨first, others, spelled, digit⟩ := Json.natChars_eq_cons value
        exact ⟨first, others, spelled, by simp [digit]⟩
    | negSucc value => exact ⟨'-', _, rfl, rfl⟩
  obtain ⟨first, others, spelled, numeric⟩ := starts
  show readValue _ (Json.intChars value ++ rest) = _
  rw [spelled, List.cons_append] at scanned ⊢
  rw [readValue_numeral numeric, numeral, scanned]

/-! ## Objects -/

theorem readMember_indented {level measure : Nat} {key : String}
    {value : Json} {fragment : Fragment} (reads : ReadsAs level value fragment)
    {rest : List Char}
    (enough : 2 * (value.indentedChars level).length < measure)
    (closes : value.Closes rest) :
    readMember (measure + 1) (Json.newLine level ++ (Quoted.spell key ++
        ':' :: ' ' :: (value.indentedChars level ++ rest))) =
      (readMoreMembers measure rest).cons (.ofText key, fragment) := by
  obtain ⟨below, rfl⟩ := Nat.exists_eq_add_of_lt enough
  have keyScanned := Quoted.scan_spelled key
    (':' :: ' ' :: (value.indentedChars level ++ rest))
  have valueRead := reads _ rest enough closes
  rw [readMember, skipSpace_newLine, Quoted.spell, List.cons_append,
    skipSpace_of_visible rfl]
  simp only [List.append_assoc, List.cons_append, List.nil_append, keyScanned,
    @skipSpace_of_visible ':' rfl, readValue_blank, valueRead]

theorem readMembers_spell (measure level : Nat) (key : String)
    (after : List Char) :
    readMembers (measure + 2)
        (Json.newLine level ++ (Quoted.spell key ++ after)) =
      readMember (measure + 1)
        (Json.newLine level ++ (Quoted.spell key ++ after)) := by
  have sameMember (chars : List Char) :
      readMember (measure + 1) (Json.newLine level ++ chars) =
        readMember (measure + 1) chars := by
    rw [readMember, readMember, skipSpace_newLine]
  rw [sameMember, readMembers, skipSpace_newLine, Quoted.spell,
    List.cons_append, skipSpace_of_visible rfl]
  rfl

/-- What follows a member cannot continue a number. -/
theorem closes_indentedMembers (level outer : Nat)
    (members : List (String × Json)) (value : Json) (rest : List Char) :
    value.Closes (Json.indentedMembers level members ++
      (Json.newLine outer ++ rest)) := by
  cases value with
  | number number =>
      intro next first
      cases members with
      | nil =>
          obtain rfl : '\n' = next := Option.some.inj first
          decide
      | cons member others =>
          obtain rfl : ',' = next := Option.some.inj first
          decide
  | _ => trivial

variable {level : Nat} {members : List (String × Json)}
  {parts : List (Quoted × Fragment)}

def MembersReadAs (level : Nat) (members : List (String × Json))
    (parts : List (Quoted × Fragment)) : Prop :=
  List.Forall₂ (fun member part =>
    part.1 = .ofText member.1 ∧ ReadsAs level member.2 part.2) members parts

theorem readMoreMembers_indented (reads : MembersReadAs level members parts)
    (outer : Nat) {measure : Nat} (rest : List Char)
    (enough : 2 * (Json.indentedMembers level members).length < measure) :
    readMoreMembers measure (Json.indentedMembers level members ++
        (Json.newLine outer ++ '}' :: rest)) =
      ⟨parts, none, rest⟩ := by
  induction reads generalizing measure with
  | nil =>
      obtain ⟨measure, rfl⟩ := Nat.exists_eq_add_of_lt enough
      rw [Json.indentedMembers, List.nil_append, readMoreMembers,
        skipSpace_newLine, skipSpace_of_visible rfl]
      rfl
  | @cons member part others otherParts own reads inductionHypothesis =>
      obtain ⟨key, value⟩ := member
      obtain ⟨quoted, fragment⟩ := part
      obtain ⟨rfl, ownReads⟩ := own
      replace ownReads : ReadsAs level value fragment := ownReads
      rw [Json.indentedMembers] at enough ⊢
      simp only [List.length_cons, List.length_append] at enough
      match measure with
      | 0 => omega
      | 1 => omega
      | measure + 2 =>
          have othersRead := inductionHypothesis
            (by omega :
              2 * (Json.indentedMembers level others).length < measure)
          rw [readMoreMembers]
          simp only [List.cons_append, @skipSpace_of_visible ',' rfl,
            List.append_assoc]
          rw [readMember_indented ownReads (by omega)
            (closes_indentedMembers level outer others value ('}' :: rest)),
            othersRead]
          rfl

/-- An object is read in full, whatever follows it. -/
theorem readsAs_object (reads : MembersReadAs (level + 1) members parts) :
    ReadsAs level (.object members) (.object parts none) := by
  intro measure rest enough _
  cases reads with
  | nil =>
      match measure with
      | 0 => omega
      | 1 => contradiction
      | measure + 2 => rfl
  | @cons member part others otherParts own reads =>
      obtain ⟨key, value⟩ := member
      obtain ⟨quoted, fragment⟩ := part
      obtain ⟨rfl, ownReads⟩ := own
      replace ownReads : ReadsAs (level + 1) value fragment := ownReads
      rw [Json.indentedChars] at enough ⊢
      simp only [List.length_cons, List.length_append] at enough
      match measure with
      | 0 => omega
      | 1 => omega
      | 2 => omega
      | measure + 3 =>
          have othersRead := readMoreMembers_indented reads level rest
            (by omega : 2 * (Json.indentedMembers (level + 1) others).length <
              measure)
          rw [readValue, List.cons_append, skipSpace_of_visible rfl]
          simp only [List.append_assoc, List.cons_append, List.nil_append]
          rw [readMembers_spell, readMember_indented ownReads (by omega)
            (closes_indentedMembers (level + 1) level others value
              ('}' :: rest)), othersRead]
          rfl

end Fragment

end Stagecraft
