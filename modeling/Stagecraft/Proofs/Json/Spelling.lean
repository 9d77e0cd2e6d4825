import Stagecraft.Json.Quoted

/-!
# Spelled texts

What stands between the quotes of a spelled text is scanned up to its closing
quote and decoded to that text, one character after the other.
-/

namespace Stagecraft.Quoted

def ofText (text : String) : Quoted := ⟨text.toList.flatMap escapeChar, none⟩

/-! ## Control characters -/

def unitOf? : List Char → Option Nat
  | [first, second, third, fourth] => unit? first second third fourth
  | _ => none

theorem unitOf?_hexDigits :
    ∀ unit, unit < 0x20 → unitOf? (hexDigits unit) = some unit := by
  decide

theorem hexDigits_eq {unit : Nat} (control : unit < 0x20) :
    ∃ first second third fourth,
      hexDigits unit = [first, second, third, fourth] ∧
      unit? first second third fourth = some unit := by
  have spelled := unitOf?_hexDigits unit control
  match digits : hexDigits unit with
  | [first, second, third, fourth] =>
      rw [digits] at spelled
      exact ⟨first, second, third, fourth, rfl, spelled⟩
  | [] => simp [digits, unitOf?] at spelled
  | [_] => simp [digits, unitOf?] at spelled
  | [_, _] => simp [digits, unitOf?] at spelled
  | [_, _, _] => simp [digits, unitOf?] at spelled
  | _ :: _ :: _ :: _ :: _ :: _ => simp [digits, unitOf?] at spelled

/-! ## Characters -/

/-- How a character is spelled: by a letter, by its unit or as it is. -/
theorem escapeChar_cases (char : Char) :
    (∃ letter, letter ≠ 'u' ∧ escaped? letter = some char ∧
      escapeChar char = ['\\', letter]) ∨
    (char.toNat < 0x20 ∧ escapeChar char =
      '\\' :: 'u' :: hexDigits char.toNat) ∨
    (0x20 ≤ char.toNat ∧ char ≠ '"' ∧ char ≠ '\\' ∧
      escapeChar char = [char]) := by
  unfold escapeChar
  split
  · exact .inl ⟨'"', by decide, rfl, rfl⟩
  · exact .inl ⟨'\\', by decide, rfl, rfl⟩
  · exact .inl ⟨'n', by decide, rfl, rfl⟩
  · exact .inl ⟨'r', by decide, rfl, rfl⟩
  · exact .inl ⟨'t', by decide, rfl, rfl⟩
  · next notQuote notBackslash _ _ _ =>
      split
      · next isBackspace =>
          have same : char = Char.ofNat 8 := by
            rw [← Char.ofNat_toNat char, eq_of_beq isBackspace]
          exact .inl ⟨'b', by decide, same ▸ rfl, rfl⟩
      · split
        · next isFormFeed =>
            have same : char = Char.ofNat 12 := by
              rw [← Char.ofNat_toNat char, eq_of_beq isFormFeed]
            exact .inl ⟨'f', by decide, same ▸ rfl, rfl⟩
        · split
          · next control => exact .inr (.inl ⟨control, rfl⟩)
          · next printable =>
              exact .inr (.inr
                ⟨by omega, fun same => notQuote same,
                  fun same => notBackslash same, rfl⟩)

theorem escapeChar_of_isDigit {char : Char} (digit : char.isDigit = true) :
    escapeChar char = [char] := by
  have above : 48 ≤ char.toNat := (Char.isDigit_iff_toNat.mp digit).1
  have apart (other : Char) (noDigit : other.isDigit = false) :
      char ≠ other := by
    rintro rfl
    exact Bool.false_ne_true (noDigit.symm.trans digit)
  have noBackspace : (char.toNat == 8) = false := beq_false_of_ne (by omega)
  have noFormFeed : (char.toNat == 12) = false := beq_false_of_ne (by omega)
  have noControl : ¬char.toNat < 0x20 := by omega
  simp [escapeChar, apart '"' rfl, apart '\\' rfl, apart '\n' rfl,
    apart '\r' rfl, apart '\t' rfl, noBackspace, noFormFeed, noControl]

theorem scan_escapeChar (char : Char) (rest : List Char) :
    scan (escapeChar char ++ rest) = prepend (escapeChar char) (scan rest) := by
  obtain ⟨letter, notUnit, known, spelled⟩ | ⟨control, spelled⟩ |
    ⟨printable, notQuote, notBackslash, spelled⟩ := escapeChar_cases char
  · rw [spelled]
    simp [scan, notUnit, known]
  · obtain ⟨a, b, c, d, digits, unit⟩ := hexDigits_eq control
    rw [spelled, digits]
    simp [scan, unit]
  · rw [spelled]
    have visible : ¬char.toNat < 0x20 := by omega
    simp [scan, notBackslash, visible]

theorem decode_escapeChar (ending : Option Fault) (char : Char)
    (rest : List Char) :
    decode ending (escapeChar char ++ rest) =
      (decode ending rest).map (char :: ·) := by
  obtain ⟨letter, notUnit, known, spelled⟩ | ⟨control, spelled⟩ |
    ⟨printable, notQuote, notBackslash, spelled⟩ := escapeChar_cases char
  · rw [spelled]
    simp [decode, notUnit, known]
  · obtain ⟨a, b, c, d, digits, unit⟩ := hexDigits_eq control
    have noTrail : isTrailUnit char.toNat = false := by
      simp [isTrailUnit]
      omega
    have noLead : isLeadUnit char.toNat = false := by
      simp [isLeadUnit]
      omega
    rw [spelled, digits]
    simp [decode, unit, noTrail, noLead, Char.ofNat_toNat]
  · rw [spelled]
    simp [decode, notBackslash]

/-! ## Texts -/

theorem scan_spelled (text : String) (rest : List Char) :
    scan (text.toList.flatMap escapeChar ++ '"' :: rest) =
      (ofText text, rest) := by
  unfold ofText
  induction text.toList with
  | nil => rfl
  | cons char others inductionHypothesis =>
      rw [List.flatMap_cons, List.append_assoc, scan_escapeChar,
        inductionHypothesis]
      rfl

theorem text_ofText (text : String) : (ofText text).text = .ok text := by
  have decoded (chars : List Char) :
      decode none (chars.flatMap escapeChar) = .ok chars := by
    induction chars with
    | nil => rfl
    | cons char others inductionHypothesis =>
        rw [List.flatMap_cons, decode_escapeChar, inductionHypothesis]
        rfl
  simp only [Quoted.text, ofText, decoded]
  exact congrArg Except.ok String.ofList_toList

end Stagecraft.Quoted
