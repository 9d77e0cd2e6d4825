import Mathlib.Data.List.TakeWhile
import Stagecraft.Json.Printer

/-!
# Whole numbers in JSON texts

The digits of a whole number are scanned as a numeral that stands for it, as long
as what follows them cannot continue a numeral.
-/

namespace Stagecraft

/-! ## Digits -/

namespace Json

theorem digitsValue_natChars (value : Nat) :
    Text.digitsValue (natChars value) = value := by
  have sameFold : Text.digitsValue (natChars value) =
      Nat.ofDigitChars 10 (natChars value) 0 := by
    rw [Nat.ofDigitChars_eq_foldl]
    simp only [Text.digitsValue, Nat.mul_comm]
  exact sameFold.trans Nat.ofDigitChars_ten_toDigits

theorem isDigit_of_mem_natChars {value : Nat} {char : Char}
    (listed : char ∈ natChars value) : char.isDigit = true :=
  Nat.isDigit_of_mem_toDigits (by decide) (by decide) listed

theorem natChars_eq_cons (value : Nat) :
    ∃ first rest, natChars value = first :: rest ∧ first.isDigit = true := by
  obtain ⟨first, rest, spelled⟩ :=
    List.exists_cons_of_ne_nil (Nat.toDigits_ne_nil (n := value) (b := 10))
  have listed : first ∈ natChars value := by
    rw [natChars, spelled]
    exact List.mem_cons_self
  exact ⟨first, rest, spelled, isDigit_of_mem_natChars listed⟩

/-- Only zero is spelled with a leading zero. -/
theorem head_natChars {value : Nat} {rest : List Char}
    (spelled : natChars value = '0' :: rest) : value = 0 := by
  induction value using Nat.strong_induction_on generalizing rest with
  | _ value inductionHypothesis =>
      unfold natChars at spelled
      by_cases small : value < 10
      · rw [Nat.toDigits_of_lt_base small] at spelled
        exact Nat.digitChar_eq_zero.mp (List.cons.inj spelled).1
      · rw [Nat.toDigits_of_base_le (by decide) (by omega)] at spelled
        obtain ⟨first, others, leading, _⟩ := natChars_eq_cons (value / 10)
        have zeroFirst : first = '0' := by
          have cut := spelled
          rw [show Nat.toDigits 10 (value / 10) = first :: others from
            leading] at cut
          exact (List.cons.inj cut).1
        have zeroQuotient : value / 10 = 0 :=
          inductionHypothesis (value / 10) (by omega)
            (leading.trans (by rw [zeroFirst]))
        omega

end Json

/-! ## Numerals -/

namespace Numeral

/-- Whether a text cannot continue a numeral that stands before it. -/
def Stops (rest : List Char) : Prop :=
  ∀ next ∈ rest.head?, next.isDigit = false ∧ next ≠ '.' ∧ next ≠ 'e' ∧
    next ≠ 'E'

def ofInt : Int → Numeral
  | .ofNat value => ⟨false, Json.natChars value, none, none⟩
  | .negSucc value => ⟨true, Json.natChars (value + 1), none, none⟩

section Scanning

variable {rest : List Char} (stops : Stops rest)

include stops

theorem scanDigits_append {digits : List Char} (nonempty : digits ≠ [])
    (all : ∀ digit ∈ digits, digit.isDigit = true) :
    scanDigits (digits ++ rest) = .ok (digits, rest) := by
  have noMore : rest.takeWhile Char.isDigit = [] ∧
      rest.dropWhile Char.isDigit = rest := by
    cases rest with
    | nil => exact ⟨rfl, rfl⟩
    | cons next after =>
        have notDigit := (stops next rfl).1
        simp [notDigit]
  obtain ⟨first, others, rfl⟩ := List.exists_cons_of_ne_nil nonempty
  have firstDigit := all first List.mem_cons_self
  have taken : (first :: (others ++ rest)).takeWhile Char.isDigit =
      first :: others ++ rest.takeWhile Char.isDigit :=
    List.takeWhile_append_of_pos all
  have dropped : (first :: (others ++ rest)).dropWhile Char.isDigit =
      rest.dropWhile Char.isDigit :=
    List.dropWhile_append_of_pos all
  rw [noMore.1, List.append_nil] at taken
  rw [noMore.2] at dropped
  rw [List.cons_append]
  simp only [scanDigits, firstDigit, if_true, taken, dropped]

theorem scanWhole_natChars (value : Nat) :
    scanWhole (Json.natChars value ++ rest) =
      .ok (Json.natChars value, rest) := by
  obtain ⟨first, others, spelled, firstDigit⟩ := Json.natChars_eq_cons value
  by_cases zero : first = '0'
  · have isZero : value = 0 := Json.head_natChars (zero ▸ spelled)
    subst isZero
    have alone : Json.natChars 0 = ['0'] := Nat.toDigits_zero 10
    cases rest with
    | nil => rw [alone]; rfl
    | cons next after =>
        have notDigit := (stops next rfl).1
        rw [alone]
        simp [scanWhole, notDigit]
  · have scanned := scanDigits_append stops
      (spelled ▸ List.cons_ne_nil first others)
      fun digit listed => Json.isDigit_of_mem_natChars listed
    rw [scanWhole]
    · exact scanned
    · intro after starts
      rw [spelled, List.cons_append] at starts
      exact zero (List.cons.inj starts).1

theorem scanFraction_of_stops : scanFraction rest = .ok (none, rest) := by
  cases rest with
  | nil => rfl
  | cons next after =>
      have noPoint := (stops next rfl).2.1
      rw [scanFraction]
      intro digits starts
      exact noPoint (List.cons.inj starts).1

theorem scanExponent_of_stops : scanExponent rest = .ok (none, rest) := by
  cases rest with
  | nil => rfl
  | cons next after =>
      obtain ⟨-, -, notSmall, notLarge⟩ := stops next rfl
      rw [scanExponent.eq_def]
      simp [notSmall, notLarge]

/-- A whole number is scanned up to its last digit. -/
theorem scan_intChars (value : Int) :
    scan (Json.intChars value ++ rest) = .ok (ofInt value, rest) := by
  cases value with
  | ofNat value =>
      obtain ⟨first, others, spelled, firstDigit⟩ := Json.natChars_eq_cons value
      have unsigned := scanWhole_natChars stops value
      have noSign : first ≠ '-' := by
        rintro rfl
        cases firstDigit
      simp only [Json.intChars]
      rw [scan]
      · simp only [bind, Except.bind, unsigned, scanFraction_of_stops stops,
          scanExponent_of_stops stops]
        rfl
      · intro after starts
        rw [spelled, List.cons_append] at starts
        exact noSign (List.cons.inj starts).1
  | negSucc value =>
      have unsigned := scanWhole_natChars stops (value + 1)
      simp only [Json.intChars, List.cons_append, scan, bind, Except.bind,
        unsigned, scanFraction_of_stops stops, scanExponent_of_stops stops]
      rfl

end Scanning

/-- The numeral of a whole number of 64 bits stands for it. -/
theorem value_ofInt {value : Int} (low : -(signedLimit : Int) ≤ value)
    (high : value ≤ (wordLimit : Int)) :
    (ofInt value).value = some (.integer value) := by
  cases value with
  | ofNat value =>
      have fits : value ≤ wordLimit := by
        have asNat : ((value : Nat) : Int) ≤ (wordLimit : Int) := high
        omega
      simp [ofInt, Numeral.value, Json.digitsValue_natChars, fits]
  | negSucc value =>
      have fits : value + 1 ≤ signedLimit := by
        rw [Int.negSucc_eq] at low
        omega
      simp [ofInt, Numeral.value, Json.digitsValue_natChars, fits,
        Int.negSucc_eq]

end Numeral

end Stagecraft
