import Stagecraft.Json.Quoted

/-!
# Numbers and quoted texts that go on

A quoted text that was closed is read again when more text follows. So is a
number, if it does not end the text: then nothing behind it could belong to it.
-/

namespace Stagecraft

/-! ## Numerals -/

namespace Numeral

variable {chars digits rest : List Char}

theorem scanDigits_extend (scanned : scanDigits chars = .ok (digits, rest))
    (left : rest ≠ []) (more : List Char) :
    scanDigits (chars ++ more) = .ok (digits, rest ++ more) := by
  cases chars with
  | nil => cases scanned
  | cons first others =>
      simp only [scanDigits, List.cons_append] at scanned ⊢
      split at scanned
      · next digit =>
          cases scanned
          have split := congrArg List.length (List.takeWhile_append_dropWhile
            (p := Char.isDigit) (l := first :: others))
          have some := List.length_pos_iff.mpr left
          rw [List.length_append] at split
          rw [if_pos digit, ← List.cons_append, List.takeWhile_append,
            if_neg (by omega), List.dropWhile_append,
            if_neg (by simpa using left)]
      · cases scanned

theorem scanWhole_extend (scanned : scanWhole chars = .ok (digits, rest))
    (left : rest ≠ []) (more : List Char) :
    scanWhole (chars ++ more) = .ok (digits, rest ++ more) := by
  unfold scanWhole at scanned
  split at scanned
  · next others =>
      split at scanned
      · next next following =>
          split at scanned
          · cases scanned
          · next noDigit =>
              cases scanned
              simp [scanWhole, noDigit]
      · cases scanned
        exact absurd rfl left
  · next notZero =>
      cases chars with
      | nil => cases scanned
      | cons first others =>
          have apart : first ≠ '0' := by
            rintro rfl
            exact notZero _ rfl
          have extended := scanDigits_extend scanned left more
          rw [List.cons_append] at extended ⊢
          simpa [scanWhole, apart] using extended

theorem scanFraction_extend {fraction : Option (List Char)}
    (scanned : scanFraction chars = .ok (fraction, rest))
    (left : rest ≠ []) (more : List Char) :
    scanFraction (chars ++ more) = .ok (fraction, rest ++ more) := by
  unfold scanFraction at scanned
  split at scanned
  · next others =>
      cases read : scanDigits others with
      | error fault => simp [read, Except.map] at scanned
      | ok pair =>
          obtain ⟨digits, after⟩ := pair
          rw [read] at scanned
          cases scanned
          simp [scanFraction, scanDigits_extend read left more, Except.map]
  · next noPoint =>
      cases scanned
      cases chars with
      | nil => exact absurd rfl left
      | cons first others =>
          have apart : first ≠ '.' := by
            rintro rfl
            exact noPoint _ rfl
          simp [scanFraction, apart]

def scanPower (negative : Bool) (chars : List Char) :
    Except Fault (Option (Bool × List Char) × List Char) :=
  (scanDigits chars).map fun (digits, after) =>
    (some (negative, digits), after)

theorem scanPower_extend {negative : Bool}
    {exponent : Option (Bool × List Char)}
    (scanned : scanPower negative chars = .ok (exponent, rest))
    (left : rest ≠ []) (more : List Char) :
    scanPower negative (chars ++ more) = .ok (exponent, rest ++ more) := by
  cases read : scanDigits chars with
  | error fault => simp [scanPower, read, Except.map] at scanned
  | ok pair =>
      obtain ⟨digits, after⟩ := pair
      rw [scanPower, read] at scanned
      cases scanned
      rw [scanPower, scanDigits_extend read left more]
      rfl

theorem scanExponent_unmarked {mark : Char}
    (unmarked : ¬(mark == 'e' || mark == 'E') = true) (others : List Char) :
    scanExponent (mark :: others) = .ok (none, mark :: others) :=
  if_neg unmarked

theorem scanExponent_signed {mark : Char}
    (marked : (mark == 'e' || mark == 'E') = true) (sign : Char)
    (following : List Char) :
    scanExponent (mark :: sign :: following) =
      if sign = '-' then scanPower true following
      else if sign = '+' then scanPower false following
      else scanPower false (sign :: following) := by
  simp only [scanExponent, if_pos marked]
  split
  · next starts =>
      obtain ⟨rfl, rfl⟩ := List.cons.inj starts
      rfl
  · next starts =>
      obtain ⟨rfl, rfl⟩ := List.cons.inj starts
      rfl
  · next noMinus noPlus =>
      have minus : sign ≠ '-' := fun same => noMinus _ (by rw [same])
      have plus : sign ≠ '+' := fun same => noPlus _ (by rw [same])
      rw [if_neg minus, if_neg plus]
      rfl

theorem scanExponent_extend {exponent : Option (Bool × List Char)}
    (scanned : scanExponent chars = .ok (exponent, rest))
    (left : rest ≠ []) (more : List Char) :
    scanExponent (chars ++ more) = .ok (exponent, rest ++ more) := by
  cases chars with
  | nil =>
      cases scanned
      exact absurd rfl left
  | cons mark others =>
      by_cases marked : (mark == 'e' || mark == 'E') = true
      · cases others with
        | nil =>
            simp only [scanExponent, if_pos marked] at scanned
            cases scanned
        | cons sign following =>
            rw [List.cons_append, List.cons_append, scanExponent_signed marked]
            rw [scanExponent_signed marked] at scanned
            split at scanned
            · next minus =>
                rw [if_pos minus]
                exact scanPower_extend scanned left more
            · next minus =>
                rw [if_neg minus]
                split at scanned
                · next plus =>
                    rw [if_pos plus]
                    exact scanPower_extend scanned left more
                · next plus =>
                    rw [if_neg plus, ← List.cons_append]
                    exact scanPower_extend scanned left more
      · rw [scanExponent_unmarked marked] at scanned
        cases scanned
        exact scanExponent_unmarked marked (others ++ more)

theorem ne_nil_of_scanExponent {exponent : Option (Bool × List Char)}
    (scanned : scanExponent chars = .ok (exponent, rest)) (left : rest ≠ []) :
    chars ≠ [] := by
  rintro rfl
  cases scanned
  exact left rfl

theorem ne_nil_of_scanFraction {fraction : Option (List Char)}
    (scanned : scanFraction chars = .ok (fraction, rest)) (left : rest ≠ []) :
    chars ≠ [] := by
  rintro rfl
  cases scanned
  exact left rfl

def scanUnsigned (negative : Bool) (chars : List Char) :
    Except Fault (Numeral × List Char) := do
  let (whole, afterWhole) ← scanWhole chars
  let (fraction, afterFraction) ← scanFraction afterWhole
  let (exponent, rest) ← scanExponent afterFraction
  return (⟨negative, whole, fraction, exponent⟩, rest)

theorem scan_cons (first : Char) (others : List Char) :
    scan (first :: others) =
      if first = '-' then scanUnsigned true others
      else scanUnsigned false (first :: others) := by
  unfold scan
  split
  · next starts =>
      split at starts
      · next minus =>
          obtain ⟨rfl, rfl⟩ := List.cons.inj minus
          cases starts
          rfl
      · next noMinus =>
          have minus : first ≠ '-' := fun same => noMinus _ (by rw [same])
          cases starts
          rw [if_neg minus]
          rfl

theorem scanUnsigned_extend {negative : Bool} {numeral : Numeral}
    (scanned : scanUnsigned negative chars = .ok (numeral, rest))
    (left : rest ≠ []) (more : List Char) :
    scanUnsigned negative (chars ++ more) = .ok (numeral, rest ++ more) := by
  simp only [scanUnsigned, bind, Except.bind] at scanned ⊢
  split at scanned
  · cases scanned
  next afterWhole wholeRead =>
  split at scanned
  · cases scanned
  next afterFraction fractionRead =>
  split at scanned
  · cases scanned
  next after exponentRead =>
  cases scanned
  have someFraction := ne_nil_of_scanExponent exponentRead left
  have someWhole := ne_nil_of_scanFraction fractionRead someFraction
  simp only [scanWhole_extend wholeRead someWhole more,
    scanFraction_extend fractionRead someFraction more,
    scanExponent_extend exponentRead left more]
  rfl

/-- A numeral that something follows does not depend on the text after it. -/
theorem scan_extend {numeral : Numeral}
    (scanned : scan chars = .ok (numeral, rest)) (left : rest ≠ [])
    (more : List Char) : scan (chars ++ more) = .ok (numeral, rest ++ more) := by
  cases chars with
  | nil => cases scanned
  | cons first others =>
      rw [scan_cons] at scanned
      rw [List.cons_append, scan_cons]
      split at scanned
      · next minus =>
          rw [if_pos minus]
          exact scanUnsigned_extend scanned left more
      · next minus =>
          rw [if_neg minus, ← List.cons_append]
          exact scanUnsigned_extend scanned left more

end Numeral

/-! ## Quoted texts -/

namespace Quoted

theorem scan_extend {chars : List Char} (closed : (scan chars).1.fault = none)
    (more : List Char) :
    scan (chars ++ more) = ((scan chars).1, (scan chars).2 ++ more) := by
  fun_induction scan chars with
  | case1 => cases closed
  | case2 rest => rfl
  | case3 a b c d rest unit found inductionHypothesis =>
      simp only [List.cons_append, scan, found]
      rw [inductionHypothesis closed]
      rfl
  | case4 => cases closed
  | case5 => cases closed
  | case6 letter rest noDigits noUnit char known inductionHypothesis =>
      have apart : letter ≠ 'u' := noUnit
      have continued := inductionHypothesis closed
      simp only [List.cons_append]
      rw [scan]
      · simp only [known, continued]
        rfl
      all_goals simp [apart]
  | case7 => cases closed
  | case8 => cases closed
  | case9 => cases closed
  | case10 char rest noQuote noDigits noUnit noEscape noEnd visible
      inductionHypothesis =>
      have plain : char ≠ '\\' := by
        rintro rfl
        cases rest with
        | nil => exact noEnd rfl rfl
        | cons letter rest => exact noEscape letter rest rfl rfl
      have continued := inductionHypothesis closed
      simp only [List.cons_append]
      rw [scan]
      · simp only [if_neg visible, continued]
        rfl
      · exact noQuote
      all_goals simp [plain]

end Quoted

end Stagecraft
