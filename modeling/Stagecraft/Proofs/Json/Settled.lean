import Mathlib.Data.List.DropRight
import Stagecraft.Proofs.Json.Onward
import Stagecraft.Proofs.Json.Printing

/-!
# Values of texts that go on

A value that was read without any fault is read again when the text goes on, and
what was left of the text is still there with the rest behind it. Only a number
that ends the text may change.
-/

namespace Stagecraft

namespace Fragment

theorem skipSpace_extend {chars : List Char} {first : Char} {rest : List Char}
    (spaced : skipSpace chars = first :: rest) (more : List Char) :
    skipSpace (chars ++ more) = first :: (rest ++ more) := by
  have left : chars.dropWhile isSpace ≠ [] := by
    rw [← skipSpace, spaced]
    exact List.cons_ne_nil _ _
  rw [skipSpace, List.dropWhile_append, if_neg (by simpa using left),
    ← skipSpace, spaced]
  rfl

theorem scanWord_extend {word chars rest : List Char}
    (scanned : scanWord word chars = .ok rest) (more : List Char) :
    scanWord word (chars ++ more) = .ok (rest ++ more) := by
  induction word generalizing chars with
  | nil =>
      cases scanned
      rfl
  | cons letter word inductionHypothesis =>
      cases chars with
      | nil => cases scanned
      | cons char others =>
          rw [scanWord] at scanned
          rw [List.cons_append, scanWord]
          split at scanned
          · next same =>
              rw [if_pos same]
              exact inductionHypothesis scanned
          · cases scanned

def extend (read : Fragment × List Char) (more : List Char) :
    Fragment × List Char :=
  (read.1, read.2 ++ more)

/-- Whether a value was read without any fault and would be read as the same if
the text went on. A number that ends the text might go on as well. -/
def Settled (read : Fragment × List Char) : Prop :=
  read.1.skip = .ok () ∧
    (read.2 = [] → ∀ numeral, read.1 ≠ .number numeral)

/-! ## Scalars -/

theorem keyword_extend {value : Fragment} {word chars : List Char}
    (settled : Settled (keyword value word chars)) (more : List Char) :
    keyword value word (chars ++ more) =
      extend (keyword value word chars) more := by
  obtain ⟨clean, -⟩ := settled
  unfold keyword at clean ⊢
  split at clean
  · next rest scanned =>
      simp only [scanWord_extend scanned more]
      rfl
  · cases clean

theorem numeral_extend {chars : List Char} (settled : Settled (numeral chars))
    (more : List Char) :
    numeral (chars ++ more) = extend (numeral chars) more := by
  obtain ⟨clean, left⟩ := settled
  unfold numeral at clean left ⊢
  split at clean
  · next value rest scanned =>
      simp only [scanned] at left
      have follows : rest ≠ [] := fun ends => left ends value rfl
      simp only [Numeral.scan_extend scanned follows more]
      rfl
  · cases clean
  · cases clean

theorem readValue_skipSpace (measure : Nat) (chars : List Char) :
    readValue (measure + 1) (skipSpace chars) =
      readValue (measure + 1) chars := by
  have again : skipSpace (skipSpace chars) = skipSpace chars :=
    List.dropWhile_idempotent isSpace chars
  rw [readValue, readValue, again]

/-! ## Containers -/

def Contents.extend {α : Type} (contents : Contents α) (more : List Char) :
    Contents α :=
  { contents with rest := contents.rest ++ more }

def Contents.CleanItems (contents : Contents Fragment) : Prop :=
  skipItems contents.fault contents.entries = .ok ()

def Contents.CleanMembers (contents : Contents (Quoted × Fragment)) : Prop :=
  skipMembers contents.fault contents.entries = .ok ()

theorem check_eq_ok {ending : Option Fault} (clean : check ending = .ok ()) :
    ending = none := by
  cases ending with
  | none => rfl
  | some => cases clean

theorem cleanItems_cons {item : Fragment} {contents : Contents Fragment}
    (clean : (contents.cons item).CleanItems) :
    item.skip = .ok () ∧ contents.CleanItems := by
  change (item.skip >>= fun _ =>
    skipItems contents.fault contents.entries) = .ok () at clean
  cases own : item.skip with
  | error => rw [own] at clean; cases clean
  | ok =>
      rw [own] at clean
      exact ⟨rfl, clean⟩

theorem cleanMembers_cons {key : Quoted} {value : Fragment}
    {contents : Contents (Quoted × Fragment)}
    (clean : (contents.cons (key, value)).CleanMembers) :
    key.fault = none ∧ value.skip = .ok () ∧ contents.CleanMembers := by
  change (check key.fault >>= fun _ => value.skip >>= fun _ =>
    skipMembers contents.fault contents.entries) = .ok () at clean
  cases closed : key.fault with
  | some => rw [closed] at clean; cases clean
  | none =>
      rw [closed] at clean
      cases own : value.skip with
      | error => rw [own] at clean; cases clean
      | ok =>
          rw [own] at clean
          exact ⟨rfl, rfl, clean⟩

theorem not_cleanMembers_broken {key : Quoted} {fault : Fault}
    {ending : Option Fault} {rest : List Char} :
    ¬Contents.CleanMembers ⟨[(key, .broken fault)], ending, rest⟩ := by
  intro clean
  cases (@cleanMembers_cons key (.broken fault) ⟨[], ending, rest⟩ clean).2.1

/-- An item that something follows is settled. -/
theorem settled_of_moreItems {measure : Nat} {read : Fragment × List Char}
    (clean : ((readMoreItems measure read.2).cons read.1).CleanItems) :
    Settled read ∧ (readMoreItems measure read.2).CleanItems := by
  have ⟨own, others⟩ := cleanItems_cons clean
  refine ⟨⟨own, fun ends => ?_⟩, others⟩
  rw [ends] at others
  cases measure <;> cases others

/-- The value of a member that something follows is settled. -/
theorem settled_of_moreMembers {measure : Nat} {key : Quoted}
    {read : Fragment × List Char}
    (clean : ((readMoreMembers measure read.2).cons
      (key, read.1)).CleanMembers) :
    key.fault = none ∧ Settled read ∧
      (readMoreMembers measure read.2).CleanMembers := by
  have ⟨closed, own, others⟩ := cleanMembers_cons clean
  refine ⟨closed, ⟨own, fun ends => ?_⟩, others⟩
  rw [ends] at others
  cases measure <;> cases others

/-! ## Reading on -/

/-- Whether what a measure suffices for is read the same by any larger one, and
when the text goes on. -/
structure ReadsOn (measure : Nat) : Prop where
  value {larger : Nat} {chars : List Char} (within : measure ≤ larger)
    (settled : Settled (readValue measure chars)) (more : List Char) :
    readValue larger (chars ++ more) = extend (readValue measure chars) more
  items {larger : Nat} {chars : List Char} (within : measure ≤ larger)
    (clean : (readItems measure chars).CleanItems) (more : List Char) :
    readItems larger (chars ++ more) = (readItems measure chars).extend more
  moreItems {larger : Nat} {chars : List Char} (within : measure ≤ larger)
    (clean : (readMoreItems measure chars).CleanItems) (more : List Char) :
    readMoreItems larger (chars ++ more) =
      (readMoreItems measure chars).extend more
  members {larger : Nat} {chars : List Char} (within : measure ≤ larger)
    (clean : (readMembers measure chars).CleanMembers) (more : List Char) :
    readMembers larger (chars ++ more) =
      (readMembers measure chars).extend more
  member {larger : Nat} {chars : List Char} (within : measure ≤ larger)
    (clean : (readMember measure chars).CleanMembers) (more : List Char) :
    readMember larger (chars ++ more) = (readMember measure chars).extend more
  moreMembers {larger : Nat} {chars : List Char} (within : measure ≤ larger)
    (clean : (readMoreMembers measure chars).CleanMembers)
    (more : List Char) :
    readMoreMembers larger (chars ++ more) =
      (readMoreMembers measure chars).extend more

namespace ReadsOn

variable {measure larger : Nat} {chars : List Char}

theorem value_succ (below : ReadsOn measure) (within : measure ≤ larger)
    (settled : Settled (readValue (measure + 1) chars)) (more : List Char) :
    readValue (larger + 1) (chars ++ more) =
      extend (readValue (measure + 1) chars) more := by
  cases spaced : skipSpace chars with
  | nil =>
      rw [readValue, spaced] at settled
      cases settled.1
  | cons first rest =>
      have spacedMore := skipSpace_extend spaced more
      by_cases numeric : (first == '-' || first.isDigit) = true
      · rw [← readValue_skipSpace, spaced, readValue_numeral numeric] at settled
        rw [← readValue_skipSpace, spacedMore, readValue_numeral numeric,
          ← readValue_skipSpace measure, spaced, readValue_numeral numeric]
        exact numeral_extend settled more
      -- The first character decides what is read, and it is there before the text
      -- goes on.
      rw [readValue, spacedMore]
      rw [readValue, spaced] at settled ⊢
      split at settled
      · next starts => cases starts
      · next starts =>
          obtain ⟨rfl, rfl⟩ := List.cons.inj starts
          exact keyword_extend settled more
      · next starts =>
          obtain ⟨rfl, rfl⟩ := List.cons.inj starts
          exact keyword_extend settled more
      · next starts =>
          obtain ⟨rfl, rfl⟩ := List.cons.inj starts
          exact keyword_extend settled more
      · next starts =>
          obtain ⟨rfl, rfl⟩ := List.cons.inj starts
          have closed : (Quoted.scan rest).1.fault = none :=
            check_eq_ok settled.1
          simp only [Quoted.scan_extend closed more]
          rfl
      · next starts =>
          obtain ⟨rfl, rfl⟩ := List.cons.inj starts
          simp only [below.items within settled.1 more]
          rfl
      · next starts =>
          obtain ⟨rfl, rfl⟩ := List.cons.inj starts
          simp only [below.members within settled.1 more]
          rfl
      · next starts =>
          cases starts
          rw [if_neg numeric] at settled
          cases settled.1

theorem item_extend (below : ReadsOn measure) (within : measure ≤ larger)
    (clean : ((readMoreItems measure (readValue measure chars).2).cons
      (readValue measure chars).1).CleanItems) (more : List Char) :
    (readMoreItems larger (readValue larger (chars ++ more)).2).cons
        (readValue larger (chars ++ more)).1 =
      ((readMoreItems measure (readValue measure chars).2).cons
        (readValue measure chars).1).extend more := by
  have ⟨settled, others⟩ := settled_of_moreItems clean
  rw [below.value within settled more, extend,
    below.moreItems within others more]
  rfl

theorem items_succ (below : ReadsOn measure) (within : measure ≤ larger)
    (clean : (readItems (measure + 1) chars).CleanItems) (more : List Char) :
    readItems (larger + 1) (chars ++ more) =
      (readItems (measure + 1) chars).extend more := by
  cases spaced : skipSpace chars with
  | nil =>
      rw [readItems, spaced] at clean
      cases clean
  | cons first rest =>
      rw [readItems, skipSpace_extend spaced more]
      rw [readItems, spaced] at clean ⊢
      split at clean
      · next starts => cases starts
      · next starts =>
          obtain ⟨rfl, rfl⟩ := List.cons.inj starts
          rfl
      · next notClosing starts =>
          cases starts
          split
          · next starts => cases starts
          · next starts => exact (notClosing (List.cons.inj starts).1).elim
          · next starts =>
              cases starts
              exact item_extend below within clean more

theorem moreItems_succ (below : ReadsOn measure) (within : measure ≤ larger)
    (clean : (readMoreItems (measure + 1) chars).CleanItems)
    (more : List Char) :
    readMoreItems (larger + 1) (chars ++ more) =
      (readMoreItems (measure + 1) chars).extend more := by
  cases spaced : skipSpace chars with
  | nil =>
      rw [readMoreItems, spaced] at clean
      cases clean
  | cons first rest =>
      rw [readMoreItems, skipSpace_extend spaced more]
      rw [readMoreItems, spaced] at clean ⊢
      split at clean
      · next starts => cases starts
      · next starts =>
          obtain ⟨rfl, rfl⟩ := List.cons.inj starts
          rfl
      · next starts =>
          obtain ⟨rfl, rfl⟩ := List.cons.inj starts
          exact item_extend below within clean more
      · cases clean

theorem members_succ (below : ReadsOn measure) (within : measure ≤ larger)
    (clean : (readMembers (measure + 1) chars).CleanMembers)
    (more : List Char) :
    readMembers (larger + 1) (chars ++ more) =
      (readMembers (measure + 1) chars).extend more := by
  cases spaced : skipSpace chars with
  | nil =>
      rw [readMembers, spaced] at clean
      cases clean
  | cons first rest =>
      rw [readMembers, skipSpace_extend spaced more]
      rw [readMembers, spaced] at clean ⊢
      split at clean
      · next starts => cases starts
      · next starts =>
          obtain ⟨rfl, rfl⟩ := List.cons.inj starts
          rfl
      · next notClosing starts =>
          cases starts
          split
          · next starts => cases starts
          · next starts => exact (notClosing (List.cons.inj starts).1).elim
          · next starts =>
              cases starts
              exact below.member within clean more

/-- What is read after the quote that opens a key. -/
def namedMember (measure : Nat) (chars : List Char) :
    Contents (Quoted × Fragment) :=
  match Quoted.scan chars with
  | (key, afterKey) =>
      match skipSpace afterKey with
      | [] => ⟨[(key, .broken .truncated)], some .truncated, []⟩
      | ':' :: afterColon =>
          let (value, after) := readValue measure afterColon
          (readMoreMembers measure after).cons (key, value)
      | _ :: rest => ⟨[(key, .broken .malformed)], some .malformed, rest⟩

theorem namedMember_extend (below : ReadsOn measure)
    (within : measure ≤ larger)
    (clean : (namedMember measure chars).CleanMembers) (more : List Char) :
    namedMember larger (chars ++ more) =
      (namedMember measure chars).extend more := by
  unfold namedMember at clean ⊢
  cases spaced : skipSpace (Quoted.scan chars).2 with
  | nil =>
      simp only [spaced] at clean
      exact (not_cleanMembers_broken clean).elim
  | cons first rest =>
      simp only [spaced] at clean
      split at clean
      · next starts => cases starts
      · next starts =>
          obtain ⟨rfl, rfl⟩ := List.cons.inj starts
          have ⟨closed, settled, others⟩ := settled_of_moreMembers clean
          simp only [Quoted.scan_extend closed more,
            skipSpace_extend spaced more, spaced]
          rw [below.value within settled more, extend,
            below.moreMembers within others more]
          rfl
      · exact (not_cleanMembers_broken clean).elim

theorem member_succ (below : ReadsOn measure) (within : measure ≤ larger)
    (clean : (readMember (measure + 1) chars).CleanMembers)
    (more : List Char) :
    readMember (larger + 1) (chars ++ more) =
      (readMember (measure + 1) chars).extend more := by
  cases spaced : skipSpace chars with
  | nil =>
      rw [readMember, spaced] at clean
      cases clean
  | cons first rest =>
      rw [readMember, skipSpace_extend spaced more]
      rw [readMember, spaced] at clean ⊢
      split at clean
      · next starts => cases starts
      · next starts =>
          obtain ⟨rfl, rfl⟩ := List.cons.inj starts
          exact namedMember_extend below within clean more
      · cases clean

theorem moreMembers_succ (below : ReadsOn measure) (within : measure ≤ larger)
    (clean : (readMoreMembers (measure + 1) chars).CleanMembers)
    (more : List Char) :
    readMoreMembers (larger + 1) (chars ++ more) =
      (readMoreMembers (measure + 1) chars).extend more := by
  cases spaced : skipSpace chars with
  | nil =>
      rw [readMoreMembers, spaced] at clean
      cases clean
  | cons first rest =>
      rw [readMoreMembers, skipSpace_extend spaced more]
      rw [readMoreMembers, spaced] at clean ⊢
      split at clean
      · next starts => cases starts
      · next starts =>
          obtain ⟨rfl, rfl⟩ := List.cons.inj starts
          rfl
      · next starts =>
          obtain ⟨rfl, rfl⟩ := List.cons.inj starts
          exact below.member within clean more
      · cases clean

/-- Reading on holds for every measure. -/
theorem all (measure : Nat) : ReadsOn measure := by
  induction measure with
  | zero =>
      constructor
      · intro _ _ _ settled
        cases settled.1
      all_goals
        intro _ _ _ clean
        cases clean
  | succ measure below =>
      constructor
      all_goals
        intro larger chars within settled more
        obtain ⟨larger, rfl⟩ := Nat.exists_eq_add_of_le' within
        have within : measure ≤ larger + measure := Nat.le_add_left _ _
      · exact value_succ below within settled more
      · exact items_succ below within settled more
      · exact moreItems_succ below within settled more
      · exact members_succ below within settled more
      · exact member_succ below within settled more
      · exact moreMembers_succ below within settled more

end ReadsOn

/-- A settled value is the first value of every text that goes on. -/
theorem scan_extend {chars : List Char} (settled : Settled (scan chars))
    (more : List Char) : scan (chars ++ more) = extend (scan chars) more :=
  (ReadsOn.all _).value (by rw [List.length_append]; omega) settled more

end Fragment

end Stagecraft
