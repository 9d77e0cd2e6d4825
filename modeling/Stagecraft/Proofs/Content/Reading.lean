import Stagecraft.Content.Reader
import Stagecraft.Proofs.Json.Numerals

/-!
# Reading fragments

What readers make of whole numbers and of the members of a record. A member goes
to the first field of its name; the fields before it pass it on.
-/

namespace Stagecraft

/-! ## Numbers -/

namespace Reader

variable {value : Int}

theorem integer_ofInt {low high : Int} (aboveLow : low ≤ value)
    (belowHigh : value ≤ high) (low64 : -(Numeral.signedLimit : Int) ≤ value)
    (high64 : value ≤ (Numeral.wordLimit : Int)) :
    integer low high (.number (.ofInt value)) = .ok value := by
  simp only [integer, number, Numeral.value_ofInt low64 high64,
    if_pos (And.intro aboveLow belowHigh)]

theorem word32_ofInt (word : UInt32) :
    word32 (.number (.ofInt word.toNat)) = .ok word := by
  have bound := word.toNat_lt
  have read : integer 0 4294967295 (.number (.ofInt word.toNat)) =
      .ok (word.toNat : Int) :=
    integer_ofInt (by omega) (by omega)
      (by simp only [Numeral.signedLimit]; omega)
      (by simp only [Numeral.wordLimit, UInt64.size]; omega)
  simp [word32, read, Except.map]

theorem signed32_ofInt (word : Int32) :
    signed32 (.number (.ofInt word.toInt)) = .ok word := by
  have low := word.le_toInt
  have high := word.toInt_lt
  have read : integer (-2147483648) 2147483647
      (.number (.ofInt word.toInt)) = .ok word.toInt :=
    integer_ofInt (by omega) (by omega)
      (by simp only [Numeral.signedLimit, UInt64.size]; omega)
      (by simp only [Numeral.wordLimit, UInt64.size]; omega)
  simp [signed32, read, Except.map]

end Reader

/-! ## Records -/

namespace Record

variable {α β : Type} {name other : String} {step : Step}
  {fragment : Fragment}

theorem put_ofField {missing : Option α} {reader : Reader α} {value : α}
    (read : reader fragment = .ok value) :
    (ofField name missing reader).put name step fragment none =
      some (.ok (some value)) := by
  simp only [ofField, beq_self_eq_true, if_true, Reader.part, read]
  rfl

theorem put_ofField_of_ne {missing : Option α} {reader : Reader α}
    (apart : other ≠ name) (draft : Option α) :
    (ofField name missing reader).put other step fragment draft = none :=
  if_neg fun same => apart (eq_of_beq same)

section Both

variable {left : Record α} {right : Record β}
  {draft : left.Draft × right.Draft}

theorem put_both_left {next : left.Draft}
    (taken : left.put name step fragment draft.1 = some (.ok next)) :
    (both left right).put name step fragment draft =
      some (.ok (next, draft.2)) := by
  simp only [both, taken]

theorem put_both_right {next : right.Draft}
    (passed : left.put name step fragment draft.1 = none)
    (taken : right.put name step fragment draft.2 = some (.ok next)) :
    (both left right).put name step fragment draft =
      some (.ok (draft.1, next)) := by
  simp only [both, passed, taken]

end Both

section Members

variable {record : Record α} {draft next : record.Draft}

theorem members_cons_of_put {key : Quoted} {ending : Option Fault}
    {rest : List (Quoted × Fragment)} (named : key.text = .ok name)
    (taken : record.put name (.field name) fragment draft =
      some (.ok next)) :
    record.members ending draft ((key, fragment) :: rest) =
      record.members ending next rest := by
  rw [members, named]
  simp only [Reader.readable, bind, Except.bind, taken]

theorem reader_object {parts : List (Quoted × Fragment)} {value : α}
    (taken : record.members none record.blank parts = .ok draft)
    (whole : record.finish draft = some value) :
    record.reader (.object parts none) = .ok value := by
  simp only [Record.reader, taken, bind, Except.bind, close, whole]

end Members

end Record

end Stagecraft
