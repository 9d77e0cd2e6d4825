import Stagecraft.Content.Reader

/-!
# Careful readers

A reader is careful if it accepts nothing that could not be read in full. Records
of careful fields are careful, since they look at every member, and pass over
those that are no field.
-/

namespace Stagecraft

namespace Quoted

/-- A body whose quote is faulty spells no text. -/
theorem decode_of_fault (fault : Fault) (body : List Char) :
    ∃ other, decode (some fault) body = .error other := by
  have continued (char : Char) {rest : Except Fault (List Char)}
      (refused : ∃ other, rest = .error other) :
      ∃ other, rest.map (char :: ·) = .error other := by
    obtain ⟨other, rfl⟩ := refused
    exact ⟨other, rfl⟩
  generalize ending : some fault = quoteFault
  fun_induction decode quoteFault body with
  | case1 closed => cases ending.trans closed
  | case6 | case11 | case13 | case14 => exact continued _ (by assumption)
  | _ => exact ⟨_, rfl⟩

theorem fault_of_text {quoted : Quoted} {text : String}
    (read : quoted.text = .ok text) : quoted.fault = none := by
  cases closed : quoted.fault with
  | none => rfl
  | some fault =>
      obtain ⟨other, refused⟩ := decode_of_fault fault quoted.body
      rw [Quoted.text, closed, refused] at read
      cases read

end Quoted

namespace Reader

variable {α : Type} {reader : Reader α}

/-- Whether a reader accepts only what was read without any fault. -/
def Careful (reader : Reader α) : Prop :=
  ∀ {fragment : Fragment} {value : α}, reader fragment = .ok value →
    fragment.skip = .ok ()

theorem careful_number : Careful number := by
  intro fragment value read
  cases fragment with
  | number => rfl
  | _ => cases read

theorem careful_integer (low high : Int) : Careful (integer low high) := by
  intro fragment value read
  rw [integer] at read
  split at read
  · next found => exact careful_number found
  · cases read
  · cases read

theorem careful_map {β : Type} (careful : Careful reader) (make : α → β) :
    Careful fun fragment => (reader fragment).map make := by
  intro fragment value read
  change (reader fragment).map make = .ok value at read
  cases own : reader fragment with
  | error => rw [own] at read; cases read
  | ok => exact careful own

theorem careful_word32 : Careful word32 :=
  careful_map (careful_integer _ _) _

theorem careful_signed32 : Careful signed32 :=
  careful_map (careful_integer _ _) _

theorem careful_nullable (careful : Careful reader) :
    Careful (nullable reader) := by
  intro fragment value read
  unfold nullable at read
  split at read
  · rfl
  · exact careful_map careful some read

theorem careful_part (careful : Careful reader) (step : Step) :
    Careful (part step reader) := by
  intro fragment value read
  unfold part at read
  split at read
  · next own => exact careful own
  · cases read

end Reader

namespace Record

variable {α β : Type}

/-- Whether the fields of a record accept only what was read without any
fault. -/
def Careful (record : Record α) : Prop :=
  ∀ {name : String} {step : Step} {fragment : Fragment}
    {draft next : record.Draft},
    record.put name step fragment draft = some (.ok next) →
      fragment.skip = .ok ()

theorem careful_ofField {reader : Reader α} (careful : reader.Careful)
    (name : String) (missing : Option α) :
    (ofField name missing reader).Careful := by
  intro other step fragment draft next taken
  simp only [ofField] at taken
  split at taken
  · cases draft with
    | some => cases taken
    | none =>
        exact Reader.careful_map (Reader.careful_part careful step) some
          (Option.some.inj taken)
  · cases taken

theorem careful_both {left : Record α} {right : Record β}
    (first : left.Careful) (second : right.Careful) :
    (both left right).Careful := by
  intro name step fragment draft next taken
  simp only [both] at taken
  split at taken
  · next own => exact first own
  · cases taken
  · split at taken
    · next own => exact second own
    · cases taken
    · cases taken

theorem careful_map {record : Record α} (careful : record.Careful)
    (make : α → β) : (map make record).Careful :=
  careful

variable {record : Record α}

theorem skipMembers_of_members (careful : record.Careful)
    {ending : Option Fault} {parts : List (Quoted × Fragment)}
    {draft last : record.Draft}
    (taken : record.members ending draft parts = .ok last) :
    Fragment.skipMembers ending parts = .ok () := by
  induction parts generalizing draft with
  | nil =>
      cases ending with
      | none => rfl
      | some => cases taken
  | cons part rest inductionHypothesis =>
      obtain ⟨key, value⟩ := part
      rw [members] at taken
      cases named : key.text with
      | error => rw [named] at taken; cases taken
      | ok name =>
          rw [named] at taken
          simp only [Reader.readable, bind, Except.bind] at taken
          rw [Fragment.skipMembers, Quoted.fault_of_text named]
          show (value.skip >>= fun _ => Fragment.skipMembers ending rest) = _
          split at taken
          · next own =>
              rw [careful own]
              exact inductionHypothesis taken
          · cases taken
          · cases own : value.skip with
            | error => rw [own] at taken; cases taken
            | ok =>
                rw [own] at taken
                exact inductionHypothesis taken

theorem skipItems_of_items (careful : record.Careful)
    {ending : Option Fault} {position : Nat} {names : List String}
    {parts : List Fragment} {draft last : record.Draft}
    (taken : record.items ending position draft names parts = .ok last) :
    Fragment.skipItems ending parts = .ok () := by
  fun_induction Record.items record ending position draft names parts with
  | case1 position draft parts =>
      cases parts with
      | cons => cases taken
      | nil =>
          cases ending with
          | none => rfl
          | some => cases taken
  | case2 =>
      cases ending with
      | none => rfl
      | some => cases taken
  | case3 position draft name names item rest next own inductionHypothesis =>
      rw [Fragment.skipItems, careful own]
      exact inductionHypothesis taken
  | case4 => cases taken
  | case5 => cases taken

theorem careful_reader (careful : record.Careful) : record.reader.Careful := by
  intro fragment value read
  unfold Record.reader at read
  split at read
  · next parts fault =>
      cases taken : record.members fault record.blank parts with
      | error => rw [taken] at read; cases read
      | ok => exact skipMembers_of_members careful taken
  · next parts fault =>
      cases taken :
          record.items fault 0 record.blank record.names parts with
      | error => rw [taken] at read; cases read
      | ok => exact skipItems_of_items careful taken
  · cases read

end Record

end Stagecraft
