import Stagecraft.Proofs.Content.Care
import Stagecraft.Proofs.Json.Settled
import Stagecraft.Proofs.Session.SaveText

/-!
# The text of a save delimits itself

The text of a save is a save again, with any text behind it, and no part of it
that breaks off before its end is one. A text that is a save stays that save when
it goes on; the text of a save ends with its last brace, so a shorter text that
is a save would leave that brace unread.
-/

namespace Stagecraft

namespace Save

theorem fault_of_readIndex {key : Quoted} {index : UInt16}
    (read : readIndex key = .ok index) : key.fault = none := by
  unfold readIndex at read
  split at read
  · cases read
  · split at read <;> cases read
  · split at read
    · cases read
    · cases read
    · split at read
      · split at read
        · next whole =>
            simp only [Bool.and_eq_true, Option.isNone_iff_eq_none] at whole
            exact whole.2
        · cases read
      · cases read

theorem skipMembers_of_readVariables {ending : Option Fault}
    {values last : List (UInt16 × Int32)} {parts : List (Quoted × Fragment)}
    (read : readVariables ending values parts = .ok last) :
    Fragment.skipMembers ending parts = .ok () := by
  induction parts generalizing values with
  | nil =>
      cases ending with
      | none => rfl
      | some => cases read
  | cons part rest inductionHypothesis =>
      obtain ⟨key, member⟩ := part
      rw [readVariables] at read
      cases indexed : readIndex key with
      | error => rw [indexed] at read; cases read
      | ok index =>
          rw [indexed] at read
          simp only [bind, Except.bind] at read
          split at read
          · cases read
          · next value own =>
              rw [Fragment.skipMembers, fault_of_readIndex indexed]
              show (member.skip >>= fun _ =>
                Fragment.skipMembers ending rest) = _
              rw [Reader.careful_part Reader.careful_signed32 _ own]
              exact inductionHypothesis read

theorem careful_variablesReader : Reader.Careful variablesReader := by
  intro fragment value read
  cases fragment with
  | object parts fault => exact skipMembers_of_readVariables read
  | _ => cases read

theorem careful_reader : reader.Careful := by
  refine Record.careful_reader (Record.careful_map (Record.careful_both ?_
    (Record.careful_both ?_ ?_)) _)
  · exact Record.careful_ofField Reader.careful_word32 _ _
  · exact Record.careful_ofField
      (Reader.careful_nullable Reader.careful_word32) _ _
  · exact Record.careful_ofField careful_variablesReader _ _


/-! ## Texts that go on -/

theorem settled_of_reader {chars : List Char} {save : Save}
    (read : reader (Fragment.scan chars).1 = .ok save) :
    Fragment.Settled (Fragment.scan chars) := by
  refine ⟨careful_reader read, fun _ numeral same => ?_⟩
  rw [same] at read
  cases read

theorem reader_of_ofText? {text : String} {save : Save}
    (read : ofText? text = .ok save) :
    reader (Fragment.ofText text) = .ok save ∧
      save.version = currentVersion := by
  cases own : reader (Fragment.ofText text) with
  | error refusal =>
      rw [ofText?, own] at read
      cases read
  | ok other =>
      rw [ofText?, own] at read
      simp only [Except.mapError, bind, Except.bind] at read
      split at read
      · next current =>
          cases read
          exact ⟨rfl, current⟩
      · cases read

theorem ofText?_of_refused {text : String} {refusal : Refusal}
    (refused : reader (Fragment.ofText text) = .error refusal) :
    ofText? text = .error (.refused refusal) := by
  rw [ofText?, refused]
  rfl

theorem ofText?_of_otherVersion {text : String} {save : Save}
    (read : reader (Fragment.ofText text) = .ok save)
    (other : save.version ≠ currentVersion) :
    ofText? text = .error (.unsupported save.version) := by
  rw [ofText?, read]
  exact if_neg other

theorem scan_text (save : Save) :
    Fragment.scan save.text.toList = (save.part, []) := by
  have printed : save.text.toList = save.form.indentedChars 0 ++ [] := by
    simp [text, Json.indented]
  have read := readsAs_form save (2 * save.text.toList.length + 1) []
    (by rw [printed, List.length_append]; omega) trivial
  rwa [← printed] at read

/-- A text that is a save stays that save when it goes on. -/
theorem ofText?_append {text : String} {save : Save}
    (read : ofText? text = .ok save) (rest : String) :
    ofText? (text ++ rest) = .ok save := by
  have ⟨own, current⟩ := reader_of_ofText? read
  have whole := Fragment.scan_extend (settled_of_reader own) rest.toList
  rw [ofText?, Fragment.ofText, String.toList_append, whole]
  change ((reader (Fragment.ofText text)).mapError ReadError.refused >>=
    fun save => _) = _
  rw [own]
  exact if_pos current

/-- What a save is cut down to is no save of any version. -/
theorem refused_of_torn {save : Save} {torn rest : String}
    (cut : save.text = torn ++ rest) (remains : rest ≠ "") :
    ∃ refusal, reader (Fragment.ofText torn) = .error refusal := by
  cases read : reader (Fragment.ofText torn) with
  | error refusal => exact ⟨refusal, rfl⟩
  | ok other =>
      have whole := Fragment.scan_extend (settled_of_reader read) rest.toList
      rw [← String.toList_append, ← cut, scan_text, Fragment.extend] at whole
      have unread := (Prod.mk.inj whole).2
      have nothing := (List.append_eq_nil_iff.mp unread.symm).2
      exact absurd (String.toList_eq_nil_iff.mp nothing) remains

/-- The text of a save is read as that save whatever follows it, and no text that
it goes on from is read as any save. -/
theorem text_delimits_itself {save : Save}
    (current : save.version = currentVersion) (ascends : save.Ascends) :
    (∀ rest, ofText? (save.text ++ rest) = .ok save) ∧
      (∀ files after path, save.store files path = (after, true) →
        after.readText path = .ok save.text ∧
          load after path = .ok save) ∧
      (∀ torn rest, save.text = torn ++ rest → rest ≠ "" →
        ∃ refusal, ofText? torn = .error (.refused refusal) ∧
          ∀ (files : Files) path, files.readText path = .ok torn →
            load files path = .error (.refused refusal)) ∧
      (∀ text other, reader (Fragment.ofText text) = .ok other →
        other.version ≠ currentVersion →
          ofText? text = .error (.unsupported other.version)) ∧
      (∀ text other, ofText? text = .ok other →
        other.version = currentVersion) := by
  refine ⟨ofText?_text current ascends, ?written, ?torn, ?versions, ?saves⟩
  case written =>
    intro files after path written
    exact ⟨Files.readText_of_writeAtomic written,
      load_of_store current ascends written⟩
  case torn =>
    intro torn rest cut remains
    obtain ⟨refusal, refused⟩ := refused_of_torn cut remains
    refine ⟨refusal, ofText?_of_refused refused, fun files path text => ?_⟩
    rw [load, text]
    simp only [Except.mapError, bind, Except.bind, ofText?_of_refused refused]
    rfl
  case versions =>
    intro text other read apart
    exact ofText?_of_otherVersion read apart
  case saves =>
    intro text other read
    exact (reader_of_ofText? read).2

instance (save : Save) : Decidable save.Ascends :=
  inferInstanceAs (Decidable ((save.values.map Prod.fst).Pairwise (· < ·)))

theorem text_delimits_itself_pair :
    let save : Save := ⟨currentVersion, some 3, [(2, -1), (10, 4)]⟩
    save.version = currentVersion ∧ save.Ascends ∧
      ∀ rest, ofText? (save.text ++ rest) = .ok save :=
  ⟨rfl, by decide, (text_delimits_itself rfl (by decide)).1⟩

end Save

end Stagecraft
