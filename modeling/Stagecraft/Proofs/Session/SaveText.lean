import Stagecraft.Proofs.Content.Reading
import Stagecraft.Proofs.Files.Writing
import Stagecraft.Proofs.Json.Printing
import Stagecraft.Proofs.Session.Restoring
import Stagecraft.Session.Store

/-!
# Saves read again

The text of a save is read as that save, whatever follows it, and so is the file
that a save was written to.
-/

namespace Stagecraft

namespace Save

/-! ## Variables -/

def variablePart (entry : UInt16 × Int32) : Quoted × Fragment :=
  (.ofText (toString entry.1.toNat), .number (.ofInt entry.2.toInt))

theorem body_ofText_natural (value : Nat) :
    (Quoted.ofText (toString value)).body = Json.natChars value := by
  have digits : (toString value).toList = Json.natChars value :=
    Nat.toList_repr
  have unescaped (chars : List Char)
      (all : ∀ char ∈ chars, char.isDigit = true) :
      chars.flatMap Quoted.escapeChar = chars := by
    induction chars with
    | nil => rfl
    | cons char others inductionHypothesis =>
        have digit := all char List.mem_cons_self
        rw [List.flatMap_cons, Quoted.escapeChar_of_isDigit digit,
          inductionHypothesis fun other listed =>
            all other (List.mem_cons_of_mem _ listed)]
        rfl
  show (toString value).toList.flatMap Quoted.escapeChar = _
  rw [digits]
  exact unescaped _ fun char listed => Json.isDigit_of_mem_natChars listed

theorem readIndex_ofText (index : UInt16) :
    readIndex (.ofText (toString index.toNat)) = .ok index := by
  have bound := index.toNat_lt
  have noMore : Numeral.Stops [] := fun _ absent => nomatch absent
  have scanned := Numeral.scan_intChars noMore (index.toNat : Int)
  rw [List.append_nil] at scanned
  have value : (Numeral.ofInt (index.toNat : Int)).value =
      some (.integer index.toNat) :=
    Numeral.value_ofInt (by simp only [Numeral.signedLimit]; omega)
      (by simp only [Numeral.wordLimit, UInt64.size]; omega)
  have spelled : Json.intChars (index.toNat : Int) =
      Json.natChars index.toNat := rfl
  rw [readIndex, body_ofText_natural, ← spelled, scanned]
  have range : (0 : Int) ≤ index.toNat ∧ (index.toNat : Int) ≤ 65535 := by
    omega
  simp only [value, if_pos range]
  have closed : ((List.isEmpty ([] : List Char)) &&
      (Quoted.ofText (toString index.toNat)).fault.isNone) = true := rfl
  rw [if_pos closed, Int.toNat_natCast, UInt16.ofNat_toNat]

theorem putVariable_of_above {index : UInt16}
    {values : List (UInt16 × Int32)}
    (above : ∀ entry ∈ values, entry.1 < index) (value : Int32) :
    putVariable index value values = values ++ [(index, value)] := by
  induction values with
  | nil => rfl
  | cons entry others inductionHypothesis =>
      obtain ⟨other, old⟩ := entry
      have below : other < index := above (other, old) List.mem_cons_self
      have notBelow : ¬index < other := UInt16.lt_asymm below
      have apart : (index == other) = false := by
        simp only [beq_eq_false_iff_ne]
        rintro rfl
        exact UInt16.lt_irrefl _ below
      rw [putVariable, if_neg notBelow, apart, if_neg Bool.false_ne_true,
        inductionHypothesis fun entry listed =>
          above entry (List.mem_cons_of_mem _ listed)]
      rfl

theorem readVariables_parts {values read : List (UInt16 × Int32)}
    (ascending : ((read ++ values).map Prod.fst).Pairwise (· < ·)) :
    readVariables none read (values.map variablePart) = .ok (read ++ values) := by
  induction values generalizing read with
  | nil =>
      rw [List.append_nil]
      rfl
  | cons entry others inductionHypothesis =>
      obtain ⟨index, value⟩ := entry
      have above : ∀ entry ∈ read, entry.1 < index := by
        intro entry listed
        rw [List.map_append, List.pairwise_append] at ascending
        exact ascending.2.2 entry.1 (List.mem_map_of_mem listed) index
          List.mem_cons_self
      have regrouped : read ++ (index, value) :: others =
          (read ++ [(index, value)]) ++ others := by simp
      rw [regrouped] at ascending ⊢
      rw [← inductionHypothesis ascending, List.map_cons]
      simp only [variablePart, readVariables, readIndex_ofText, Reader.part,
        Reader.signed32_ofInt, bind, Except.bind, putVariable_of_above above]

/-! ## Saves -/

def scenePart : Option SceneIndex → Fragment
  | none => .null
  | some index => .number (.ofInt index.toNat)

def part (save : Save) : Fragment :=
  .object
    [(.ofText "save_version", .number (.ofInt save.version.toNat)),
      (.ofText "scene", scenePart save.scene),
      (.ofText "game_vars",
        .object (save.values.map variablePart) none)]
    none

theorem readsAs_form (save : Save) :
    Fragment.ReadsAs 0 save.form save.part := by
  have version : Fragment.ReadsAs 1 (.nat save.version.toNat)
      (.number (.ofInt save.version.toNat)) :=
    Fragment.readsAs_int 1 save.version.toNat
  have scene : Fragment.ReadsAs 1
      (Json.option (fun index => .nat index.toNat) save.scene)
      (scenePart save.scene) := by
    cases save.scene with
    | none => exact Fragment.readsAs_null 1
    | some index => exact Fragment.readsAs_int 1 index.toNat
  have bank : Fragment.ReadsAs 1
      (.object (save.values.map variableForm))
      (.object (save.values.map variablePart) none) := by
    refine Fragment.readsAs_object (List.forall₂_map_left_iff.mpr
      (List.forall₂_map_right_iff.mpr (List.forall₂_same.mpr ?_)))
    intro entry _
    exact ⟨rfl, Fragment.readsAs_int 2 entry.2.toInt⟩
  exact Fragment.readsAs_object
    (.cons ⟨rfl, version⟩ (.cons ⟨rfl, scene⟩ (.cons ⟨rfl, bank⟩ .nil)))

theorem ofText_text (save : Save) (rest : String) :
    Fragment.ofText (save.text ++ rest) = save.part := by
  have printed : (save.text ++ rest).toList =
      save.form.indentedChars 0 ++ rest.toList := by
    simp [text, Json.indented]
  have read := readsAs_form save (2 * (save.text ++ rest).toList.length + 1)
    rest.toList (by rw [printed, List.length_append]; omega) trivial
  rw [Fragment.ofText, Fragment.scan, printed] at *
  rw [read]

/-- Whether the saved variables ascend by index. -/
def Ascends (save : Save) : Prop :=
  (save.values.map Prod.fst).Pairwise (· < ·)

def record : Record Save :=
  Record.map (fun (version, scene, values) => ⟨version, scene, values⟩) <|
    Record.both (.required "save_version" Reader.word32) <|
      Record.both
        (.optional "scene" none (Reader.nullable Reader.word32))
        (.required "game_vars" variablesReader)

theorem reader_part {save : Save} (ascends : save.Ascends) :
    reader save.part = .ok save := by
  have version := Reader.word32_ofInt save.version
  have scene : Reader.nullable Reader.word32 (scenePart save.scene) =
      .ok save.scene := by
    cases save.scene with
    | none => rfl
    | some index =>
        simp [scenePart, Reader.nullable, Reader.word32_ofInt, Except.map]
  have bank : variablesReader
      (.object (save.values.map variablePart) none) = .ok save.values :=
    readVariables_parts ascends
  have sceneApart : "scene" ≠ "save_version" := by decide
  have bankApart : "game_vars" ≠ "save_version" ∧ "game_vars" ≠ "scene" := by
    decide
  have versionPut : record.put "save_version" (.field "save_version")
      (.number (.ofInt save.version.toNat)) (none, none, none) =
      some (.ok (some save.version, none, none)) :=
    Record.put_both_left (Record.put_ofField version)
  have scenePut : record.put "scene" (.field "scene") (scenePart save.scene)
      (some save.version, none, none) =
      some (.ok (some save.version, some save.scene, none)) :=
    Record.put_both_right (Record.put_ofField_of_ne sceneApart _)
      (Record.put_both_left (Record.put_ofField scene))
  have bankPut : record.put "game_vars" (.field "game_vars")
      (.object (save.values.map variablePart) none)
      (some save.version, some save.scene, none) =
      some (.ok (some save.version, some save.scene, some save.values)) :=
    Record.put_both_right (Record.put_ofField_of_ne bankApart.1 _)
      (Record.put_both_right (Record.put_ofField_of_ne bankApart.2 _)
        (Record.put_ofField bank))
  -- The members come in the order in which they are printed, each to its own field.
  have taken : record.members none record.blank
      [(.ofText "save_version", .number (.ofInt save.version.toNat)),
        (.ofText "scene", scenePart save.scene),
        (.ofText "game_vars",
          .object (save.values.map variablePart) none)] =
      .ok (some save.version, some save.scene, some save.values) :=
    (Record.members_cons_of_put (Quoted.text_ofText _) versionPut).trans
      ((Record.members_cons_of_put (Quoted.text_ofText _) scenePut).trans
        (Record.members_cons_of_put (Quoted.text_ofText _) bankPut))
  exact Record.reader_object taken rfl

/-- The text of a save is read as that save, whatever follows it. -/
theorem ofText?_text {save : Save} (current : save.version = currentVersion)
    (ascends : save.Ascends) (rest : String) :
    ofText? (save.text ++ rest) = .ok save := by
  rw [ofText?, ofText_text, reader_part ascends]
  simp only [Except.mapError, bind, Except.bind, if_pos current]
  rfl

/-! ## Files -/

/-- A save that was written is loaded again. -/
theorem load_of_store {save : Save} (current : save.version = currentVersion)
    (ascends : save.Ascends) {files after : Files} {path : String}
    (written : save.store files path = (after, true)) :
    load after path = .ok save := by
  have text := Files.readText_of_writeAtomic written
  have parsed := ofText?_text current ascends ""
  rw [String.append_empty] at parsed
  simp only [load, text, Except.mapError, bind, Except.bind, parsed]

theorem ascends_ofSession {game : GameBank} (tidy : game.Tidy)
    (scene : Option SceneIndex) (references : List UInt16) :
    (ofSession game scene references).Ascends := by
  rw [ofSession_eq, Ascends, List.map_map]
  simp only [Function.comp_def, List.map_id']
  exact ascending_foldl_insertIndex tidy.ascending references

end Save

end Stagecraft
