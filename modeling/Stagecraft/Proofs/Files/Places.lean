import Stagecraft.Files.AtomicWrite

/-!
# Places of paths

Where a path leads is known from its names alone, if it leads anywhere. The staging
path of a path ends in a name of its own, so it never leads to the same place.
-/

namespace Stagecraft

/-! ## Parts of joined texts -/

namespace Text

theorem splitAt_ne_nil (separator : Char) (text : List Char) :
    splitAt separator text ≠ [] := by
  induction text with
  | nil => simp [splitAt]
  | cons char rest inductionHypothesis =>
      rw [splitAt]
      split
      · simp
      · split <;> simp

/-- Texts with a separator between them have the parts of both. -/
theorem splitAt_append (separator : Char) (first second : List Char) :
    splitAt separator (first ++ separator :: second) =
      splitAt separator first ++ splitAt separator second := by
  induction first with
  | nil => simp [splitAt]
  | cons char rest inductionHypothesis =>
      simp only [List.cons_append, splitAt, inductionHypothesis]
      split
      · rfl
      · cases parts : splitAt separator rest with
        | nil => exact absurd parts (splitAt_ne_nil separator rest)
        | cons head others => rfl

/-- A text without separator is one part. -/
theorem splitAt_of_not_mem {separator : Char} {text : List Char}
    (absent : separator ∉ text) : splitAt separator text = [text] := by
  induction text with
  | nil => rfl
  | cons char rest inductionHypothesis =>
      rw [List.mem_cons, not_or] at absent
      have other : (char == separator) = false :=
        beq_false_of_ne (Ne.symm absent.1)
      simp only [splitAt, other, inductionHypothesis absent.2,
        Bool.false_eq_true, if_false]

theorem not_mem_of_mem_splitAt {separator : Char} {text part : List Char}
    (member : part ∈ splitAt separator text) : separator ∉ part := by
  induction text generalizing part with
  | nil => simp_all [splitAt]
  | cons char rest inductionHypothesis =>
      rw [splitAt] at member
      split at member
      · rcases List.mem_cons.mp member with rfl | later
        · exact List.not_mem_nil
        · exact inductionHypothesis later
      · next other =>
          have apart : separator ≠ char := by
            rintro rfl
            exact other (beq_self_eq_true _)
          cases parts : splitAt separator rest with
          | nil => exact absurd parts (splitAt_ne_nil separator rest)
          | cons head others =>
              rw [parts] at member inductionHypothesis
              rcases List.mem_cons.mp member with rfl | later
              · rw [List.mem_cons, not_or]
                exact ⟨apart, inductionHypothesis List.mem_cons_self⟩
              · exact inductionHypothesis (List.mem_cons_of_mem head later)

end Text

/-! ## Names of joined paths -/

namespace Path

variable {base part : String}

/-- A name that has no slash in it and says something. -/
def IsName (name : String) : Prop :=
  '/' ∉ name.toList ∧ isSilent name.toList = false

theorem isName_of_mem_names {path name : String}
    (member : name ∈ names path) : IsName name := by
  obtain ⟨part, listed, rfl⟩ := List.mem_map.mp member
  obtain ⟨isPart, speaks⟩ := List.mem_filter.mp listed
  refine ⟨?_, ?_⟩
  · rw [String.toList_ofList]
    exact Text.not_mem_of_mem_splitAt isPart
  · rw [String.toList_ofList]
    simpa using speaks

theorem IsName.relative {name : String} (isName : IsName name) :
    (name.toList.head? == some '/') = false := by
  rw [beq_eq_false_iff_ne]
  intro slash
  exact isName.1 (List.mem_of_head? slash)

theorem names_of_isName {name : String} (isName : IsName name) :
    names name = [name] := by
  simp [names, parts, Text.splitAt_of_not_mem isName.1, isName.2]

/-- A name with more behind it is a name. -/
theorem IsName.append {name : String} (isName : IsName name) :
    IsName (name ++ ".partial") := by
  refine ⟨?_, ?_⟩
  · simp [isName.1]
  · have long : 1 < (name ++ ".partial").toList.length := by
      simp
    cases form : (name ++ ".partial").toList with
    | nil => simp [form] at long
    | cons first rest =>
        cases rest with
        | nil => simp [form] at long
        | cons second others => simp [isSilent]

theorem parts_append (first second : String) :
    parts (first ++ "/" ++ second) = parts first ++ parts second := by
  simp [parts, Text.splitAt_append]

/-- A name below a path comes after the names of the path. -/
theorem names_join (isName : IsName part) :
    names (join base part) = names base ++ [part] := by
  rw [join, if_neg (by simp [isName.relative])]
  rw [← names_of_isName isName]
  split
  · next ends =>
      rw [Bool.or_eq_true] at ends
      rcases ends with blank | slash
      · have none_ : base = "" := by simpa using blank
        simp [none_, names, parts, Text.splitAt, isSilent]
      · -- What stands before the last slash has the same names.
        have slash : base.toList.getLast? = some '/' := by simpa using slash
        obtain ⟨before, form⟩ := List.getLast?_eq_some_iff.mp slash
        have split : parts base = Text.splitAt '/' before ++ [[]] := by
          rw [parts, form]
          exact Text.splitAt_append '/' before []
        have joined :
            parts (base ++ part) =
              Text.splitAt '/' before ++ parts part := by
          rw [parts, String.toList_append, form, List.append_assoc]
          exact Text.splitAt_append '/' before part.toList
        simp [names, split, joined, isSilent]
  · simp only [names, parts_append, List.filter_append, List.map_append]

theorem isAbsolute_join (isName : IsName part) :
    isAbsolute (join base part) = isAbsolute base := by
  have relative := isName.relative
  rw [join, if_neg (by simp [relative])]
  unfold isAbsolute
  cases form : base.toList with
  | nil =>
      have blank : base = "" := String.toList_eq_nil_iff.mp form
      simp [blank, relative]
  | cons first rest =>
      split <;> simp [form]

end Path

/-! ## Places -/

namespace Place

def enter (here : Place) (name : String) : Place :=
  if name == above then here.up else here ++ [name]

def ofPath (path : String) : Place :=
  (Path.names path).foldl enter (startOf path)

end Place

namespace Files

theorem eq_of_follow {files : Files} {here place : Place}
    {names : List String} (found : files.follow here names = .ok place) :
    place = names.foldl Place.enter here := by
  induction names generalizing here with
  | nil =>
      rw [follow] at found
      exact (Except.ok.inj found).symm
  | cons name rest inductionHypothesis =>
      rw [follow] at found
      rw [List.foldl_cons, Place.enter]
      split
      · next leadsUp =>
          rw [if_pos leadsUp] at found
          exact inductionHypothesis found
      · next stays =>
          rw [if_neg stays] at found
          split at found
          · cases found
          · dsimp only at found
            split at found
            · next last =>
                have done : rest = [] := List.isEmpty_iff.mp last
                rw [done]
                exact (Except.ok.inj found).symm
            · split at found
              · exact inductionHypothesis found
              · cases found
              · cases found

/-- A path leads to one place only, in all files. -/
theorem eq_ofPath_of_locate {files : Files} {path : String} {place : Place}
    (found : files.locate path = .ok place) : place = Place.ofPath path := by
  unfold locate at found
  split at found
  · cases found
  · exact eq_of_follow found

end Files

namespace Path

/-- The staging path ends in a name that is not that of the path. -/
theorem staging_ne (path : String) :
    Place.ofPath (staging path) ≠ Place.ofPath path := by
  have below {base part : String} (isName : IsName part)
      (forward : part ≠ Place.above) :
      Place.ofPath (join base part) =
        (names base).foldl Place.enter (Place.startOf (join base part)) ++
          [part] := by
    rw [Place.ofPath, names_join isName, List.foldl_append, List.foldl_cons,
      List.foldl_nil, Place.enter, if_neg (by simp [forward])]
  unfold staging
  cases ends : fileName? path with
  | some name =>
      -- Both end in a name, and the names differ in length.
      unfold fileName? at ends
      split at ends
      · cases ends
      · next last forward =>
          rw [ends] at forward
          have isName : IsName name :=
            isName_of_mem_names (List.mem_of_getLast? ends)
          obtain ⟨before, form⟩ := List.getLast?_eq_some_iff.mp ends
          have onward : name ≠ Place.above := by
            rintro rfl
            exact forward rfl
          have longer : name ++ ".partial" ≠ name := by
            intro same
            simpa using congrArg (fun name => name.toList.length) same
          have staysLonger : name ++ ".partial" ≠ Place.above := by
            intro same
            simpa [Place.above] using
              congrArg (fun name => name.toList.length) same
          simp only
          rw [below isName.append staysLonger, Place.ofPath, form,
            List.foldl_append, List.foldl_cons, List.foldl_nil, Place.enter,
            if_neg (by simp [onward])]
          intro same
          exact longer (List.singleton_inj.mp (List.append_inj_right' same rfl))
  | none =>
      -- The staging place is below the place of the path.
      have isName : IsName (defaultFileName ++ ".partial") := by
        refine ⟨by decide, by decide⟩
      have start :
          Place.startOf (join path (defaultFileName ++ ".partial")) =
            Place.startOf path := by
        unfold Place.startOf
        rw [isAbsolute_join isName]
      simp only
      rw [below isName (by decide), start, Place.ofPath]
      simp

end Path

end Stagecraft
