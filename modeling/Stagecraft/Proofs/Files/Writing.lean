import Stagecraft.Files.AtomicWrite

/-!
# Reading what was written

A path leads to the same place before and after a write: the write only touches
the staging place, where a file stands by then, and the destination, which takes
a file, and neither of them can be a folder on the way.
-/

namespace Stagecraft.Files

/-! ## Entries -/

section Entries

variable {files : Files} {place other : Place} {entry : FileEntry}

theorem lookup_cons_eq (entries : List (Place × FileEntry)) :
    ((place, entry) :: entries).lookup other =
      if other = place then some entry else entries.lookup other := by
  rw [List.lookup_cons]
  by_cases same : other = place
  · rw [same, beq_self_eq_true, if_pos rfl]
  · rw [beq_false_of_ne same, if_neg same]

theorem lookup_put (entries : List (Place × FileEntry)) :
    (set.put place entry entries).lookup other =
      if other = place then some entry else entries.lookup other := by
  induction entries with
  | nil =>
      exact lookup_cons_eq []
  | cons head rest inductionHypothesis =>
      obtain ⟨first, old⟩ := head
      rw [set.put]
      by_cases there : first = place
      · rw [there, if_pos (beq_self_eq_true place), lookup_cons_eq,
          lookup_cons_eq]
        split <;> rfl
      · rw [if_neg (by simp [there]), lookup_cons_eq, lookup_cons_eq,
          inductionHypothesis]
        by_cases atFirst : other = first
        · rw [if_pos atFirst, if_neg (atFirst ▸ there), if_pos atFirst]
        · rw [if_neg atFirst, if_neg atFirst]

theorem at?_set_of_ne (apart : other ≠ place) :
    (files.set place entry).at? other = files.at? other := by
  simp only [at?, set]
  split
  · rfl
  · rw [lookup_put, if_neg apart]

theorem at?_set_self (inside : place.all Place.leadsOut = false) :
    (files.set place entry).at? place = some entry := by
  simp only [at?, set, inside]
  rw [if_neg Bool.false_ne_true, lookup_put, if_pos rfl]

theorem at?_erase_of_ne (apart : other ≠ place) :
    (files.erase place).at? other = files.at? other := by
  have kept (entries : List (Place × FileEntry)) :
      (entries.filter fun entry => entry.1 != place).lookup other =
        entries.lookup other := by
    induction entries with
    | nil => rfl
    | cons head rest inductionHypothesis =>
        obtain ⟨first, old⟩ := head
        rw [List.filter_cons]
        by_cases there : first = place
        · rw [there, if_neg (by simp), inductionHypothesis, lookup_cons_eq,
            if_neg apart]
        · rw [if_pos (by simp [there]), lookup_cons_eq, lookup_cons_eq,
            inductionHypothesis]
  simp only [at?, erase, kept]

theorem inside_of_takesFile (takes : files.takesFile place = true) :
    place.all Place.leadsOut = false := by
  cases outside : place.all Place.leadsOut with
  | false => rfl
  | true => simp [takesFile, at?, outside] at takes

end Entries

/-! ## Ways -/

section Ways

variable {files after : Files}
  (foldersKept : ∀ place : Place,
    files.at? place = some .folder → after.at? place = some .folder)

include foldersKept in
/-- More folders leave a way that was open. -/
theorem follow_of_folders {here place : Place} {names : List String}
    (found : files.follow here names = .ok place) :
    after.follow here names = .ok place := by
  induction names generalizing here with
  | nil => exact found
  | cons name rest inductionHypothesis =>
      rw [follow] at found ⊢
      split
      · next leadsUp =>
          rw [if_pos leadsUp] at found
          exact inductionHypothesis found
      · next stays =>
          rw [if_neg stays] at found
          split
          · next long =>
              rw [if_pos long] at found
              exact found
          · next short =>
              rw [if_neg short] at found
              dsimp only at found ⊢
              split
              · next last =>
                  rw [if_pos last] at found
                  exact found
              · next notLast =>
                  rw [if_neg notLast] at found
                  cases standing : files.at? (here ++ [name]) with
                  | none => simp [standing] at found
                  | some entry =>
                      cases entry with
                      | file content => simp [standing] at found
                      | folder =>
                          simp only [standing] at found
                          simp only [foldersKept _ standing]
                          exact inductionHypothesis found

include foldersKept in
theorem locate_of_folders {path : String} {place : Place}
    (found : files.locate path = .ok place) :
    after.locate path = .ok place := by
  unfold locate at found ⊢
  cases fault : pathFault? path with
  | some fault => simp [fault] at found
  | none =>
      simp only [fault] at found
      exact follow_of_folders foldersKept found

end Ways

/-! ## Reads -/

section Reads

variable {files : Files} {path text : String}

theorem read_of_locate {place : Place} {content : ByteArray}
    (located : files.locate path = .ok place)
    (held : files.at? place = some (.file content))
    (namesFile : Path.endsInSlash path = false) :
    files.read path = .ok content := by
  simp [read, located, held, namesFile, bind, Except.bind]

theorem readText_of_locate {place : Place}
    (located : files.locate path = .ok place)
    (held : files.at? place = some (.file text.toUTF8))
    (namesFile : Path.endsInSlash path = false) :
    files.readText path = .ok text := by
  have content := read_of_locate located held namesFile
  have decoded : String.fromUTF8? text.toByteArray = some text := by
    unfold String.fromUTF8?
    rw [dif_pos text.isValidUTF8]
    rfl
  unfold readText
  rw [content]
  simp [bind, Except.bind, decoded]

theorem isFile_of_readText (found : files.readText path = .ok text) :
    files.isFile path = true := by
  unfold isFile
  cases content : files.read path with
  | ok content => rfl
  | error fault =>
      rw [readText, content] at found
      cases found

end Reads

/-! ## Writes -/

section Writes

variable {files after : Files} {path text : String}

/-- How a write of a content to a path succeeds: all folders on the way are there or
can be made, the staging place takes a file, and so does the destination once that
file stands. -/
structure Succeeds (files : Files) (path : String) (content : ByteArray)
    (ready : Files) (staging destination : Place) : Prop where
  made : files.makeFolder (Path.parent path) = (ready, true)
  located : ready.locate (Path.staging path) = .ok staging
  takes : ready.takesFile staging = true
  lands : (ready.set staging (.file content)).landing? path = some destination

def moved (ready : Files) (staging destination : Place) (content : ByteArray) :
    Files :=
  ((ready.set staging (.file content)).erase staging).set destination
    (.file content)

theorem Succeeds.writeAtomic {ready : Files} {staging destination : Place}
    (succeeds : files.Succeeds path text.toUTF8 ready staging destination) :
    files.writeAtomic path text =
      (moved ready staging destination text.toUTF8, true) := by
  simp only [Files.writeAtomic, writeAtomicWith, Mishap.nothing, succeeds.made,
    succeeds.located, succeeds.takes, succeeds.lands]
  rfl

theorem succeeds_of_writeAtomic
    (written : files.writeAtomic path text = (after, true)) :
    ∃ ready staging destination,
      files.Succeeds path text.toUTF8 ready staging destination := by
  unfold Files.writeAtomic writeAtomicWith at written
  rw [if_neg (by simp [Mishap.nothing])] at written
  cases making : files.makeFolder (Path.parent path) with
  | mk ready made =>
      simp only [making, Mishap.nothing] at written
      cases found : ready.locate (Path.staging path) with
      | error fault => simp [found] at written
      | ok staging =>
          simp only [found] at written
          split at written
          · simp at written
          · next isMade =>
              split at written
              · simp [giveUp] at written
              · next takes =>
                  split at written
                  · next destination landed =>
                      obtain rfl : made = true := by simpa using isMade
                      have takes : ready.takesFile staging = true := by
                        simpa using takes
                      exact ⟨ready, staging, destination, making, found, takes,
                        landed⟩
                  · simp [giveUp] at written

theorem landing?_eq_some {place : Place}
    (landed : files.landing? path = some place) :
    files.locate path = .ok place ∧ Path.endsInSlash path = false ∧
      files.takesFile place = true := by
  unfold landing? at landed
  cases found : files.locate path with
  | error fault => simp [found] at landed
  | ok there =>
      simp only [found] at landed
      split at landed
      · cases landed
      · next fits =>
          cases landed
          simpa using fits

/-- The staging file and a place that takes a file are no folders on the way. -/
theorem locate_of_moved {staging destination : Place} {content : ByteArray}
    (held : files.at? staging = some (.file content))
    (landed : files.landing? path = some destination) :
    ((files.erase staging).set destination (.file content)).locate path =
      .ok destination := by
  obtain ⟨located, _, takes⟩ := landing?_eq_some landed
  refine locate_of_folders (fun place folder => ?_) located
  have notStaging : place ≠ staging := by
    rintro rfl
    simp [held] at folder
  have notDestination : place ≠ destination := by
    rintro rfl
    simp [takesFile, folder] at takes
  rw [at?_set_of_ne notDestination, at?_erase_of_ne notStaging, folder]

/-- A text that was written is read again. -/
theorem readText_of_writeAtomic (written : files.writeAtomic path text =
    (after, true)) :
    after.readText path = .ok text := by
  obtain ⟨ready, staging, destination, succeeds⟩ :=
    succeeds_of_writeAtomic written
  rw [succeeds.writeAtomic] at written
  obtain rfl := congrArg Prod.fst written
  have held : (ready.set staging (.file text.toUTF8)).at? staging =
      some (.file text.toUTF8) :=
    at?_set_self (inside_of_takesFile succeeds.takes)
  obtain ⟨_, namesFile, takes⟩ := landing?_eq_some succeeds.lands
  exact readText_of_locate (locate_of_moved held succeeds.lands)
    (at?_set_self (inside_of_takesFile takes)) namesFile

end Writes

end Stagecraft.Files
