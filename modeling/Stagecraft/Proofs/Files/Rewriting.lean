import Stagecraft.Proofs.Files.Atomicity

/-!
# Writing again

Whether a write succeeds is settled by the folders and by nothing that is written. A
write that succeeds leaves all folders, so another one to the same path succeeds after
it, and every other file is read as before.
-/

namespace Stagecraft.Files

variable {files ready after : Files} {place : Place} {path : String}

/-! ## Folders -/

/-- Whether the folders of a disk are still there. -/
def KeepsFolders (files after : Files) : Prop :=
  ∀ place : Place,
    files.at? place = some .folder → after.at? place = some .folder

structure SameFolders (files after : Files) : Prop where
  kept : files.KeepsFolders after
  none_new : after.KeepsFolders files

theorem SameFolders.symm (same : files.SameFolders after) :
    after.SameFolders files :=
  ⟨same.none_new, same.kept⟩

theorem SameFolders.trans {middle : Files} (first : files.SameFolders middle)
    (second : middle.SameFolders after) : files.SameFolders after :=
  ⟨fun place folder => second.kept place (first.kept place folder),
    fun place folder => first.none_new place (second.none_new place folder)⟩

theorem takesFile_iff :
    files.takesFile place = true ↔ files.at? place ≠ some .folder := by
  unfold takesFile
  cases files.at? place with
  | none => simp
  | some entry => cases entry <;> simp

theorem takesFile_of_none_new (none_new : after.KeepsFolders files)
    (takes : files.takesFile place = true) : after.takesFile place = true :=
  takesFile_iff.mpr fun folder =>
    takesFile_iff.mp takes (none_new place folder)

theorem landing?_of_sameFolders (same : files.SameFolders after)
    (landed : files.landing? path = some place) :
    after.landing? path = some place := by
  obtain ⟨located, namesFile, takes⟩ := landing?_eq_some landed
  unfold landing?
  rw [locate_of_folders same.kept located]
  simp [namesFile, takesFile_of_none_new same.none_new takes]

/-- A file is put where no folder stands, so it leaves the folders. -/
theorem sameFolders_set (takes : files.takesFile place = true)
    (content : ByteArray) :
    files.SameFolders (files.set place (.file content)) := by
  have vacant := takesFile_iff.mp takes
  have inside := inside_of_takesFile takes
  constructor
  · intro other folder
    have apart : other ≠ place := fun same => vacant (same ▸ folder)
    rw [at?_set_of_ne apart, folder]
  · intro other folder
    have apart : other ≠ place := by
      rintro rfl
      rw [at?_set_self inside] at folder
      cases folder
    rw [← folder, at?_set_of_ne apart]

theorem sameFolders_erase (takes : files.takesFile place = true) :
    files.SameFolders (files.erase place) := by
  have vacant := takesFile_iff.mp takes
  have inside := inside_of_takesFile takes
  constructor
  · intro other folder
    have apart : other ≠ place := fun same => vacant (same ▸ folder)
    rw [at?_erase_of_ne apart, folder]
  · intro other folder
    have apart : other ≠ place := by
      rintro rfl
      rw [at?_erase_self inside] at folder
      cases folder
    rw [← folder, at?_erase_of_ne apart]

/-! ## Making folders -/

theorem keepsFolders_set_folder (vacant : files.at? place = none) :
    files.KeepsFolders (files.set place .folder) := by
  intro other folder
  have apart : other ≠ place := by
    rintro rfl
    rw [vacant] at folder
    cases folder
  rw [at?_set_of_ne apart, folder]

theorem keepsFolders_makeFolders (files : Files) (here : Place)
    (names : List String) :
    files.KeepsFolders (files.makeFolders here names).1 := by
  induction names generalizing files here with
  | nil => exact fun _ folder => folder
  | cons name rest inductionHypothesis =>
      rw [makeFolders]
      split
      · exact inductionHypothesis files here.up
      · split
        · exact fun _ folder => folder
        · dsimp only
          split
          · exact inductionHypothesis files _
          · exact fun _ folder => folder
          · next vacant =>
              intro other folder
              exact inductionHypothesis _ _ other
                (keepsFolders_set_folder vacant other folder)

/-- Folders that were made need not be made again. -/
theorem makeFolders_of_made {here : Place} {names : List String}
    (made : files.makeFolders here names = (ready, true))
    (kept : ready.KeepsFolders after) :
    after.makeFolders here names = (after, true) := by
  induction names generalizing files here with
  | nil => rfl
  | cons name rest inductionHypothesis =>
      rw [makeFolders] at made ⊢
      split
      · next leadsUp =>
          rw [if_pos leadsUp] at made
          exact inductionHypothesis made
      · next stays =>
          rw [if_neg stays] at made
          split
          · next long =>
              rw [if_pos long] at made
              cases made
          · next short =>
              rw [if_neg short] at made
              dsimp only at made ⊢
              -- The next folder stands on the disk by the time all are made.
              have stands {begun : Files}
                  (folder : begun.at? (here ++ [name]) = some .folder)
                  (goesOn : begun.makeFolders (here ++ [name]) rest =
                    (ready, true)) :
                  after.at? (here ++ [name]) = some .folder := by
                have ends :=
                  keepsFolders_makeFolders begun (here ++ [name]) rest _ folder
                rw [goesOn] at ends
                exact kept _ ends
              split at made
              · next folder =>
                  rw [stands folder made]
                  exact inductionHypothesis made
              · cases made
              · next vacant =>
                  have inside := inside_of_takesFile
                    (takesFile_iff.mpr (by rw [vacant]; simp))
                  rw [stands (at?_set_self inside) made]
                  exact inductionHypothesis made

theorem makeFolder_of_made (made : files.makeFolder path = (ready, true))
    (kept : ready.KeepsFolders after) :
    after.makeFolder path = (after, true) := by
  unfold makeFolder at made ⊢
  split
  · next fault =>
      rw [if_pos fault] at made
      cases made
  · next fine =>
      rw [if_neg fine] at made
      exact makeFolders_of_made made kept

theorem keepsFolders_makeFolder (files : Files) (path : String) :
    files.KeepsFolders (files.makeFolder path).1 := by
  unfold makeFolder
  split
  · exact fun _ folder => folder
  · exact keepsFolders_makeFolders files _ _

/-! ## Writes that succeed -/

section Succeeds

variable {content : ByteArray} {staging destination : Place}

/-- Whatever else is written in its place, the write succeeds too. -/
theorem Succeeds.of_content
    (succeeds : files.Succeeds path content ready staging destination)
    (other : ByteArray) :
    files.Succeeds path other ready staging destination := by
  have was := sameFolders_set succeeds.takes content
  have isNow := sameFolders_set succeeds.takes other
  have same := was.symm.trans isNow
  exact
    { made := succeeds.made
      located := succeeds.located
      takes := succeeds.takes
      lands := landing?_of_sameFolders same succeeds.lands }

theorem Succeeds.sameFolders
    (succeeds : files.Succeeds path content ready staging destination) :
    ready.SameFolders (moved ready staging destination content) := by
  have staged := sameFolders_set succeeds.takes content
  have takesStaging := takesFile_of_none_new staged.none_new succeeds.takes
  have erased := sameFolders_erase takesStaging
  obtain ⟨_, _, takes⟩ := landing?_eq_some succeeds.lands
  have takesDestination := takesFile_of_none_new erased.none_new takes
  exact (staged.trans erased).trans (sameFolders_set takesDestination content)

/-- After a write that succeeds, another one to the same path does. -/
theorem Succeeds.again
    (succeeds : files.Succeeds path content ready staging destination)
    (other : ByteArray) :
    let after := moved ready staging destination content
    after.Succeeds path other after staging destination := by
  have same := succeeds.sameFolders
  have staged := sameFolders_set succeeds.takes content
  have takes := takesFile_of_none_new same.none_new succeeds.takes
  have restaged := (staged.symm.trans same).trans (sameFolders_set takes other)
  exact
    { made := makeFolder_of_made succeeds.made same.kept
      located := locate_of_folders same.kept succeeds.located
      takes := takes
      lands := landing?_of_sameFolders restaged succeeds.lands }

end Succeeds

/-- Whether writes to a path succeed, whatever they write. -/
def TakesWrites (files : Files) (path : String) : Prop :=
  ∀ text, (files.writeAtomic path text).2 = true

section Writes

variable {text : String}

theorem succeeds_of_done (done : (files.writeAtomic path text).2 = true) :
    ∃ ready staging destination,
      files.Succeeds path text.toUTF8 ready staging destination :=
  succeeds_of_writeAtomic (Prod.ext rfl done)

/-- If one write to a path succeeds, all others do. -/
theorem takesWrites_of_done (done : (files.writeAtomic path text).2 = true) :
    files.TakesWrites path := by
  obtain ⟨ready, staging, destination, succeeds⟩ := succeeds_of_done done
  intro other
  rw [(succeeds.of_content other.toUTF8).writeAtomic]

/-- A path goes on taking writes. -/
theorem TakesWrites.writeAtomic (takes : files.TakesWrites path) (text : String) :
    (files.writeAtomic path text).1.TakesWrites path := by
  obtain ⟨ready, staging, destination, succeeds⟩ := succeeds_of_done (takes text)
  intro other
  rw [succeeds.writeAtomic, (succeeds.again other.toUTF8).writeAtomic]

theorem TakesWrites.keepsFolders (takes : files.TakesWrites path)
    (text : String) : files.KeepsFolders (files.writeAtomic path text).1 := by
  obtain ⟨ready, staging, destination, succeeds⟩ := succeeds_of_done (takes text)
  have made := keepsFolders_makeFolder files (Path.parent path)
  rw [succeeds.made] at made
  rw [succeeds.writeAtomic]
  exact fun place folder => succeeds.sameFolders.kept place (made place folder)

/-- A write touches its destination and the staging file only. -/
theorem content?_writeAtomic (files : Files) (text : String)
    (elsewhere : place ≠ Place.ofPath path)
    (beside : place ≠ Place.ofPath (Path.staging path)) :
    (files.writeAtomic path text).1.content? place = files.content? place := by
  have atomic := isAtomic_writeAtomicWith .nothing files path text.toUTF8
  unfold writeAtomic Writing.result
  dsimp only
  cases ends :
      (files.writeAtomicWith .nothing path text.toUTF8).states.getLast? with
  | none => rfl
  | some state =>
      exact atomic.others state (List.mem_of_getLast? ends) place elsewhere beside

/-- A text that stands elsewhere is read as before. -/
theorem TakesWrites.readText {other content : String}
    (takes : files.TakesWrites path) (text : String)
    (elsewhere : Place.ofPath other ≠ Place.ofPath path)
    (beside : Place.ofPath other ≠ Place.ofPath (Path.staging path))
    (found : files.readText other = .ok content) :
    (files.writeAtomic path text).1.readText other = .ok content := by
  unfold Files.readText at found ⊢
  cases was : files.read other with
  | error fault =>
      rw [was] at found
      cases found
  | ok bytes =>
      obtain ⟨located, held, namesFile⟩ := locate_of_read was
      have still := content?_writeAtomic files text elsewhere beside
      rw [content?_eq_some.mpr held] at still
      have isNow : (files.writeAtomic path text).1.read other = .ok bytes :=
        read_of_locate (locate_of_folders (takes.keepsFolders text) located)
          (content?_eq_some.mp still) namesFile
      rw [isNow, ← was]
      exact found

/-- A text is only read elsewhere where a file stood before. -/
theorem content?_of_readText_writeAtomic {other content : String}
    (elsewhere : Place.ofPath other ≠ Place.ofPath path)
    (beside : Place.ofPath other ≠ Place.ofPath (Path.staging path))
    (found : (files.writeAtomic path text).1.readText other = .ok content) :
    (files.content? (Place.ofPath other)).isSome = true := by
  unfold Files.readText at found
  cases was : (files.writeAtomic path text).1.read other with
  | error fault =>
      rw [was] at found
      cases found
  | ok bytes =>
      obtain ⟨_, held, _⟩ := locate_of_read was
      rw [← content?_writeAtomic files text elsewhere beside,
        content?_eq_some.mpr held]
      rfl

end Writes

end Stagecraft.Files
