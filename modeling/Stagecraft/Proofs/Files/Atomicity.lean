import Stagecraft.Proofs.Files.Places
import Stagecraft.Proofs.Files.Writing

/-!
# Atomicity of writes

Whatever goes wrong in a write, and wherever it is cut short, its destination holds
what it held before or all of the new content. Only the last step of a write that
succeeds is seen outside the staging place.
-/

namespace Stagecraft.Files

variable {files after : Files} {place other : Place}

/-! ## Contents -/

/-- The content of the file at a place, if a file stands there. -/
def content? (files : Files) (place : Place) : Option ByteArray :=
  match files.at? place with
  | some (.file content) => some content
  | _ => none

theorem content?_eq_some {content : ByteArray} :
    files.content? place = some content ↔
      files.at? place = some (.file content) := by
  unfold content?
  cases files.at? place with
  | none => simp
  | some entry => cases entry <;> simp

/-- What a read returns is what stands at the place its path names. -/
theorem locate_of_read {path : String} {content : ByteArray}
    (found : files.read path = .ok content) :
    files.locate path = .ok (Place.ofPath path) ∧
      files.at? (Place.ofPath path) = some (.file content) ∧
      Path.endsInSlash path = false := by
  unfold read at found
  cases located : files.locate path with
  | error fault =>
      rw [located] at found
      cases found
  | ok place =>
      rw [located] at found
      rw [← eq_ofPath_of_locate located]
      cases standing : files.at? place with
      | none => simp [bind, Except.bind, standing] at found
      | some entry =>
          cases entry with
          | folder => simp [bind, Except.bind, standing] at found
          | file held =>
              simp only [bind, Except.bind, standing] at found
              split at found
              · cases found
              · next namesFile =>
                  rw [Except.ok.inj found]
                  exact ⟨rfl, rfl, by simpa using namesFile⟩

/-- Whether two disks hold the same files, but for the one at a place. -/
def SameBut (place : Place) (files after : Files) : Prop :=
  ∀ other, other ≠ place → after.content? other = files.content? other

namespace SameBut

theorem refl (place : Place) (files : Files) : SameBut place files files :=
  fun _ _ => rfl

theorem trans {middle : Files} (first : SameBut place files middle)
    (second : SameBut place middle after) : SameBut place files after :=
  fun other apart => (second other apart).trans (first other apart)

theorem set (place : Place) (files : Files) (entry : FileEntry) :
    SameBut place files (files.set place entry) := by
  intro other apart
  rw [content?, content?, at?_set_of_ne apart]

theorem erase (place : Place) (files : Files) :
    SameBut place files (files.erase place) := by
  intro other apart
  rw [content?, content?, at?_erase_of_ne apart]

theorem discard (place : Place) (files : Files) :
    SameBut place files (files.discard place) := by
  unfold Files.discard
  split
  · exact erase place files
  · exact refl place files

end SameBut

/-! ## Folders -/

theorem content?_set_folder (vacant : files.at? place = none) :
    (files.set place .folder).content? other = files.content? other := by
  by_cases there : other = place
  · have inside : place.all Place.leadsOut = false :=
      inside_of_takesFile (by rw [takesFile, vacant])
    rw [there, content?, content?, at?_set_self inside, vacant]
  · exact SameBut.set place files .folder other there

/-- Folders are only made where nothing stands. -/
theorem content?_makeFolders (here : Place) (names : List String) :
    (files.makeFolders here names).1.content? other = files.content? other := by
  induction names generalizing files here with
  | nil => rfl
  | cons name rest inductionHypothesis =>
      rw [makeFolders]
      split
      · exact inductionHypothesis here.up
      · split
        · rfl
        · dsimp only
          split
          · exact inductionHypothesis _
          · rfl
          · next vacant =>
              rw [inductionHypothesis, content?_set_folder vacant]

theorem content?_makeFolder (path : String) :
    (files.makeFolder path).1.content? other = files.content? other := by
  unfold makeFolder
  split
  · rfl
  · exact content?_makeFolders (Place.startOf path) (Path.names path)

/-! ## The ways of a write -/

section Ways

variable {mishap : Mishap} {staging : Place} {passed : List Files}

theorem done_giveUp : (giveUp mishap staging passed after).done = false := by
  unfold giveUp
  split <;> rfl

/-- Giving up touches the staging place only. -/
theorem sameBut_of_mem_giveUp {state : Files} (last : after ∈ passed)
    (kept : ∀ before ∈ passed, SameBut staging files before)
    (member : state ∈ (giveUp mishap staging passed after).states) :
    SameBut staging files state := by
  unfold giveUp at member
  split at member
  · exact kept state member
  · rcases List.mem_append.mp member with earlier | discarded
    · exact kept state earlier
    · rw [List.mem_singleton.mp discarded]
      exact (kept after last).trans (SameBut.discard staging after)

end Ways

/-- How a write goes: it fails and leaves all files but the staging file as they
were, or the staging file is moved to the destination in its last step. -/
inductive Goes (files : Files) (path : String) (content : ByteArray) :
    Writing → Prop where
  | fails {states : List Files}
      (kept : ∀ state ∈ states,
        SameBut (Place.ofPath (Path.staging path)) files state) :
      Goes files path content ⟨states, false⟩
  | moves {ready staged : Files}
      (readied : SameBut (Place.ofPath (Path.staging path)) files ready)
      (kept : SameBut (Place.ofPath (Path.staging path)) files staged)
      (held : staged.at? (Place.ofPath (Path.staging path)) =
        some (.file content))
      (landed : staged.landing? path = some (Place.ofPath path)) :
      Goes files path content
        ⟨[ready, staged,
          (staged.erase (Place.ofPath (Path.staging path))).set
            (Place.ofPath path) (.file content)], true⟩

theorem Goes.of_giveUp {path : String} {content : ByteArray} {mishap : Mishap}
    {passed : List Files} (last : after ∈ passed)
    (kept : ∀ before ∈ passed,
      SameBut (Place.ofPath (Path.staging path)) files before) :
    Goes files path content
      (giveUp mishap (Place.ofPath (Path.staging path)) passed after) := by
  let staging := Place.ofPath (Path.staging path)
  have states (state : Files)
      (member : state ∈ (giveUp mishap staging passed after).states) :
      SameBut staging files state :=
    sameBut_of_mem_giveUp last kept member
  have done : (giveUp mishap staging passed after).done = false := done_giveUp
  show Goes files path content (giveUp mishap staging passed after)
  generalize giveUp mishap staging passed after = writing at states done ⊢
  obtain ⟨passed, finished⟩ := writing
  cases done
  exact .fails states

theorem goes_writeAtomicWith (mishap : Mishap) (files : Files) (path : String)
    (content : ByteArray) :
    Goes files path content (files.writeAtomicWith mishap path content) := by
  unfold writeAtomicWith
  have prepares (other : Place) :
      (files.makeFolder (Path.parent path)).1.content? other =
        files.content? other :=
    content?_makeFolder (Path.parent path)
  generalize files.makeFolder (Path.parent path) = making at prepares ⊢
  obtain ⟨ready, made⟩ := making
  have readied : SameBut (Place.ofPath (Path.staging path)) files ready :=
    fun other _ => prepares other
  have onlyReady (state : Files) (member : state ∈ [ready]) :
      SameBut (Place.ofPath (Path.staging path)) files state := by
    rw [List.mem_singleton.mp member]
    exact readied
  have alsoKept {state : Files}
      (kept : SameBut (Place.ofPath (Path.staging path)) files state)
      (before : Files) (member : before ∈ [ready, state]) :
      SameBut (Place.ofPath (Path.staging path)) files before := by
    rcases List.mem_cons.mp member with rfl | later
    · exact readied
    · rw [List.mem_singleton.mp later]
      exact kept
  -- The splits follow the steps of the write. Wherever it stops before the last
  -- one, no more than the staging file has changed.
  split
  · exact .fails fun _ member => absurd member List.not_mem_nil
  · dsimp only
    split
    · exact .fails onlyReady
    · next staging located =>
        obtain rfl := eq_ofPath_of_locate located
        split
        · exact .fails onlyReady
        · split
          · exact .of_giveUp (List.mem_singleton.mpr rfl) onlyReady
          · next takes =>
              have inside := inside_of_takesFile (by simpa using takes)
              have staged (entry : FileEntry) :
                  SameBut (Place.ofPath (Path.staging path)) files
                    (ready.set (Place.ofPath (Path.staging path)) entry) :=
                readied.trans (SameBut.set _ ready entry)
              split
              · next leftover stopped =>
                  cases leftover with
                  | none => exact .of_giveUp (by simp) (alsoKept readied)
                  | some part =>
                      exact .of_giveUp (by simp) (alsoKept (staged (.file part)))
              · split
                · next destination landed =>
                    obtain rfl :=
                      eq_ofPath_of_locate (landing?_eq_some landed).1
                    split
                    · exact .of_giveUp (by simp)
                        (alsoKept (staged (.file content)))
                    · exact .moves readied (staged (.file content))
                        (at?_set_self inside) landed
                · exact .of_giveUp (by simp)
                    (alsoKept (staged (.file content)))

/-! ## Whole contents -/

/-- Whether a write of a content to a path is atomic: at each of its steps the
destination holds what it held before or all of the content, and the latter only if
the write succeeds. Besides the destination, only the staging file changes, and a
write that succeeds leaves none. -/
structure Writing.IsAtomic (writing : Writing) (files : Files) (path : String)
    (content : ByteArray) : Prop where
  apart : Place.ofPath (Path.staging path) ≠ Place.ofPath path
  whole : ∀ state ∈ writing.states,
    state.content? (Place.ofPath path) = files.content? (Place.ofPath path) ∨
      state.content? (Place.ofPath path) = some content
  fails : writing.done = false → ∀ state ∈ writing.states,
    state.content? (Place.ofPath path) = files.content? (Place.ofPath path)
  succeeds : writing.done = true →
    (writing.result files).content? (Place.ofPath path) = some content ∧
      (writing.result files).read path = .ok content ∧
      (writing.result files).at? (Place.ofPath (Path.staging path)) = none
  others : ∀ state ∈ writing.states, ∀ place,
    place ≠ Place.ofPath path → place ≠ Place.ofPath (Path.staging path) →
      state.content? place = files.content? place

theorem content?_set_self {content : ByteArray}
    (inside : place.all Place.leadsOut = false) :
    (files.set place (.file content)).content? place = some content := by
  rw [content?, at?_set_self inside]

theorem at?_erase_self (inside : place.all Place.leadsOut = false) :
    (files.erase place).at? place = none := by
  rw [at?, if_neg (by simp [inside]), List.lookup_eq_none_iff]
  intro entry member
  simpa [Files.erase, bne, BEq.comm] using (List.mem_filter.mp member).2

theorem isAtomic_writeAtomicWith (mishap : Mishap) (files : Files)
    (path : String) (content : ByteArray) :
    (files.writeAtomicWith mishap path content).IsAtomic files path content := by
  have apart := Path.staging_ne path
  have goes := goes_writeAtomicWith mishap files path content
  generalize files.writeAtomicWith mishap path content = writing at goes ⊢
  cases goes with
  | fails kept =>
      have old (state : Files) (member : state ∈ _) :=
        kept state member (Place.ofPath path) apart.symm
      exact
        { apart := apart
          whole := fun state member => .inl (old state member)
          fails := fun _ => old
          succeeds := fun done => absurd done Bool.false_ne_true
          others := fun state member place _ beside =>
            kept state member place beside }
  | @moves ready staged readied kept held landed =>
      obtain ⟨located, namesFile, takes⟩ := landing?_eq_some landed
      have inside := inside_of_takesFile takes
      have stagingInside : (Place.ofPath (Path.staging path)).all
          Place.leadsOut = false :=
        inside_of_takesFile (by rw [takesFile, held])
      have arrived :
          ((staged.erase (Place.ofPath (Path.staging path))).set
            (Place.ofPath path) (.file content)).at? (Place.ofPath path) =
              some (.file content) :=
        at?_set_self inside
      refine
        { apart := apart
          whole := ?_
          fails := fun done => absurd done.symm Bool.false_ne_true
          succeeds := fun _ => ⟨content?_set_self inside, ?_, ?_⟩
          others := ?_ }
      · intro state member
        rcases List.mem_cons.mp member with rfl | member
        · exact .inl (readied _ apart.symm)
        · rcases List.mem_cons.mp member with rfl | member
          · exact .inl (kept _ apart.symm)
          · rw [List.mem_singleton.mp member]
            exact .inr (content?_set_self inside)
      · exact read_of_locate (locate_of_moved held landed) arrived namesFile
      · exact (at?_set_of_ne apart).trans (at?_erase_self stagingInside)
      · intro state member place elsewhere beside
        rcases List.mem_cons.mp member with rfl | member
        · exact readied place beside
        · rcases List.mem_cons.mp member with rfl | member
          · exact kept place beside
          · rw [List.mem_singleton.mp member,
              SameBut.set _ _ _ place elsewhere,
              SameBut.erase _ _ place beside]
            exact kept place beside

end Stagecraft.Files
