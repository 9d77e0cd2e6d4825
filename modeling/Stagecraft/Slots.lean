/-!
# Slots

A store that hands out ids in creation order and never reuses one. The id of an
entry is its position; a removed entry leaves an empty cell behind. Ids have no
upper bound. A counter of 64 bits that stops at its largest value hands out the
same ids for the first 2 ^ 64 - 1 entries, more than a run can create.
-/

namespace Stagecraft

universe u

/-- Entries by id. -/
structure Slots (α : Type u) where
  cells : Array (Option α)

namespace Slots

variable {α : Type u}

def empty : Slots α := ⟨#[]⟩

instance : Inhabited (Slots α) := ⟨empty⟩

def nextId (slots : Slots α) : Nat := slots.cells.size

def get? (slots : Slots α) (id : Nat) : Option α := slots.cells[id]?.join

/-- Whether an id has an entry. -/
def contains (slots : Slots α) (id : Nat) : Bool := (slots.get? id).isSome

def insert (slots : Slots α) (entry : α) : Slots α :=
  ⟨slots.cells.push (some entry)⟩

def erase (slots : Slots α) (id : Nat) : Slots α :=
  ⟨slots.cells.setIfInBounds id none⟩

def modify (slots : Slots α) (id : Nat) (change : α → α) : Slots α :=
  ⟨slots.cells.modify id (Option.map change)⟩

def filter (keep : Nat → α → Bool) (slots : Slots α) : Slots α :=
  ⟨slots.cells.mapIdx fun id cell => cell.filter (keep id)⟩

/-- All entries with their ids, in ascending order. -/
def entries (slots : Slots α) : List (Nat × α) :=
  slots.cells.toList.zipIdx.filterMap fun (cell, id) =>
    cell.map fun entry => (id, entry)

def count (slots : Slots α) : Nat := slots.cells.countP Option.isSome

/-! ## What an operation does to a look-up -/

@[simp]
theorem get?_empty (id : Nat) : (empty : Slots α).get? id = none := by
  simp [get?, empty]

theorem get?_insert (slots : Slots α) (entry : α) (id : Nat) :
    (slots.insert entry).get? id =
      if id = slots.nextId then some entry else slots.get? id := by
  simp only [get?, insert, nextId, Array.getElem?_push]
  split <;> simp_all

theorem get?_erase (slots : Slots α) (removed id : Nat) :
    (slots.erase removed).get? id =
      if id = removed then none else slots.get? id := by
  simp only [get?, erase, Array.getElem?_setIfInBounds]
  by_cases same : removed = id
  · subst same
    simp only [ite_true]
    split <;> simp
  · simp [same, Ne.symm same]

theorem get?_modify (slots : Slots α) (changed id : Nat) (change : α → α) :
    (slots.modify changed change).get? id =
      if id = changed then (slots.get? id).map change else slots.get? id := by
  simp only [get?, modify, Array.getElem?_modify]
  by_cases same : changed = id
  · subst same
    cases slots.cells[changed]? with
    | none => simp
    | some cell => cases cell <;> simp
  · simp [same, Ne.symm same]

/-- Nothing is stored under an id that was not handed out yet. -/
theorem get?_of_nextId_le (slots : Slots α) {id : Nat}
    (later : slots.nextId ≤ id) :
    slots.get? id = none := by
  rw [get?, Array.getElem?_eq_none later]
  rfl

theorem get?_filter (slots : Slots α) (keep : Nat → α → Bool) (id : Nat) :
    (slots.filter keep).get? id = (slots.get? id).filter (keep id) := by
  simp only [get?, filter, Array.getElem?_mapIdx]
  cases slots.cells[id]? <;> simp

/-- The entries are what the ids look up. -/
theorem mem_entries (slots : Slots α) (id : Nat) (entry : α) :
    (id, entry) ∈ slots.entries ↔ slots.get? id = some entry := by
  simp only [entries, get?, List.mem_filterMap, Prod.exists]
  constructor
  · rintro ⟨cell, position, member, same⟩
    have stored := List.mem_zipIdx_iff_getElem?.mp member
    cases cell with
    | none =>
        simp at same
    | some value =>
        simp only [Option.map_some, Option.some.injEq, Prod.mk.injEq] at same
        obtain ⟨rfl, rfl⟩ := same
        simp only [Array.getElem?_toList] at stored
        simp [stored]
  · intro stored
    refine ⟨some entry, id, ?_, rfl⟩
    rw [List.mem_zipIdx_iff_getElem?, Array.getElem?_toList]
    cases cell : slots.cells[id]? with
    | none => simp [cell] at stored
    | some value => simpa [cell] using stored

@[simp]
theorem nextId_insert (slots : Slots α) (entry : α) :
    (slots.insert entry).nextId = slots.nextId + 1 := by
  simp [nextId, insert]

@[simp]
theorem nextId_erase (slots : Slots α) (id : Nat) :
    (slots.erase id).nextId = slots.nextId := by
  simp [nextId, erase]

@[simp]
theorem nextId_modify (slots : Slots α) (id : Nat) (change : α → α) :
    (slots.modify id change).nextId = slots.nextId := by
  simp [nextId, modify]

/-- A change matters only by what it makes of the entry. -/
theorem modify_congr
    (slots : Slots α) (id : Nat) {change changeAgain : α → α}
    (same : ∀ entry, slots.get? id = some entry →
      change entry = changeAgain entry) :
    slots.modify id change = slots.modify id changeAgain := by
  have sameCell (cell : Option α) (stored : slots.cells[id]? = some cell) :
      cell.map change = cell.map changeAgain := by
    cases cell with
    | none => rfl
    | some entry =>
        exact congrArg some (same entry (by simp [get?, stored]))
  simp only [modify, mk.injEq]
  apply Array.ext_getElem?
  intro position
  rw [Array.getElem?_modify, Array.getElem?_modify]
  by_cases own : id = position
  · subst own
    rw [if_pos rfl, if_pos rfl]
    cases stored : slots.cells[id]? with
    | none => rfl
    | some cell => exact congrArg some (sameCell cell stored)
  · rw [if_neg own, if_neg own]

theorem modify_id (slots : Slots α) (id : Nat) :
    slots.modify id (fun entry => entry) = slots := by
  simp only [modify]
  congr 1
  apply Array.ext_getElem?
  intro position
  rw [Array.getElem?_modify]
  by_cases own : id = position
  · rw [if_pos own]
    cases slots.cells[position]? with
    | none => rfl
    | some cell => exact congrArg some Option.map_id'
  · rw [if_neg own]

theorem modify_modify (slots : Slots α) (id : Nat)
    (first second : α → α) :
    (slots.modify id first).modify id second =
      slots.modify id fun entry => second (first entry) := by
  simp only [modify, mk.injEq]
  apply Array.ext_getElem?
  intro position
  rw [Array.getElem?_modify, Array.getElem?_modify, Array.getElem?_modify]
  by_cases own : id = position
  · rw [if_pos own, if_pos own, if_pos own, Option.map_map]
    congr 1
    funext cell
    exact Option.map_map second first cell
  · rw [if_neg own, if_neg own, if_neg own]

/-- Without an entry there is nothing to change. -/
theorem modify_of_get?_eq_none
    (slots : Slots α) {id : Nat} (missing : slots.get? id = none)
    (change : α → α) :
    slots.modify id change = slots := by
  have kept : slots.modify id change = slots.modify id fun entry => entry :=
    slots.modify_congr id fun entry stored => by simp [missing] at stored
  rw [kept, modify_id]

/-- Removing an entry leaves one fewer. -/
theorem count_erase_lt (slots : Slots α) (id : Nat)
    (live : slots.contains id = true) :
    (slots.erase id).count < slots.count := by
  have inside : id < slots.cells.size := by
    apply Classical.byContradiction
    intro outside
    have missing : slots.cells[id]? = none := by
      simp only [Array.getElem?_eq_none_iff]
      omega
    simp [contains, get?, missing] at live
  have present : (slots.cells[id]).isSome = true := by
    simpa [contains, get?, Array.getElem?_eq_getElem inside] using live
  simp only [count, erase, Array.setIfInBounds, inside, dite_true]
  rw [Array.countP_set]
  have positive : 0 < slots.cells.countP Option.isSome := by
    rw [Array.countP_pos_iff]
    exact ⟨slots.cells[id], Array.getElem_mem inside, present⟩
  simp only [present, ite_true, Option.isSome_none, Bool.false_eq_true,
    ite_false]
  omega

end Slots

end Stagecraft
