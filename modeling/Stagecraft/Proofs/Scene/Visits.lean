import Mathlib.Data.List.Induction
import Stagecraft.Scene.Zone

/-!
# Visits to zones

What a zone shows is determined by the positions it was compared with and by the
reads of its trigger, in whatever order these come. A zone is entered when a
position lies inside and the one before did not; the entry waits until a script
reads it, also when the position has gone meanwhile.
-/

namespace Stagecraft

/-! ## Histories -/

/-- Something that the zones of a scene take notice of: a position is compared with
all of them, or a script reads the trigger of one. -/
inductive ZoneUse where
  | track (position : Vec3)
  | take (index : Nat)
deriving DecidableEq

namespace ZoneUse

/-- The position that is compared. -/
def position? : ZoneUse → Option Vec3
  | .track position => some position
  | .take _ => none

def apply (zones : List Zone) : ZoneUse → List Zone
  | .track position => trackZones zones position
  | .take index => zones.modify index Zone.taken

end ZoneUse

def positions (uses : List ZoneUse) : List Vec3 :=
  uses.filterMap ZoneUse.position?

def zonesAfter (zones : List Zone) (uses : List ZoneUse) : List Zone :=
  uses.foldl ZoneUse.apply zones

theorem zonesAfter_append (zones : List Zone) (first second : List ZoneUse) :
    zonesAfter zones (first ++ second) =
      zonesAfter (zonesAfter zones first) second :=
  List.foldl_append

namespace Zone

/-- Whether the position that was compared last lies in the zone. -/
def inside (zone : Zone) (uses : List ZoneUse) : Bool :=
  (positions uses).getLast?.any zone.contains

/-- Whether some position that was compared lies in the zone. -/
def visited (zone : Zone) (uses : List ZoneUse) : Bool :=
  (positions uses).any zone.contains

/-- Whether a position that is compared next enters the zone: it lies inside, and
the one before does not, if there was one. -/
def enters (zone : Zone) (uses : List ZoneUse) (position : Vec3) : Bool :=
  zone.contains position && !zone.inside uses

/-- Whether a zone was entered, and what has happened since it was entered last. -/
inductive SinceEntry (zone : Zone) : List ZoneUse → List ZoneUse → Prop where
  | entry {uses : List ZoneUse} {position : Vec3}
      (enters : zone.enters uses position = true) :
      SinceEntry zone (uses ++ [.track position]) []
  | later {uses since : List ZoneUse} {use : ZoneUse}
      (earlier : SinceEntry zone uses since)
      (stays : ∀ position, use = .track position →
        zone.enters uses position = false) :
      SinceEntry zone (uses ++ [use]) (since ++ [use])

variable {zone : Zone} {index : Nat} {uses since : List ZoneUse}
  {position : Vec3} {use : ZoneUse}

@[simp]
theorem inside_track :
    zone.inside (uses ++ [.track position]) = zone.contains position := by
  simp [inside, positions, ZoneUse.position?]

@[simp]
theorem inside_take :
    zone.inside (uses ++ [.take index]) = zone.inside uses := by
  simp [inside, positions, ZoneUse.position?]

@[simp]
theorem visited_track :
    zone.visited (uses ++ [.track position]) =
      (zone.visited uses || zone.contains position) := by
  simp [visited, positions, ZoneUse.position?]

@[simp]
theorem visited_take :
    zone.visited (uses ++ [.take index]) = zone.visited uses := by
  simp [visited, positions, ZoneUse.position?]

/-- The last position is one of all. -/
theorem visited_of_inside (inside : zone.inside uses = true) :
    zone.visited uses = true := by
  unfold Zone.inside at inside
  cases last : (positions uses).getLast? with
  | none => simp [last] at inside
  | some position =>
      rw [last] at inside
      exact List.any_eq_true.mpr
        ⟨position, List.mem_of_getLast? last, inside⟩

theorem not_sinceEntry_nil : ¬ zone.SinceEntry [] since := by
  intro began
  generalize same : ([] : List ZoneUse) = uses at began
  cases began with
  | entry enters => simp at same
  | later earlier stays => simp at same

/-- What has happened since the last entry, one use later. -/
theorem sinceEntry_concat :
    zone.SinceEntry (uses ++ [use]) since ↔
      (∃ position, use = .track position ∧
        zone.enters uses position = true ∧ since = []) ∨
      (∃ before, zone.SinceEntry uses before ∧ since = before ++ [use] ∧
        ∀ position, use = .track position →
          zone.enters uses position = false) := by
  constructor
  · intro began
    generalize same : uses ++ [use] = all at began
    cases began with
    | entry enters =>
        obtain ⟨rfl, last⟩ := List.append_inj' same rfl
        exact .inl ⟨_, (List.cons.inj last).1, enters, rfl⟩
    | later earlier stays =>
        obtain ⟨rfl, last⟩ := List.append_inj' same rfl
        obtain ⟨rfl, -⟩ := List.cons.inj last
        exact .inr ⟨_, earlier, rfl, stays⟩
  · rintro (⟨position, rfl, enters, rfl⟩ | ⟨before, earlier, rfl, stays⟩)
    · exact .entry enters
    · exact .later earlier stays

/-- Whether the last entry to a zone, if there was one, has not been read. -/
def Waits (zone : Zone) (index : Nat) (uses : List ZoneUse) : Prop :=
  ∃ since, zone.SinceEntry uses since ∧ .take index ∉ since

theorem not_waits_nil : ¬ zone.Waits index [] :=
  fun ⟨_, began, _⟩ => not_sinceEntry_nil began

/-- An entry waits at first, and goes on waiting wherever the position goes. -/
theorem waits_track :
    zone.Waits index (uses ++ [.track position]) ↔
      zone.enters uses position = true ∨ zone.Waits index uses := by
  constructor
  · rintro ⟨since, began, unread⟩
    rcases sinceEntry_concat.mp began with
      ⟨other, same, enters, -⟩ | ⟨before, earlier, rfl, -⟩
    · obtain rfl := ZoneUse.track.inj same
      exact .inl enters
    · refine .inr ⟨before, earlier, fun read => unread ?_⟩
      exact List.mem_append_left _ read
  · intro waits
    cases enters : zone.enters uses position with
    | true => exact ⟨[], .entry enters, List.not_mem_nil⟩
    | false =>
        rcases waits with entersToo | ⟨since, began, unread⟩
        · rw [enters] at entersToo
          cases entersToo
        · refine ⟨since ++ [.track position], .later began ?_, ?_⟩
          · rintro other same
            obtain rfl := ZoneUse.track.inj same
            exact enters
          · simpa using unread

/-- A read of its own trigger ends the waiting, a read of another one does not. -/
theorem waits_take {read : Nat} :
    zone.Waits index (uses ++ [.take read]) ↔
      read ≠ index ∧ zone.Waits index uses := by
  constructor
  · rintro ⟨since, began, unread⟩
    rcases sinceEntry_concat.mp began with
      ⟨position, same, -, -⟩ | ⟨before, earlier, rfl, -⟩
    · cases same
    · simp only [List.mem_append, List.mem_singleton, not_or] at unread
      exact ⟨fun same => unread.2 (by rw [same]), before, earlier, unread.1⟩
  · rintro ⟨other, since, began, unread⟩
    refine ⟨since ++ [.take read], .later began (by simp), ?_⟩
    simp [unread, other.symm]

/-! ## What a zone shows -/

/-- One zone of a scene after a use. -/
def used (index : Nat) (zone : Zone) : ZoneUse → Zone
  | .track position => zone.track position
  | .take read => if read = index then zone.taken else zone

/-- Whether a zone is an earlier one but for its state, and its state is what a
history makes of it. -/
structure Shows (zone : Zone) (index : Nat) (uses : List ZoneUse)
    (now : Zone) : Prop where
  box : now.reset = zone.reset
  entered : now.state.entered = zone.inside uses
  ended : now.state.ended = (zone.visited uses && !zone.inside uses)
  pending : now.state.pending = true ↔ zone.Waits index uses

theorem contains_of_reset {now : Zone} (same : now.reset = zone.reset) :
    now.contains = zone.contains := by
  have low : now.low = zone.low := (congrArg Zone.low same :)
  have high : now.high = zone.high := (congrArg Zone.high same :)
  funext position
  rw [contains, contains, low, high]

theorem shows_reset (zone : Zone) (index : Nat) :
    zone.Shows index [] zone.reset :=
  ⟨rfl, rfl, rfl, by simpa [reset, ZoneState.quiet] using not_waits_nil⟩

theorem Shows.isEntry {now : Zone} (shows_ : zone.Shows index uses now)
    (position : Vec3) : now.isEntry position = zone.enters uses position := by
  rw [Zone.isEntry, Zone.enters, contains_of_reset shows_.box, shows_.entered]

/-- A comparison in terms of the three flags, whichever way the position goes. -/
theorem track_eq (zone : Zone) (position : Vec3) :
    zone.track position =
      { zone with
        state :=
          { entered := zone.contains position
            pending := zone.isEntry position || zone.state.pending
            ended :=
              if zone.contains position then
                zone.state.entered && zone.state.ended
              else
                zone.state.entered || zone.state.ended } } := by
  unfold track isEntry
  by_cases lies : zone.contains position = true
  · rw [if_pos lies, if_pos lies, lies, enter]
    obtain ⟨name, kind, low, high, node, entered, pending, ended⟩ := zone
    cases entered <;> simp
  · rw [Bool.not_eq_true] at lies
    rw [lies, leave]
    obtain ⟨name, kind, low, high, node, entered, pending, ended⟩ := zone
    cases entered <;> simp

theorem Shows.track {now : Zone} (shows_ : zone.Shows index uses now)
    (position : Vec3) :
    zone.Shows index (uses ++ [.track position]) (now.track position) := by
  have contains := congrFun (contains_of_reset shows_.box) position
  rw [track_eq, shows_.isEntry, contains, shows_.entered, shows_.ended]
  refine ⟨shows_.box, inside_track.symm, ?_, ?_⟩
  · rw [inside_track, visited_track]
    by_cases lies : zone.contains position = true
    · rw [if_pos lies, lies]
      cases zone.inside uses <;> simp
    · rw [Bool.not_eq_true] at lies
      rw [lies]
      cases was : zone.inside uses with
      | true => simp [visited_of_inside was]
      | false => simp
  · simp [waits_track, shows_.pending]

theorem Shows.take {now : Zone} (shows_ : zone.Shows index uses now)
    (read : Nat) :
    zone.Shows index (uses ++ [.take read]) (now.used index (.take read)) := by
  simp only [Zone.used]
  by_cases own : read = index
  · subst own
    rw [if_pos rfl]
    refine ⟨shows_.box, ?_, ?_, ?_⟩
    · rw [inside_take]
      exact shows_.entered
    · rw [inside_take, visited_take]
      exact shows_.ended
    · simp [waits_take, taken]
  · rw [if_neg own]
    refine ⟨shows_.box, ?_, ?_, ?_⟩
    · simpa using shows_.entered
    · simpa using shows_.ended
    · simp [waits_take, own, shows_.pending]

/-- A zone that has noticed nothing comes to show what its history makes of it. -/
theorem shows_of_history (zone : Zone) (index : Nat) (uses : List ZoneUse) :
    zone.Shows index uses (uses.foldl (Zone.used index) zone.reset) := by
  induction uses using List.reverseRecOn with
  | nil => exact zone.shows_reset index
  | append_singleton earlier use inductionHypothesis =>
      rw [List.foldl_append]
      cases use with
      | track position => exact inductionHypothesis.track position
      | take read => exact inductionHypothesis.take read

end Zone

/-! ## All zones of a scene -/

theorem getElem?_zonesAfter (zones : List Zone) (uses : List ZoneUse)
    (index : Nat) :
    (zonesAfter zones uses)[index]? =
      zones[index]?.map fun zone => uses.foldl (Zone.used index) zone := by
  induction uses generalizing zones with
  | nil => simp [zonesAfter]
  | cons use rest inductionHypothesis =>
      have first :
          (use.apply zones)[index]? =
            zones[index]?.map fun zone => zone.used index use := by
        cases use with
        | track position => exact List.getElem?_map
        | take read =>
            simp only [ZoneUse.apply, Zone.used, List.getElem?_modify]
            cases zones[index]? with
            | none => rfl
            | some zone => by_cases own : read = index <;> simp [own]
      have later := inductionHypothesis (use.apply zones)
      rw [first, Option.map_map] at later
      exact later

theorem length_zonesAfter (zones : List Zone) (uses : List ZoneUse) :
    (zonesAfter zones uses).length = zones.length := by
  induction uses generalizing zones with
  | nil => rfl
  | cons use rest inductionHypothesis =>
      have first : (use.apply zones).length = zones.length := by
        cases use with
        | track position => exact List.length_map ..
        | take read => exact List.length_modify ..
      exact (inductionHypothesis (use.apply zones)).trans first

/-- Zones that have noticed nothing come to show what their history makes of
them. -/
theorem shows_zonesAfter
    {zones : List Zone} {index : Nat} {zone : Zone}
    (found : zones[index]? = some zone) (uses : List ZoneUse) :
    ∃ now, (zonesAfter (zones.map Zone.reset) uses)[index]? = some now ∧
      zone.Shows index uses now := by
  refine ⟨_, ?_, zone.shows_of_history index uses⟩
  rw [getElem?_zonesAfter, List.getElem?_map, found]
  rfl

/-- To pick places by what stands there. -/
theorem filterMap_zipIdx {α : Type} (test : α → Bool) (items : List α)
    (start : Nat) :
    (items.zipIdx start).filterMap
        (fun (item, index) => if test item then some index else none) =
      (List.range' start items.length).filter fun index =>
        items[index - start]?.any test := by
  induction items generalizing start with
  | nil => rfl
  | cons item rest inductionHypothesis =>
      have shifted :
          (List.range' (start + 1) rest.length).filter
              (fun index => rest[index - (start + 1)]?.any test) =
            (List.range' (start + 1) rest.length).filter
              (fun index => (item :: rest)[index - start]?.any test) := by
        refine List.filter_congr fun index member => ?_
        have beyond : start + 1 ≤ index := (List.mem_range'_1.mp member).1
        obtain ⟨more, rfl⟩ := Nat.exists_eq_add_of_le beyond
        have place : start + 1 + more - start = more + 1 := by omega
        rw [place, Nat.add_sub_cancel_left, List.getElem?_cons_succ]
      rw [List.zipIdx_cons, List.filterMap_cons, inductionHypothesis, shifted,
        List.length_cons, List.range'_succ, List.filter_cons]
      cases kept : test item <;> simp [kept]

/-- The zones that a position enters are reported once each and in ascending
order. -/
theorem entriesAt_zonesAfter (zones : List Zone) (uses : List ZoneUse)
    (position : Vec3) :
    entriesAt (zonesAfter (zones.map Zone.reset) uses) position =
      (List.range zones.length).filter fun index =>
        zones[index]?.any fun zone => zone.enters uses position := by
  refine (filterMap_zipIdx (fun zone : Zone => zone.isEntry position) _ 0).trans ?_
  rw [length_zonesAfter, List.length_map, ← List.range_eq_range']
  refine List.filter_congr fun index _ => ?_
  cases found : zones[index]? with
  | none => simp [getElem?_zonesAfter, found]
  | some zone =>
      obtain ⟨now, there, shows_⟩ := shows_zonesAfter found uses
      simp [there, shows_.isEntry]

end Stagecraft
