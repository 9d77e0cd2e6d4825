import Mathlib.Data.List.Perm.Basic
import Mathlib.Data.List.Nodup
import Stagecraft.Script.Spelling

/-!
# Tagged values

However a tag and its fields are written, the decoder finds the same tag and the
same fields, and the reader of a text takes the value in as it is.
-/

namespace Stagecraft

namespace Json

/-! ## Members in any order -/

theorem filter_key_of_mem {fields : List (String × Json)} {key : String}
    {value : Json} (distinct : (fields.map Prod.fst).Nodup)
    (listed : (key, value) ∈ fields) :
    fields.filter (fun member => member.1 == key) = [(key, value)] := by
  induction fields with
  | nil => cases listed
  | cons head rest inductionHypothesis =>
      obtain ⟨notAgain, restDistinct⟩ := List.nodup_cons.mp distinct
      rcases List.mem_cons.mp listed with rfl | inRest
      · have others : rest.filter (fun member => member.1 == key) = [] := by
          refine List.filter_eq_nil_iff.mpr fun member inRest same => ?_
          exact notAgain (List.mem_map.mpr ⟨member, inRest, eq_of_beq same⟩)
        rw [List.filter_cons_of_pos (by simp), others]
      · have apart : head.1 ≠ key := fun same =>
          notAgain (same ▸ List.mem_map_of_mem inRest)
        rw [List.filter_cons_of_neg (by simpa using apart),
          inductionHypothesis restDistinct inRest]

section Members

variable {members fields : List (String × Json)}
  (reordered : members.Perm fields) (distinct : (fields.map Prod.fst).Nodup)

include reordered distinct

theorem sole?_of_mem {key : String} {value : Json}
    (listed : (key, value) ∈ fields) : sole? key members = some value := by
  have only := reordered.filter fun member => member.1 == key
  rw [filter_key_of_mem distinct listed, List.perm_singleton] at only
  rw [sole?, only]

theorem mapM_sole? {wanted : List (String × Json)} (within : wanted ⊆ fields) :
    (wanted.map Prod.fst).mapM (fun name => sole? name members) =
      some (wanted.map Prod.snd) := by
  induction wanted with
  | nil => rfl
  | cons head rest inductionHypothesis =>
      obtain ⟨headWithin, restWithin⟩ := List.cons_subset.mp within
      rw [List.map_cons, List.mapM_cons,
        sole?_of_mem reordered distinct headWithin,
        inductionHypothesis restWithin]
      rfl

theorem fields?_object :
    fields? (fields.map Prod.fst) (.object members) =
      some (fields.map Prod.snd) :=
  mapM_sole? reordered distinct (List.Subset.refl fields)

end Members

theorem fields?_array (fields : List (String × Json)) :
    fields? (fields.map Prod.fst) (.array (fields.map Prod.snd)) =
      some (fields.map Prod.snd) := by
  simp [fields?]

/-! ## Levels -/

theorem depth_le_depthItems {items : List Json} {item : Json}
    (listed : item ∈ items) : item.depth ≤ depthItems items := by
  induction items with
  | nil => cases listed
  | cons head rest inductionHypothesis =>
      rw [depthItems]
      rcases List.mem_cons.mp listed with rfl | inRest
      · exact Nat.le_max_left _ _
      · exact Nat.le_trans (inductionHypothesis inRest) (Nat.le_max_right _ _)

theorem depthMembers_eq (members : List (String × Json)) :
    depthMembers members = depthItems (members.map Prod.snd) := by
  induction members with
  | nil => rfl
  | cons head rest inductionHypothesis =>
      rw [depthMembers, List.map_cons, depthItems, inductionHypothesis]

/-! ## Tags and fields -/

section Tagged

variable {key tag : String} {fields : List (String × Json)} {json : Json}
  (tagged : json.IsTagged key tag fields)

include tagged

/-- The tag and the fields are told apart. -/
theorem IsTagged.untag (distinct : (key :: fields.map Prod.fst).Nodup) :
    ∃ body, json.untag? key = some (.text tag, body) ∧
      body.fields? (fields.map Prod.fst) = some (fields.map Prod.snd) := by
  obtain ⟨notAgain, fieldsDistinct⟩ := List.nodup_cons.mp distinct
  cases tagged with
  | @object members reordered =>
      have own := sole?_of_mem reordered distinct List.mem_cons_self
      have others := reordered.filter fun member => member.1 != key
      have untouched :
          fields.filter (fun member => member.1 != key) = fields := by
        refine List.filter_eq_self.mpr fun member listed => ?_
        refine bne_iff_ne.mpr fun same => notAgain ?_
        exact same ▸ List.mem_map_of_mem listed
      rw [List.filter_cons_of_neg (by simp), untouched] at others
      refine ⟨_, ?_, fields?_object others fieldsDistinct⟩
      rw [untag?, own]
      rfl
  | array => exact ⟨_, rfl, fields?_array fields⟩

/-- A field has fewer levels than the value. -/
theorem IsTagged.depth_lt {name : String} {field : Json}
    (listed : (name, field) ∈ fields) : field.depth < json.depth := by
  cases tagged with
  | object reordered =>
      have inside := reordered.mem_iff.mpr (List.mem_cons_of_mem _ listed)
      rw [depth, depthMembers_eq]
      exact Nat.lt_succ_of_le
        (depth_le_depthItems (List.mem_map_of_mem inside))
  | array =>
      have inside : field ∈ Json.text tag :: fields.map Prod.snd :=
        List.mem_cons_of_mem _ (List.mem_map_of_mem listed)
      rw [depth]
      exact Nat.lt_succ_of_le (depth_le_depthItems inside)

end Tagged

end Json

/-! ## Whole values -/

theorem exists_of_bind_eq_ok {ε α β : Type} {first : Except ε α}
    {next : α → Except ε β} {last : β} (comes : first >>= next = .ok last) :
    ∃ middle, first = .ok middle ∧ next middle = .ok last := by
  cases first with
  | error => cases comes
  | ok middle => exact ⟨middle, rfl, comes⟩

namespace Fragment

variable {enclosing : Nat} {fragment : Fragment}

/-- What a fragment is whose whole value is a text or a container. -/
theorem exists_of_whole {json : Json}
    (whole : fragment.whole enclosing = .ok json) :
    match json with
    | .text name => ∃ quoted, fragment = .text quoted ∧ quoted.text = .ok name
    | .array items => ∃ parts ending, fragment = .array parts ending ∧
        enter enclosing = .ok () ∧
        wholeItems (enclosing + 1) ending parts = .ok items
    | .object members => ∃ parts ending, fragment = .object parts ending ∧
        enter enclosing = .ok () ∧
        wholeMembers (enclosing + 1) ending parts = .ok members
    | _ => True := by
  cases fragment with
  | null | bool =>
      cases whole
      trivial
  | number numeral =>
      rw [Fragment.whole] at whole
      split at whole
      · cases whole
        trivial
      · cases whole
  | text quoted =>
      rw [Fragment.whole] at whole
      cases spelled : quoted.text with
      | error =>
          rw [spelled] at whole
          cases whole
      | ok name =>
          rw [spelled] at whole
          cases whole
          exact ⟨quoted, rfl, spelled⟩
  | array parts ending =>
      rw [Fragment.whole] at whole
      obtain ⟨_, entered, whole⟩ := exists_of_bind_eq_ok whole
      obtain ⟨items, itemsWhole, whole⟩ := exists_of_bind_eq_ok whole
      cases whole
      exact ⟨parts, ending, rfl, entered, itemsWhole⟩
  | object parts ending =>
      rw [Fragment.whole] at whole
      obtain ⟨_, entered, whole⟩ := exists_of_bind_eq_ok whole
      obtain ⟨members, membersWhole, whole⟩ := exists_of_bind_eq_ok whole
      cases whole
      exact ⟨parts, ending, rfl, entered, membersWhole⟩
  | cutNumber | broken => cases whole

end Fragment

/-! ## Reading a text -/

namespace Reader

variable {key : String} {known : List String} {enclosing : Nat} {name : String}
  (listed : name ∈ known)

include listed

theorem tag_of_whole {fragment : Fragment}
    (whole : fragment.whole enclosing = .ok (.text name)) :
    tag known fragment = .ok name := by
  obtain ⟨quoted, rfl, spelled⟩ := Fragment.exists_of_whole whole
  simp [tag, text, spelled, readable, listed, bind, Except.bind]

/-- Members are taken in as they are, if the tag comes once: before, or among
them. -/
theorem taggedMembers_of_whole {ending : Option Fault}
    {fragments : List (Quoted × Fragment)} {members : List (String × Json)}
    {found : Bool}
    (whole : Fragment.wholeMembers enclosing ending fragments = .ok members)
    (once : members.filter (fun member => member.1 == key) =
      if found then [] else [(key, .text name)]) :
    taggedMembers key known enclosing ending found fragments = .ok members := by
  induction fragments generalizing found members with
  | nil =>
      rw [Fragment.wholeMembers] at whole
      cases ending with
      | some => cases whole
      | none =>
          cases whole
          cases found with
          | false => cases once
          | true => rfl
  | cons head rest inductionHypothesis =>
      obtain ⟨quoted, member⟩ := head
      rw [Fragment.wholeMembers] at whole
      obtain ⟨own, named, whole⟩ := exists_of_bind_eq_ok whole
      obtain ⟨value, valueWhole, whole⟩ := exists_of_bind_eq_ok whole
      obtain ⟨others, othersWhole, whole⟩ := exists_of_bind_eq_ok whole
      cases whole
      rw [taggedMembers, named]
      by_cases isTag : own = key
      · subst isTag
        rw [List.filter_cons_of_pos (by simp)] at once
        cases found with
        | true => cases once
        | false =>
            obtain ⟨same, none⟩ := List.cons.inj once
            cases same
            have tagRead := tag_of_whole listed valueWhole
            have othersRead :
                taggedMembers own known enclosing ending true rest =
                  .ok others :=
              inductionHypothesis othersWhole none
            simp [readable, part, tagRead, othersRead, bind, Except.bind, pure,
              Except.pure]
      · rw [List.filter_cons_of_neg (by simpa using isTag)] at once
        have othersRead := inductionHypothesis othersWhole once
        simp [readable, isTag, valueWhole, othersRead, bind, Except.bind, pure,
          Except.pure]

/-- A tagged value is taken in as it is. -/
theorem tagged_of_whole {fields : List (String × Json)} {json : Json}
    (isTagged : json.IsTagged key name fields)
    (distinct : (key :: fields.map Prod.fst).Nodup) {fragment : Fragment}
    (whole : fragment.whole enclosing = .ok json) :
    tagged key known enclosing fragment = .ok json := by
  cases isTagged with
  | object reordered =>
      obtain ⟨parts, ending, rfl, entered, membersWhole⟩ :=
        Fragment.exists_of_whole whole
      have once := reordered.filter fun member => member.1 == key
      rw [Json.filter_key_of_mem (by exact distinct) List.mem_cons_self,
        List.perm_singleton] at once
      have read :
          taggedMembers key known (enclosing + 1) ending false parts = .ok _ :=
        taggedMembers_of_whole listed membersWhole once
      simp [tagged, entered, read, readable, bind, Except.bind, pure,
        Except.pure]
  | array =>
      obtain ⟨parts, ending, rfl, entered, itemsWhole⟩ :=
        Fragment.exists_of_whole whole
      cases parts with
      | nil =>
          rw [Fragment.wholeItems] at itemsWhole
          cases ending <;> cases itemsWhole
      | cons first rest =>
          rw [Fragment.wholeItems] at itemsWhole
          obtain ⟨value, valueWhole, itemsWhole⟩ :=
            exists_of_bind_eq_ok itemsWhole
          obtain ⟨others, othersWhole, itemsWhole⟩ :=
            exists_of_bind_eq_ok itemsWhole
          cases itemsWhole
          have tagRead := tag_of_whole listed valueWhole
          simp [tagged, entered, part, tagRead, othersWhole, readable, bind,
            Except.bind, pure, Except.pure]

end Reader

end Stagecraft
