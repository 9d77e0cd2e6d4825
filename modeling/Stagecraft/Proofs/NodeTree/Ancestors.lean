import Mathlib.Data.Fintype.EquivFin
import Stagecraft.Proofs.NodeTree.Clearing

/-!
# Ancestors

In a forest no node is its own ancestor, so that the way up from every node comes to
an end. Edits keep a forest a forest, with one exception: a node that is hung below
a node of its own subtree is its own ancestor from then on.
-/

namespace Stagecraft

namespace NodeTree

/-- Whether parents lead from a node up to another one, in at least one step. -/
def IsAncestor (tree : NodeTree) (above id : NodeId) : Prop :=
  Relation.TransGen (fun below parent => tree.parentOf below = some parent)
    id above

/-- Whether no node is its own ancestor. -/
def IsForest (tree : NodeTree) : Prop := ∀ id, ¬ tree.IsAncestor id id

/-- Whether a node is there and parents lead from it, in finitely many steps, to a
node without a parent. -/
inductive Tops (tree : NodeTree) : NodeId → Prop where
  | free {id : NodeId} (live : (tree.node? id).isSome)
      (parentless : tree.parentOf id = none) : Tops tree id
  | under {id parent : NodeId} (hangs : tree.parentOf id = some parent)
      (onward : Tops tree parent) : Tops tree id

/-- Whether an edit asks to hang a node below another one of its own subtree. -/
def ClosesLoop (tree : NodeTree) : NodeEdit → Prop
  | .addChild parent child => parent ≠ child ∧ tree.LeadsTo child parent
  | _ => False

/-! ## Ways up -/

section WaysUp

variable {tree after : NodeTree} {id parent child : NodeId}

theorem Tops.isSome (tops : tree.Tops id) : (tree.node? id).isSome := by
  cases tops with
  | free live _ => exact live
  | under hangs _ => exact isSome_of_parentOf hangs

/-- A way up that comes to an end does not come back to where it began. -/
theorem Tops.not_isAncestor_self (tops : tree.Tops id) :
    ¬ tree.IsAncestor id id := by
  induction tops with
  | free _ parentless =>
      intro circle
      obtain ⟨parent, hangs, _⟩ := Relation.TransGen.head'_iff.mp circle
      rw [parentless] at hangs
      cases hangs
  | @under id parent hangs _ inductionHypothesis =>
      intro circle
      -- The circle goes through the parent, so it is one of the parent as well.
      obtain ⟨first, up, onward⟩ := Relation.TransGen.head'_iff.mp circle
      obtain rfl : parent = first := Option.some.inj (hangs.symm.trans up)
      exact inductionHypothesis (.tail' onward hangs)

/-- Fewer parents make no new ancestors. -/
theorem IsForest.of_parents (forest : tree.IsForest)
    (fewer : ∀ id parent, after.parentOf id = some parent →
      tree.parentOf id = some parent) :
    after.IsForest :=
  fun id circle => forest id (Relation.TransGen.mono fewer _ _ circle)

/-- Among finitely many nodes, a way up that never comes back comes to an end. -/
theorem IsForest.tops (forest : tree.IsForest) (linked : tree.Linked)
    (live : (tree.node? id).isSome) : tree.Tops id := by
  let Above (above below : Fin tree.nextId) : Prop :=
    tree.IsAncestor above below
  have : IsTrans (Fin tree.nextId) Above :=
    ⟨fun _ _ _ first second => second.trans first⟩
  have : Std.Irrefl Above := ⟨fun above => forest above⟩
  have wellFounded : WellFounded Above :=
    Finite.wellFounded_of_trans_of_irrefl Above
  have inside {id : NodeId} (live : (tree.node? id).isSome) :
      id < tree.nextId := by
    obtain ⟨node, found⟩ := Option.isSome_iff_exists.mp live
    exact lt_nextId_of_node? found
  have climbs (place : Fin tree.nextId) :
      (tree.node? place).isSome → tree.Tops place := by
    induction place using wellFounded.induction with
    | h place inductionHypothesis =>
        intro live
        cases hangs : tree.parentOf place with
        | none => exact .free live hangs
        | some parent =>
            have liveToo : (tree.node? parent).isSome :=
              isSome_of_mem_childrenOf ((linked.listed parent place).mpr hangs)
            exact .under hangs
              (inductionHypothesis ⟨parent, inside liveToo⟩ (.single hangs)
                liveToo)
  exact climbs ⟨id, inside live⟩ live

/-- A tree is a forest if and only if the way up from every node comes to an
end. -/
theorem isForest_iff_tops (linked : tree.Linked) :
    tree.IsForest ↔ ∀ id, (tree.node? id).isSome → tree.Tops id := by
  constructor
  · intro forest id live
    exact forest.tops linked live
  · intro tops id circle
    obtain ⟨parent, hangs, _⟩ := Relation.TransGen.head'_iff.mp circle
    exact (tops id (isSome_of_parentOf hangs)).not_isAncestor_self circle

/-- Child lists lead down where parents lead up. -/
theorem leadsTo_iff (linked : tree.Linked) :
    tree.LeadsTo child parent ↔
      Relation.ReflTransGen
        (fun below above => tree.parentOf below = some above) parent child := by
  unfold LeadsTo
  simp only [linked.listed]
  exact Relation.reflTransGen_swap

end WaysUp

/-! ## World positions -/

section WorldPositions

variable {tree : NodeTree} {id : NodeId}

/-- A way up that comes to an end is a chain of different nodes, and as many steps
as the chain has nodes are enough to climb it. -/
theorem Tops.exists_chain (tops : tree.Tops id) :
    ∃ chain : List NodeId,
      chain.Nodup ∧
        (∀ above ∈ chain, tree.IsAncestor above id ∧ above < tree.nextId) ∧
          ∀ steps, chain.length ≤ steps → ∀ sum,
            (tree.climb steps sum (tree.parentOf id)).isSome := by
  induction tops with
  | free _ parentless =>
      refine ⟨[], List.nodup_nil, by simp, fun steps _ sum => ?_⟩
      rw [parentless, climb]
      rfl
  | @under id parent hangs onward inductionHypothesis =>
      obtain ⟨chain, nodup, ancestors, climbs⟩ := inductionHypothesis
      obtain ⟨node, found⟩ := Option.isSome_iff_exists.mp onward.isSome
      have new : parent ∉ chain := fun member =>
        onward.not_isAncestor_self (ancestors parent member).1
      refine ⟨parent :: chain, List.nodup_cons.mpr ⟨new, nodup⟩, ?_, ?_⟩
      · rw [List.forall_mem_cons]
        refine ⟨⟨.single hangs, lt_nextId_of_node? found⟩, ?_⟩
        intro above member
        obtain ⟨higher, inside⟩ := ancestors above member
        exact ⟨.head hangs higher, inside⟩
      · intro steps enough sum
        obtain ⟨fewer, rfl⟩ : ∃ fewer, steps = fewer + 1 :=
          Nat.exists_eq_add_one.mpr
            (Nat.lt_of_lt_of_le (Nat.succ_pos chain.length) enough)
        have climbed :=
          climbs fewer (Nat.le_of_succ_le_succ enough) (sum + node.position)
        rw [parentOf_of_found found] at climbed
        rw [hangs, climb, found]
        exact climbed

theorem tops_of_climb (live : (tree.node? id).isSome) {steps : Nat} {sum : Vec3}
    (climbs : (tree.climb steps sum (tree.parentOf id)).isSome) :
    tree.Tops id := by
  induction steps generalizing id sum with
  | zero =>
      cases hangs : tree.parentOf id with
      | none => exact .free live hangs
      | some parent => simp [hangs, climb] at climbs
  | succ steps inductionHypothesis =>
      cases hangs : tree.parentOf id with
      | none => exact .free live hangs
      | some parent =>
          rw [hangs, climb] at climbs
          cases found : tree.node? parent with
          | none => simp [found] at climbs
          | some node =>
              rw [found] at climbs
              dsimp only at climbs
              rw [← parentOf_of_found found] at climbs
              exact .under hangs
                (inductionHypothesis (Option.isSome_of_mem found) climbs)

/-- A node has a position in the world if and only if the way up from it comes to
an end. -/
theorem worldPosition_isSome_iff (tree : NodeTree) (id : NodeId) :
    (tree.worldPosition id).isSome ↔ tree.Tops id := by
  unfold worldPosition
  cases found : tree.node? id with
  | none =>
      refine iff_of_false Bool.false_ne_true fun tops => ?_
      simpa [found] using tops.isSome
  | some node =>
      dsimp only
      rw [← parentOf_of_found found]
      constructor
      · exact tops_of_climb (Option.isSome_of_mem found)
      · intro tops
        obtain ⟨chain, nodup, ancestors, climbs⟩ := tops.exists_chain
        have listed : chain ⊆ List.range tree.nextId := fun above member =>
          List.mem_range.mpr (ancestors above member).2
        have short : chain.length ≤ tree.nextId := by
          simpa using (nodup.subperm listed).length_le
        exact climbs tree.nextId short node.position

end WorldPositions

/-! ## Loops -/

section Loops

variable {tree after : NodeTree} {id parent child : NodeId}

/-- Both ends of a way down are there, if it leads somewhere else. -/
theorem isSome_of_closesLoop (linked : tree.Linked)
    (closes : tree.ClosesLoop (.addChild parent child)) :
    (tree.node? parent).isSome ∧ (tree.node? child).isSome := by
  obtain ⟨apart, leads⟩ := closes
  constructor
  · rcases leads.cases_tail with same | ⟨above, _, listed⟩
    · exact absurd same apart
    · exact linked.isSome_child listed
  · rcases leads.cases_head with same | ⟨below, listed, _⟩
    · exact absurd same.symm apart
    · exact isSome_of_mem_childrenOf listed

/-- The way up to a node is the same whatever parent that node has. -/
theorem up_of_parents
    (same : ∀ id, id ≠ child → after.parentOf id = tree.parentOf id)
    (up : Relation.ReflTransGen
      (fun below above => tree.parentOf below = some above) id child) :
    Relation.ReflTransGen
      (fun below above => after.parentOf below = some above) id child := by
  induction up using Relation.ReflTransGen.head_induction_on with
  | refl => exact .refl
  | @head below above hangs _ inductionHypothesis =>
      by_cases own : below = child
      · rw [own]
      · refine .head ?_ inductionHypothesis
        rw [same below own]
        exact hangs

/-- A way up that does not meet a node is the same whatever parent that node
has. -/
theorem Tops.of_parents
    (same : ∀ id, id ≠ child → after.parentOf id = tree.parentOf id)
    (live : ∀ id, (after.node? id).isSome = (tree.node? id).isSome)
    (linked : tree.Linked) (tops : tree.Tops id)
    (outside : ¬ tree.LeadsTo child id) : after.Tops id := by
  induction tops with
  | @free id liveToo parentless =>
      have other : id ≠ child := by
        rintro rfl
        exact outside .refl
      refine .free ((live id).trans liveToo) ?_
      rw [same id other]
      exact parentless
  | @under id above hangs _ inductionHypothesis =>
      have other : id ≠ child := by
        rintro rfl
        exact outside .refl
      refine .under ?_ (inductionHypothesis fun leads => outside ?_)
      · rw [same id other]
        exact hangs
      · exact leads.tail ((linked.listed above id).mpr hangs)

/-- A node that is hung below its own subtree is its own ancestor. -/
theorem isAncestor_of_closesLoop (linked : tree.Linked)
    (closes : tree.ClosesLoop (.addChild parent child)) :
    (tree.addChild parent child).IsAncestor child child := by
  obtain ⟨liveParent, liveChild⟩ := isSome_of_closesLoop linked closes
  obtain ⟨apart, leads⟩ := closes
  have parents := parentOf_addChild apart liveParent liveChild
  have up := (leadsTo_iff linked).mp leads
  refine .head' ?_ (up_of_parents (fun id other => ?_) up)
  · rw [parents, if_pos rfl]
  · rw [parents, if_neg other]

/-- A node that is hung below another part of a forest leaves it a forest. -/
theorem IsForest.addChild (forest : tree.IsForest) (linked : tree.Linked)
    (harmless : ¬ tree.ClosesLoop (.addChild parent child)) :
    (tree.addChild parent child).IsForest := by
  by_cases refused :
      parent = child ∨ tree.node? parent = none ∨ tree.node? child = none
  · rw [addChild_of_refused refused]
    exact forest
  simp only [not_or, ← Option.isSome_iff_ne_none, ← ne_eq] at refused
  obtain ⟨apart, liveParent, liveChild⟩ := refused
  have outside : ¬ tree.LeadsTo child parent :=
    fun leads => harmless ⟨apart, leads⟩
  have parents := parentOf_addChild apart liveParent liveChild
  have live (id : NodeId) :
      ((tree.addChild parent child).node? id).isSome =
        (tree.node? id).isSome := by
    rw [node?_addChild apart liveParent liveChild, Option.isSome_map,
      isSome_node?_detach]
  have parentTops : (tree.addChild parent child).Tops parent := by
    refine Tops.of_parents (fun id other => ?_) live linked
      (forest.tops linked liveParent) outside
    rw [parents, if_neg other]
  rw [isForest_iff_tops (linked.addChild parent child)]
  intro id liveId
  rw [live] at liveId
  -- The way up is the old one up to the child, if it meets the child at all.
  induction forest.tops linked liveId with
  | @free id liveToo parentless =>
      by_cases own : id = child
      · refine .under ?_ parentTops
        rw [parents, if_pos own]
      · refine .free ((live id).trans liveToo) ?_
        rw [parents, if_neg own]
        exact parentless
  | @under id above hangs onward inductionHypothesis =>
      by_cases own : id = child
      · refine .under ?_ parentTops
        rw [parents, if_pos own]
      · refine .under ?_ (inductionHypothesis onward.isSome)
        rw [parents, if_neg own]
        exact hangs

end Loops

/-! ## Edits -/

theorem isForest_empty : empty.IsForest := by
  intro id circle
  obtain ⟨parent, hangs, _⟩ := Relation.TransGen.head'_iff.mp circle
  cases hangs

theorem parentOf_remove {tree : NodeTree} {removed id parent : NodeId}
    (hangs : (tree.remove removed).parentOf id = some parent) :
    tree.parentOf id = some parent := by
  have clears := tree.clears_remove removed
  by_cases reached : (tree.detach removed).Reached [removed] id
  · rw [parentOf_of_missing (clears.gone id reached)] at hangs
    cases hangs
  · rw [parentOf, clears.kept id reached, ← parentOf, parentOf_detach] at hangs
    split at hangs
    · cases hangs
    · exact hangs

/-- An edit leaves a forest a forest, unless it hangs a node below its own
subtree. -/
theorem isForest_edit_iff {tree : NodeTree} (forest : tree.IsForest)
    (linked : tree.Linked) (change : NodeEdit) :
    (tree.edit change).IsForest ↔ ¬ tree.ClosesLoop change := by
  have modified (id : NodeId) {change : Node → Node}
      (keeps : ∀ node, (change node).parent = node.parent) :
      (tree.modify id change).IsForest :=
    forest.of_parents fun other parent hangs =>
      (tree.parentOf_modify id keeps other).symm.trans hangs
  cases change with
  | addChild parent child =>
      constructor
      · intro forestStill closes
        exact forestStill child (isAncestor_of_closesLoop linked closes)
      · exact forest.addChild linked
  | create name =>
      refine iff_of_true (forest.of_parents fun id parent hangs => ?_) id
      exact (tree.parentOf_create name id).symm.trans hangs
  | remove removed =>
      exact iff_of_true (forest.of_parents fun _ _ => parentOf_remove) id
  | setPosition moved position =>
      exact iff_of_true (modified moved fun _ => rfl) id
  | setVisible shown visible =>
      exact iff_of_true (modified shown fun _ => rfl) id
  | setActiveRoot root => exact iff_of_true forest id
  | applyProps props => exact iff_of_true forest id

theorem ofEdits_concat (edits : List NodeEdit) (change : NodeEdit) :
    ofEdits (edits ++ [change]) = (ofEdits edits).edit change := by
  rw [ofEdits, List.foldl_append]
  rfl

/-- As long as no edit closes a loop, the tree is a forest. -/
theorem isForest_ofEdits {edits : List NodeEdit}
    (harmless : ∀ begun change later, edits = begun ++ change :: later →
      ¬ (ofEdits begun).ClosesLoop change) :
    (ofEdits edits).IsForest := by
  induction edits using List.reverseRecOn with
  | nil => exact isForest_empty
  | append_singleton edits change inductionHypothesis =>
      rw [ofEdits_concat]
      have forest := inductionHypothesis fun begun earlier later split =>
        harmless begun earlier (later ++ [change]) (by simp [split])
      exact (isForest_edit_iff forest (linked_ofEdits edits) change).mpr
        (harmless edits change [] rfl)

/-- A node tree that never had a node stays a forest as long as no edit hangs a node
below another one of its own subtree, and no longer: after such an edit the node is
its own ancestor. In a forest, and only there, the way up from every node comes to
an end at a node without a parent; and a node has a position in the world just if
the way up from it does. -/
theorem forest_until_loop_closed (edits : List NodeEdit) :
    ((∀ begun, begun <+: edits → (ofEdits begun).IsForest) ↔
      ∀ begun change later, edits = begun ++ change :: later →
        ¬ (ofEdits begun).ClosesLoop change) ∧
    let tree := ofEdits edits
    (∀ parent child, parent ≠ child → tree.LeadsTo child parent →
      (tree.addChild parent child).IsAncestor child child ∧
        (tree.addChild parent child).worldPosition child = none) ∧
    (tree.IsForest ↔ ∀ id, (tree.node? id).isSome → tree.Tops id) ∧
    ∀ id, (tree.worldPosition id).isSome ↔ tree.Tops id := by
  have linked := linked_ofEdits edits
  refine ⟨⟨fun forests begun change later split => ?stays, ?lasts⟩,
    fun parent child apart leads => ?breaks, isForest_iff_tops linked,
    worldPosition_isSome_iff _⟩
  case stays =>
    have before := forests begun ⟨change :: later, split.symm⟩
    have after := forests (begun ++ [change]) ⟨later, by simp [split]⟩
    rw [ofEdits_concat] at after
    exact (isForest_edit_iff before (linked_ofEdits begun) change).mp after
  case lasts =>
    rintro harmless begun ⟨rest, rfl⟩
    refine isForest_ofEdits fun earlier change later split => ?_
    exact harmless earlier change (later ++ rest) (by simp [split])
  case breaks =>
    have circle := isAncestor_of_closesLoop linked ⟨apart, leads⟩
    refine ⟨circle, ?_⟩
    rw [← Option.not_isSome_iff_eq_none, worldPosition_isSome_iff]
    exact fun tops => tops.not_isAncestor_self circle

/-- Two nodes that are hung below each other are no forest. -/
theorem not_every_tree_a_forest : ¬ ∀ edits, (ofEdits edits).IsForest := by
  intro forests
  let edits : List NodeEdit :=
    [.create "a", .create "b", .addChild 0 1, .addChild 1 0]
  have first : (ofEdits edits).parentOf 0 = some 1 := by decide
  have second : (ofEdits edits).parentOf 1 = some 0 := by decide
  exact forests edits 0 (.head first (.single second))

end NodeTree

end Stagecraft
