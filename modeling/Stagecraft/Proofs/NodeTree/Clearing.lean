import Mathlib.Logic.Relation
import Mathlib.Order.WellFounded
import Stagecraft.Proofs.NodeTree.Links

/-!
# Clearing trees

A removal deletes exactly what child lists lead to, also where links run in a
circle, and comes to an end. What it leaves is linked as before, so both sides of
all links agree after any edits.
-/

namespace Stagecraft

namespace NodeTree

/-! ## Removals come to an end -/

/-- Every deletion leaves fewer nodes, and to pass over a missing node leaves fewer
that wait. -/
theorem Clearance.wellFounded_next :
    WellFounded fun after before : Clearance => before.Next after := by
  have lexical : WellFounded (Prod.Lex (α := Nat) (β := Nat) (· < ·) (· < ·)) :=
    WellFounded.prod_lex Nat.lt_wfRel.wf Nat.lt_wfRel.wf
  let size (clearance : Clearance) : Nat × Nat :=
    (clearance.tree.nodes.count, clearance.waiting.length)
  refine Subrelation.wf ?_ (InvImage.wf size lexical)
  intro after before next
  cases next with
  | @deletes tree id node waiting found =>
      have live : tree.nodes.contains id = true :=
        Option.isSome_iff_exists.mpr ⟨node, found⟩
      exact Prod.Lex.left _ _ (tree.nodes.count_erase_lt id live)
  | @passes tree id waiting missing =>
      have sameCount :
          (tree.forgetRoot id).nodes.count = tree.nodes.count := by
        rw [forgetRoot_nodes]
      show Prod.Lex _ _ ((tree.forgetRoot id).nodes.count, _) (_, _)
      rw [sameCount]
      exact Prod.Lex.right _ (Nat.lt_succ_self _)

/-- To delete the nodes that wait is to go on until none waits. -/
theorem leads_removeAll (waiting : List NodeId) (tree : NodeTree) :
    Relation.ReflTransGen Clearance.Next ⟨waiting, tree⟩
      ⟨[], removeAll waiting tree⟩ := by
  fun_induction removeAll waiting tree with
  | case1 tree => exact .refl
  | case2 id waiting tree node found inductionHypothesis =>
      exact .head (.deletes waiting found) inductionHypothesis
  | case3 id waiting tree missing inductionHypothesis =>
      exact .head (.passes waiting missing) inductionHypothesis

/-! ## What child lists lead to -/

/-- Whether child lists lead from one node to another. -/
def LeadsTo (tree : NodeTree) : NodeId → NodeId → Prop :=
  Relation.ReflTransGen fun parent child => child ∈ tree.childrenOf parent

/-- Whether child lists lead to a node from one of several. -/
def Reached (tree : NodeTree) (starts : List NodeId) (id : NodeId) : Prop :=
  ∃ start ∈ starts, tree.LeadsTo start id

section Reaching

variable {tree : NodeTree} {starts : List NodeId} {id parent : NodeId}

theorem reached_of_mem (member : id ∈ starts) : tree.Reached starts id :=
  ⟨id, member, .refl⟩

theorem Reached.onward (reached : tree.Reached starts parent)
    (listed : id ∈ tree.childrenOf parent) :
    tree.Reached starts id := by
  obtain ⟨start, member, leads⟩ := reached
  exact ⟨start, member, leads.tail listed⟩

theorem Reached.cases (reached : tree.Reached starts id) :
    id ∈ starts ∨
      ∃ parent, tree.Reached starts parent ∧ id ∈ tree.childrenOf parent := by
  obtain ⟨start, member, leads⟩ := reached
  rcases leads.cases_tail with rfl | ⟨parent, earlier, listed⟩
  · exact .inl member
  · exact .inr ⟨parent, ⟨start, member, earlier⟩, listed⟩

/-- What holds of the starting nodes and of the children of whatever it holds of
holds of all that is reached. -/
theorem Reached.induct {motive : NodeId → Prop}
    (reached : tree.Reached starts id)
    (start : ∀ id ∈ starts, motive id)
    (step : ∀ parent child, motive parent →
      child ∈ tree.childrenOf parent → motive child) :
    motive id := by
  obtain ⟨first, member, leads⟩ := reached
  induction leads with
  | refl => exact start first member
  | tail _ listed inductionHypothesis =>
      exact step _ _ inductionHypothesis listed

theorem reached_singleton :
    tree.Reached [parent] id ↔ tree.LeadsTo parent id := by
  simp [Reached]

/-- Links into a node lead nowhere that the node does not lead to itself. -/
theorem leadsTo_detach (linked : tree.Linked) (start id : NodeId) :
    (tree.detach start).LeadsTo start id ↔ tree.LeadsTo start id := by
  constructor
  · intro leads
    refine Relation.ReflTransGen.mono (fun parent child listed => ?_) _ _ leads
    rw [childrenOf_detach linked] at listed
    exact (List.mem_filter.mp listed).1
  · intro leads
    induction leads with
    | refl => exact .refl
    | @tail parent child _ listed inductionHypothesis =>
        by_cases again : child = start
        · rw [again]
          exact .refl
        · refine inductionHypothesis.tail ?_
          rw [childrenOf_detach linked, List.mem_filter, bne_iff_ne]
          exact ⟨listed, again⟩

end Reaching

/-! ## Deleted nodes -/

section Deleting

variable {tree : NodeTree} {id : NodeId}

theorem node?_delete (tree : NodeTree) (id other : NodeId) :
    (tree.delete id).node? other =
      if other = id then none else tree.node? other :=
  tree.nodes.get?_erase id other

theorem node?_forgetRoot (tree : NodeTree) (id other : NodeId) :
    (tree.forgetRoot id).node? other = tree.node? other := by
  unfold node?
  rw [forgetRoot_nodes]

theorem childrenOf_delete_self (tree : NodeTree) (id : NodeId) :
    (tree.delete id).childrenOf id = [] :=
  childrenOf_of_missing (by rw [node?_delete, if_pos rfl])

theorem childrenOf_delete_of_ne {other : NodeId} (apart : other ≠ id) :
    (tree.delete id).childrenOf other = tree.childrenOf other := by
  rw [childrenOf, node?_delete, if_neg apart, childrenOf]

/-- What is reached once a node is deleted and its children wait, together with
the node, is what was reached before. -/
theorem reached_delete {node : Node} (found : tree.node? id = some node)
    (waiting : List NodeId) (other : NodeId) :
    tree.Reached (id :: waiting) other ↔
      other = id ∨
        (tree.delete id).Reached (node.children ++ waiting) other := by
  have children : tree.childrenOf id = node.children :=
    childrenOf_of_found found
  constructor
  · intro reached
    refine reached.induct
      (motive := fun other => other = id ∨
        (tree.delete id).Reached (node.children ++ waiting) other)
      ?start ?step
    case start =>
      intro start member
      rcases List.mem_cons.mp member with rfl | later
      · exact .inl rfl
      · exact .inr (reached_of_mem (List.mem_append_right _ later))
    case step =>
      intro parent child known listed
      by_cases own : parent = id
      · rw [own, children] at listed
        exact .inr (reached_of_mem (List.mem_append_left _ listed))
      · rcases known with same | reached
        · exact absurd same own
        · refine .inr (reached.onward ?_)
          rw [childrenOf_delete_of_ne own]
          exact listed
  · rintro (rfl | reached)
    · exact reached_of_mem List.mem_cons_self
    · refine reached.induct ?_ ?_
      · intro start member
        rcases List.mem_append.mp member with listed | later
        · rw [← children] at listed
          exact (reached_of_mem List.mem_cons_self).onward listed
        · exact reached_of_mem (List.mem_cons_of_mem id later)
      · intro parent child reached listed
        by_cases own : parent = id
        · rw [own, childrenOf_delete_self] at listed
          simp at listed
        · rw [childrenOf_delete_of_ne own] at listed
          exact reached.onward listed

/-- A node that is not there leads nowhere. -/
theorem reached_pass (missing : tree.node? id = none)
    (waiting : List NodeId) (other : NodeId) :
    tree.Reached (id :: waiting) other ↔
      other = id ∨ (tree.forgetRoot id).Reached waiting other := by
  have children (parent : NodeId) :
      (tree.forgetRoot id).childrenOf parent = tree.childrenOf parent := by
    rw [childrenOf, node?_forgetRoot, childrenOf]
  have same (starts : List NodeId) :
      (tree.forgetRoot id).Reached starts other ↔
        tree.Reached starts other := by
    simp only [Reached, LeadsTo, children]
  rw [same]
  constructor
  · intro reached
    refine reached.induct
      (motive := fun other => other = id ∨ tree.Reached waiting other)
      ?start ?step
    case start =>
      intro start member
      rcases List.mem_cons.mp member with rfl | later
      · exact .inl rfl
      · exact .inr (reached_of_mem later)
    case step =>
      rintro parent child (rfl | reached) listed
      · simp [childrenOf_of_missing missing] at listed
      · exact .inr (reached.onward listed)
  · rintro (rfl | ⟨start, member, leads⟩)
    · exact reached_of_mem List.mem_cons_self
    · exact ⟨start, List.mem_cons_of_mem id member, leads⟩

/-- Whether a removal left a tree from which exactly the nodes that were reached
are gone, and with them the selection of a root among them. -/
structure Clears (waiting : List NodeId) (before after : NodeTree) : Prop where
  gone : ∀ id, before.Reached waiting id → after.node? id = none
  kept : ∀ id, ¬ before.Reached waiting id →
    after.node? id = before.node? id
  root : ∀ id, after.activeRoot = some id ↔
    before.activeRoot = some id ∧ ¬ before.Reached waiting id
  nextId : after.nextId = before.nextId
  props : after.props = before.props

theorem activeRoot_forgetRoot (tree : NodeTree) (id other : NodeId) :
    (tree.forgetRoot id).activeRoot = some other ↔
      tree.activeRoot = some other ∧ other ≠ id := by
  unfold forgetRoot
  by_cases own : tree.activeRoot = some id
  · simp only [own, if_true, Option.some.injEq, reduceCtorEq, false_iff]
    rintro ⟨same, other⟩
    exact other same.symm
  · rw [if_neg own]
    constructor
    · intro selected
      refine ⟨selected, ?_⟩
      rintro rfl
      exact own selected
    · exact And.left

theorem props_forgetRoot (tree : NodeTree) (id : NodeId) :
    (tree.forgetRoot id).props = tree.props := by
  unfold forgetRoot
  split <;> rfl

theorem clears_removeAll (waiting : List NodeId) (tree : NodeTree) :
    Clears waiting tree (removeAll waiting tree) := by
  -- An id is reached as the first one that waits, or from the rest in the tree
  -- without the first one, where the induction takes over.
  fun_induction removeAll waiting tree with
  | case1 tree =>
      have nothing (id : NodeId) : ¬ tree.Reached [] id := by simp [Reached]
      exact ⟨fun id reached => absurd reached (nothing id), fun _ _ => rfl,
        fun id => by simp [nothing], rfl, rfl⟩
  | case2 id waiting tree node found inductionHypothesis =>
      have reached := reached_delete found waiting
      refine ⟨fun other gone => ?_, fun other spared => ?_, fun other => ?_,
        inductionHypothesis.nextId.trans (tree.nodes.nextId_erase id),
        inductionHypothesis.props.trans (tree.props_forgetRoot id)⟩
      · by_cases later :
            (tree.delete id).Reached (node.children ++ waiting) other
        · exact inductionHypothesis.gone other later
        · rw [inductionHypothesis.kept other later, node?_delete]
          rcases (reached other).mp gone with own | again
          · exact if_pos own
          · exact absurd again later
      · rw [reached, not_or] at spared
        rw [inductionHypothesis.kept other spared.2, node?_delete,
          if_neg spared.1]
      · rw [inductionHypothesis.root, reached, not_or, ← and_assoc]
        exact and_congr_left' (tree.activeRoot_forgetRoot id other)
  | case3 id waiting tree missing inductionHypothesis =>
      have reached := reached_pass missing waiting
      have sameNext : (tree.forgetRoot id).nextId = tree.nextId :=
        congrArg Slots.nextId (tree.forgetRoot_nodes id)
      refine ⟨fun other gone => ?_, fun other spared => ?_, fun other => ?_,
        inductionHypothesis.nextId.trans sameNext,
        inductionHypothesis.props.trans (tree.props_forgetRoot id)⟩
      · by_cases later : (tree.forgetRoot id).Reached waiting other
        · exact inductionHypothesis.gone other later
        · rw [inductionHypothesis.kept other later, node?_forgetRoot]
          rcases (reached other).mp gone with rfl | again
          · exact missing
          · exact absurd again later
      · rw [reached, not_or] at spared
        rw [inductionHypothesis.kept other spared.2, node?_forgetRoot]
      · rw [inductionHypothesis.root, reached, not_or, ← and_assoc]
        exact and_congr_left' (tree.activeRoot_forgetRoot id other)

end Deleting

/-! ## Links after a removal -/

/-- What is left of linked nodes is linked, if nobody lists the first nodes to
go. -/
theorem Linked.clears {before after : NodeTree} {waiting : List NodeId}
    (linked : before.Linked) (clears : Clears waiting before after)
    (orphans : ∀ id ∈ waiting, before.parentOf id = none) :
    after.Linked := by
  have live {id : NodeId} (present : (after.node? id).isSome) :
      ¬ before.Reached waiting id := by
    intro reached
    simp [clears.gone id reached] at present
  have children {id : NodeId} (spared : ¬ before.Reached waiting id) :
      after.childrenOf id = before.childrenOf id := by
    rw [childrenOf, clears.kept id spared, childrenOf]
  have parents {id : NodeId} (spared : ¬ before.Reached waiting id) :
      after.parentOf id = before.parentOf id := by
    rw [parentOf, clears.kept id spared, parentOf]
  -- A child goes only with its parent, since nobody else lists it.
  have spared_child {parent child : NodeId}
      (spared : ¬ before.Reached waiting parent)
      (listed : child ∈ before.childrenOf parent) :
      ¬ before.Reached waiting child := by
    intro reached
    have hangs := (linked.listed parent child).mp listed
    rcases reached.cases with first | ⟨other, reachedToo, listedToo⟩
    · simp [orphans child first] at hangs
    · have hangsToo := (linked.listed other child).mp listedToo
      obtain rfl : parent = other :=
        Option.some.inj (hangs.symm.trans hangsToo)
      exact spared reachedToo
  refine ⟨fun parent child => ?_, fun id => ?_, fun id selected => ?_⟩
  · constructor
    · intro listed
      have spared := live (isSome_of_mem_childrenOf listed)
      rw [children spared] at listed
      rw [parents (spared_child spared listed)]
      exact (linked.listed parent child).mp listed
    · intro hangs
      have spared := live (isSome_of_parentOf hangs)
      rw [parents spared, ← linked.listed] at hangs
      have sparedToo : ¬ before.Reached waiting parent :=
        fun reached => spared (reached.onward hangs)
      rw [children sparedToo]
      exact hangs
  · by_cases reached : before.Reached waiting id
    · rw [childrenOf_of_missing (clears.gone id reached)]
      exact List.nodup_nil
    · rw [children reached]
      exact linked.nodup id
  · obtain ⟨was, spared⟩ := (clears.root id).mp selected
    rw [clears.kept id spared]
    exact linked.root id was

theorem clears_remove (tree : NodeTree) (id : NodeId) :
    Clears [id] (tree.detach id) (tree.remove id) :=
  clears_removeAll [id] (tree.detach id)

theorem Linked.remove {tree : NodeTree} (linked : tree.Linked)
    (id : NodeId) : (tree.remove id).Linked := by
  refine (linked.detach id).clears (tree.clears_remove id) ?_
  intro other first
  rw [parentOf_detach, if_pos (List.mem_singleton.mp first)]

theorem linked_edit {tree : NodeTree} (linked : tree.Linked)
    (change : NodeEdit) : (tree.edit change).Linked := by
  cases change with
  | create name => exact linked.create name
  | addChild parent child => exact linked.addChild parent child
  | remove id => exact linked.remove id
  | setPosition id position =>
      exact linked.modify id (fun _ => rfl) fun _ => rfl
  | setVisible id visible =>
      exact linked.modify id (fun _ => rfl) fun _ => rfl
  | setActiveRoot root => exact linked.setActiveRoot root
  | applyProps props =>
      exact linked.of_same (fun _ => rfl) (fun _ => rfl) (fun _ => rfl) rfl

theorem linked_ofEdits (edits : List NodeEdit) : (ofEdits edits).Linked := by
  have kept {tree : NodeTree} (linked : tree.Linked) :
      (edits.foldl edit tree).Linked := by
    induction edits generalizing tree with
    | nil => exact linked
    | cons change rest inductionHypothesis =>
        exact inductionHypothesis (linked_edit linked change)
  exact kept linked_empty

/-- Whatever is asked of a node tree, also with ids that are unknown, removed or
repeated and with links that run in a circle: a node names a parent if and only if
the parent is there and lists it, once; nobody else lists it; and the selected root
is there. To remove a node comes to an end after finitely many steps. It deletes the
node and all that child lists lead to from it, and of the other nodes it changes
only the parent, which no longer lists the node. -/
theorem links_agree_after_edits (edits : List NodeEdit) :
    let tree := ofEdits edits
    (∀ child node parent, tree.node? child = some node →
      (node.parent = some parent ↔
        ∃ above, tree.node? parent = some above ∧
          child ∈ above.children)) ∧
    (∀ parent above, tree.node? parent = some above →
      above.children.Nodup ∧
        ∀ child ∈ above.children, (tree.node? child).isSome ∧
          ∀ other node, tree.node? other = some node →
            child ∈ node.children → other = parent) ∧
    (∀ root, tree.activeRoot = some root → (tree.node? root).isSome) ∧
    ∀ id,
      let after := tree.remove id
      let begun : Clearance := ⟨[id], tree.detach id⟩
      Acc (fun next before : Clearance => before.Next next) begun ∧
      Relation.ReflTransGen Clearance.Next begun ⟨[], after⟩ ∧
      (∀ other, tree.LeadsTo id other → after.node? other = none) ∧
      (∀ other, ¬ tree.LeadsTo id other →
        after.node? other =
          if tree.parentOf id = some other then
            (tree.node? other).map fun node =>
              { node with children := node.children.filter (· != id) }
          else
            tree.node? other) ∧
      (∀ root, after.activeRoot = some root ↔
        tree.activeRoot = some root ∧ ¬ tree.LeadsTo id root) ∧
      after.nextId = tree.nextId ∧ after.props = tree.props := by
  intro tree
  have linked : tree.Linked := linked_ofEdits edits
  refine ⟨?links, ?lists, linked.root, fun id => ?removal⟩
  case links =>
    intro child node parent found
    rw [← parentOf_of_found found, ← linked.listed]
    constructor
    · intro listed
      have live := isSome_of_mem_childrenOf listed
      obtain ⟨above, foundAbove⟩ := Option.isSome_iff_exists.mp live
      rw [childrenOf_of_found foundAbove] at listed
      exact ⟨above, foundAbove, listed⟩
    · rintro ⟨above, foundAbove, listed⟩
      rw [childrenOf_of_found foundAbove]
      exact listed
  case lists =>
    intro parent above found
    rw [← childrenOf_of_found found]
    refine ⟨linked.nodup parent, fun child listed => ?_⟩
    refine ⟨linked.isSome_child listed, fun other node foundOther again => ?_⟩
    rw [← childrenOf_of_found foundOther] at again
    rw [linked.listed] at listed again
    exact Option.some.inj (again.symm.trans listed)
  case removal =>
    intro after begun
    have clears := tree.clears_remove id
    have leads (other : NodeId) :
        (tree.detach id).Reached [id] other ↔ tree.LeadsTo id other := by
      rw [reached_singleton, leadsTo_detach linked]
    have untouched (other : NodeId) (spared : ¬ tree.LeadsTo id other) :
        other ≠ id := by
      rintro rfl
      exact spared .refl
    refine ⟨Clearance.wellFounded_next.apply begun,
      leads_removeAll [id] (tree.detach id), fun other led => ?_,
      fun other spared => ?_, fun root => ?_, ?_, ?_⟩
    · exact clears.gone other ((leads other).mpr led)
    · rw [clears.kept other fun reached => spared ((leads other).mp reached),
        node?_detach]
      simp only [if_neg (untouched other spared)]
      by_cases above : tree.parentOf id = some other
      · simp only [if_pos above]
      · simp only [if_neg above]
        exact Option.map_id'
    · rw [← leads, ← tree.activeRoot_detach id]
      exact clears.root root
    · refine clears.nextId.trans ?_
      unfold detach
      cases (tree.node? id).bind Node.parent <;> simp
    · refine clears.props.trans ?_
      unfold detach
      cases (tree.node? id).bind Node.parent <;> rfl

/-- Two nodes that are each other's parent go together. -/
example :
    ((ofEdits [.create "a", .create "b", .create "c", .addChild 0 1,
      .addChild 1 0]).remove 0).nodes.entries.map Prod.fst = [2] := by
  cbv

end NodeTree

end Stagecraft
