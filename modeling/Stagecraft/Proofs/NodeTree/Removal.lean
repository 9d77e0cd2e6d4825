import Stagecraft.Proofs.NodeTree.Growth

/-!
# Removing trees

Nothing survives the removal of a node of which it is a child. So the removal of a
root takes away everything that grew from it.
-/

namespace Stagecraft

namespace NodeTree

/-- Whether nodes of a tree that are still there after a removal were there before,
were not to be removed, and are no children of removed ones. -/
structure Survives (waiting : List NodeId) (before after : NodeTree) : Prop where
  nextId : after.nextId = before.nextId
  known : ∀ id node, after.node? id = some node →
    before.node? id = some node
  spared : ∀ id, (after.node? id).isSome → id ∉ waiting
  orphanless : ∀ id parent above, (after.node? id).isSome →
    before.node? parent = some above → id ∈ above.children →
      (after.node? parent).isSome

section Steps

variable {before after : NodeTree} {id : NodeId} {waiting : List NodeId}

/-- A node that is there goes, and its children are next. -/
theorem Survives.erase
    {node : Node} (found : before.nodes.get? id = some node)
    (survives : Survives (node.children ++ waiting)
      { before.forgetRoot id with nodes := before.nodes.erase id } after) :
    Survives (id :: waiting) before after := by
  have erased (other : NodeId) :
      ({ before.forgetRoot id with
          nodes := before.nodes.erase id } : NodeTree).node? other =
        if other = id then none else before.node? other :=
    before.nodes.get?_erase id other
  have other_of_known {other : NodeId} {known : Node}
      (still : after.node? other = some known) :
      other ≠ id ∧ before.node? other = some known := by
    have was := survives.known other known still
    rw [erased] at was
    by_cases own : other = id
    · rw [if_pos own] at was
      simp at was
    · rw [if_neg own] at was
      exact ⟨own, was⟩
  refine ⟨survives.nextId.trans (before.nodes.nextId_erase id), ?_, ?_, ?_⟩
  · intro other known still
    exact (other_of_known still).2
  · intro other live listed
    obtain ⟨known, still⟩ := Option.isSome_iff_exists.mp live
    rcases List.mem_cons.mp listed with own | later
    · exact (other_of_known still).1 own
    · exact survives.spared other live (List.mem_append_right _ later)
  · intro other parent above live foundAbove child
    by_cases own : parent = id
    · subst own
      obtain rfl : node = above :=
        Option.some.inj (found.symm.trans foundAbove)
      exact absurd (List.mem_append_left waiting child)
        (survives.spared other live)
    · refine survives.orphanless other parent above live ?_ child
      rw [erased, if_neg own]
      exact foundAbove

theorem Survives.pass
    (missing : before.nodes.get? id = none)
    (survives : Survives waiting (before.forgetRoot id) after) :
    Survives (id :: waiting) before after := by
  have same (other : NodeId) :
      (before.forgetRoot id).node? other = before.node? other := by
    unfold node?
    rw [forgetRoot_nodes]
  have sameNext : (before.forgetRoot id).nextId = before.nextId :=
    congrArg Slots.nextId (before.forgetRoot_nodes id)
  refine ⟨survives.nextId.trans sameNext, ?_, ?_, ?_⟩
  · intro other known still
    rw [← same]
    exact survives.known other known still
  · intro other live listed
    rcases List.mem_cons.mp listed with rfl | later
    · obtain ⟨known, still⟩ := Option.isSome_iff_exists.mp live
      have was := survives.known other known still
      rw [same, node?, missing] at was
      simp at was
    · exact survives.spared other live later
  · intro other parent above live foundAbove child
    refine survives.orphanless other parent above live ?_ child
    rw [same]
    exact foundAbove

end Steps

theorem survives_removeAll (waiting : List NodeId) (tree : NodeTree) :
    Survives waiting tree (removeAll waiting tree) := by
  fun_induction removeAll waiting tree with
  | case1 tree =>
      exact ⟨rfl, fun _ _ found => found, fun _ _ => List.not_mem_nil,
        fun _ _ _ _ found _ => by rw [found]; rfl⟩
  | case2 tree id waiting node found inductionHypothesis =>
      exact inductionHypothesis.erase found
  | case3 tree id waiting missing inductionHypothesis =>
      exact inductionHypothesis.pass missing

theorem detach_of_parentless
    {tree : NodeTree} {id : NodeId} {node : Node}
    (found : tree.node? id = some node) (parentless : node.parent = none) :
    tree.detach id = tree := by
  have free : (tree.node? id).bind Node.parent = none := by
    rw [found]
    exact parentless
  have same :
      tree.nodes.modify id (fun node => { node with parent := none }) =
        tree.nodes := by
    rw [← tree.nodes.modify_id id, Slots.modify_modify]
    apply Slots.modify_congr
    intro entry stored
    obtain rfl : entry = node := Option.some.inj (stored.symm.trans found)
    rw [← parentless]
  simp only [detach, free, modify, same]

/-- The removal of the root leaves none of the nodes that grew from it. -/
theorem Rooted.remove
    {floor root : Nat} {tree : NodeTree} (rooted : tree.Rooted floor root) :
    (tree.remove root).nextId = tree.nextId ∧
      ∀ id : Nat, floor ≤ id → (tree.remove root).node? id = none := by
  obtain ⟨top, found, parentless⟩ := rooted.top
  have survives : Survives [root] tree (tree.remove root) := by
    rw [NodeTree.remove, detach_of_parentless found parentless]
    exact survives_removeAll [root] tree
  refine ⟨survives.nextId, fun id counts => ?_⟩
  -- A survivor would have a parent that survived, and so on up to the root.
  induction id using Nat.strongRecOn with
  | ind id inductionHypothesis =>
      apply Option.eq_none_iff_forall_not_mem.mpr
      intro node survivor
      have live : ((tree.remove root).node? id).isSome := by
        rw [survivor]
        rfl
      have was := survives.known id node survivor
      have fromRoot := rooted.live id counts (by rw [was]; rfl)
      have other : id ≠ root := fun own =>
        survives.spared id live (List.mem_singleton.mpr own)
      obtain ⟨parent, above, _, parentFromRoot, earlier, foundAbove, child⟩ :=
        rooted.below id (by omega) (lt_nextId_of_node? was)
      have parentLive :=
        survives.orphanless id parent above live foundAbove child
      have floor_le := rooted.floor_le
      rw [inductionHypothesis parent earlier (by omega)] at parentLive
      simp at parentLive

end NodeTree

end Stagecraft
