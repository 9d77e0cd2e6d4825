import Stagecraft.NodeTree.Edits
import Stagecraft.Proofs.NodeTree.Growth

/-!
# Links between parents and children

A node says who its parent is, and a parent lists its children. Creating nodes,
detaching and attaching them and showing a root keep both sides in agreement,
whatever ids they are asked for.
-/

namespace Stagecraft

namespace NodeTree

/-! ## Both sides of a link -/

/-- The children that a node lists; none if it is not there. -/
def childrenOf (tree : NodeTree) (id : NodeId) : List NodeId :=
  ((tree.node? id).map Node.children).getD []

/-- The parent that a node names. -/
def parentOf (tree : NodeTree) (id : NodeId) : Option NodeId :=
  (tree.node? id).bind Node.parent

/-- Whether both sides of every link agree: a parent lists a child, once, if and
only if the child names the parent. The selected root is there. -/
structure Linked (tree : NodeTree) : Prop where
  listed : ∀ parent child,
    child ∈ tree.childrenOf parent ↔ tree.parentOf child = some parent
  nodup : ∀ id, (tree.childrenOf id).Nodup
  root : ∀ id, tree.activeRoot = some id → (tree.node? id).isSome

section Parts

variable {tree after : NodeTree} {id other : NodeId} {node : Node}

theorem childrenOf_of_found (found : tree.node? id = some node) :
    tree.childrenOf id = node.children := by
  simp [childrenOf, found]

theorem childrenOf_of_missing (missing : tree.node? id = none) :
    tree.childrenOf id = [] := by
  simp [childrenOf, missing]

theorem parentOf_of_found (found : tree.node? id = some node) :
    tree.parentOf id = node.parent := by
  simp [parentOf, found]

theorem parentOf_of_missing (missing : tree.node? id = none) :
    tree.parentOf id = none := by
  simp [parentOf, missing]

theorem isSome_of_parentOf {parent : NodeId}
    (hangs : tree.parentOf id = some parent) : (tree.node? id).isSome := by
  obtain ⟨node, found, _⟩ := Option.bind_eq_some_iff.mp hangs
  rw [found]
  rfl

theorem isSome_of_mem_childrenOf (listed : other ∈ tree.childrenOf id) :
    (tree.node? id).isSome := by
  cases found : tree.node? id with
  | none => simp [childrenOf_of_missing found] at listed
  | some node => rfl

/-- What a change of every node does to the links, told from what it does to
parents and children. -/
theorem childrenOf_of_map (children : List NodeId → List NodeId)
    {change : Node → Node}
    (changed : after.node? id = (tree.node? id).map change)
    (keeps : ∀ node, (change node).children = children node.children)
    (nothing : children [] = []) :
    after.childrenOf id = children (tree.childrenOf id) := by
  rw [childrenOf, changed, childrenOf]
  cases tree.node? id with
  | none => exact nothing.symm
  | some node => exact keeps node

theorem parentOf_of_map {change : Node → Node}
    (changed : after.node? id = (tree.node? id).map change)
    (keeps : ∀ node, (change node).parent = node.parent) :
    after.parentOf id = tree.parentOf id := by
  rw [parentOf, changed, parentOf]
  cases tree.node? id with
  | none => rfl
  | some node => exact keeps node

end Parts

namespace Linked

variable {tree after : NodeTree}

/-- Every listed child is there. -/
theorem isSome_child (linked : tree.Linked) {parent child : NodeId}
    (listed : child ∈ tree.childrenOf parent) :
    (tree.node? child).isSome :=
  isSome_of_parentOf ((linked.listed parent child).mp listed)

/-- What leaves all links and the selected root alone. -/
theorem of_same (linked : tree.Linked)
    (children : ∀ id, after.childrenOf id = tree.childrenOf id)
    (parents : ∀ id, after.parentOf id = tree.parentOf id)
    (live : ∀ id, (after.node? id).isSome = (tree.node? id).isSome)
    (root : after.activeRoot = tree.activeRoot) :
    after.Linked where
  listed parent child := by
    rw [children, parents]
    exact linked.listed parent child
  nodup id := by
    rw [children]
    exact linked.nodup id
  root id selected := by
    rw [live]
    exact linked.root id (root ▸ selected)

end Linked

/-! ## Single edits -/

theorem linked_empty : empty.Linked where
  listed parent child := by
    simp [childrenOf, parentOf, node?, empty]
  nodup id := by
    simp [childrenOf, node?, empty]
  root id selected := by
    cases selected

theorem parentOf_create (tree : NodeTree) (name : String) (id : NodeId) :
    (tree.create name).parentOf id = tree.parentOf id := by
  have unborn : tree.node? tree.nextId = none :=
    tree.nodes.get?_of_nextId_le (Nat.le_refl _)
  by_cases own : id = tree.nextId
  · have born := tree.node?_create name id
    rw [if_pos own] at born
    rw [parentOf_of_found born, own, parentOf_of_missing unborn]
  · rw [parentOf, node?_create, if_neg own, parentOf]

/-- A new node has neither parent nor children. -/
theorem Linked.create {tree : NodeTree} (linked : tree.Linked)
    (name : String) : (tree.create name).Linked := by
  have unborn : tree.node? tree.nextId = none :=
    tree.nodes.get?_of_nextId_le (Nat.le_refl _)
  have born :
      (tree.create name).node? tree.nextId =
        some ⟨name, none, [], Vec3.zero, true⟩ := by
    rw [node?_create, if_pos rfl]
  have older {id : NodeId} (other : id ≠ tree.nextId) :
      (tree.create name).node? id = tree.node? id := by
    rw [node?_create, if_neg other]
  have children (id : NodeId) :
      (tree.create name).childrenOf id = tree.childrenOf id := by
    by_cases own : id = tree.nextId
    · rw [own, childrenOf_of_found born, childrenOf_of_missing unborn]
    · rw [childrenOf, older own, childrenOf]
  refine ⟨fun parent child => ?_, fun id => ?_, fun id selected => ?_⟩
  · rw [children, parentOf_create]
    exact linked.listed parent child
  · rw [children]
    exact linked.nodup id
  · have live := linked.root id selected
    have other : id ≠ tree.nextId := by
      rintro rfl
      simp [unborn] at live
    rw [older other]
    exact live

theorem parentOf_modify (tree : NodeTree) (id : NodeId)
    {change : Node → Node}
    (keeps : ∀ node, (change node).parent = node.parent) (other : NodeId) :
    (tree.modify id change).parentOf other = tree.parentOf other := by
  by_cases own : other = id
  · refine parentOf_of_map ?_ keeps
    rw [node?_modify, if_pos own]
  · rw [parentOf, node?_modify, if_neg own, parentOf]

/-- A change of a node that leaves its links alone. -/
theorem Linked.modify {tree : NodeTree} (linked : tree.Linked)
    (id : NodeId) {change : Node → Node}
    (children : ∀ node, (change node).children = node.children)
    (parent : ∀ node, (change node).parent = node.parent) :
    (tree.modify id change).Linked := by
  have changed (other : NodeId) :
      (tree.modify id change).node? other =
        (tree.node? other).map fun node =>
          if other = id then change node else node := by
    rw [node?_modify]
    by_cases own : other = id
    · simp [own]
    · simp [own]
  refine linked.of_same (fun other => ?_) (fun other => ?_) (fun other => ?_) rfl
  · refine childrenOf_of_map (fun children => children) (changed other) ?_ rfl
    intro node
    split
    · exact children node
    · rfl
  · exact tree.parentOf_modify id parent other
  · rw [changed, Option.isSome_map]

theorem Linked.setActiveRoot {tree : NodeTree} (linked : tree.Linked)
    (root : Option NodeId) : (tree.setActiveRoot root).Linked := by
  refine ⟨linked.listed, linked.nodup, fun id selected => ?_⟩
  exact (Option.filter_eq_some_iff.mp selected).2

/-! ## Taking nodes away from their parents -/

/-- What detaching a node does to every node. -/
theorem node?_detach (tree : NodeTree) (id other : NodeId) :
    (tree.detach id).node? other =
      (tree.node? other).map fun node =>
        { node with
          parent := if other = id then none else node.parent
          children :=
            if tree.parentOf id = some other then
              node.children.filter (· != id)
            else
              node.children } := by
  have unparented (freed : NodeTree) :
      (freed.modify id fun node => { node with parent := none }).node? other =
        (freed.node? other).map fun node =>
          { node with
            parent := if other = id then none else node.parent } := by
    rw [node?_modify]
    by_cases own : other = id
    · simp [own]
    · simp [own]
  unfold detach
  rw [unparented, ← parentOf]
  cases hangs : tree.parentOf id with
  | none => simp
  | some parent =>
      simp only [node?_modify, Option.some.injEq]
      by_cases above : other = parent
      · simp only [above, if_pos, Option.map_map]
        rfl
      · have apart : ¬ parent = other := Ne.symm above
        simp only [if_neg above, if_neg apart]

theorem childrenOf_detach {tree : NodeTree} (linked : tree.Linked)
    (id parent : NodeId) :
    (tree.detach id).childrenOf parent =
      (tree.childrenOf parent).filter (· != id) := by
  by_cases above : tree.parentOf id = some parent
  · refine childrenOf_of_map (List.filter (· != id))
      (tree.node?_detach id parent) (fun node => ?_) rfl
    exact if_pos above
  · -- Nobody else lists the node.
    have unlisted : id ∉ tree.childrenOf parent :=
      fun listed => above ((linked.listed parent id).mp listed)
    have untouched :
        (tree.childrenOf parent).filter (· != id) =
          tree.childrenOf parent := by
      rw [List.filter_eq_self]
      intro child listed
      rw [bne_iff_ne]
      rintro rfl
      exact unlisted listed
    rw [untouched]
    refine childrenOf_of_map (fun children => children)
      (tree.node?_detach id parent) (fun node => ?_) rfl
    exact if_neg above

theorem parentOf_detach (tree : NodeTree) (id other : NodeId) :
    (tree.detach id).parentOf other =
      if other = id then none else tree.parentOf other := by
  rw [parentOf, node?_detach]
  cases found : tree.node? other with
  | none => simp [parentOf_of_missing found]
  | some node => simp [parentOf_of_found found]

theorem isSome_node?_detach (tree : NodeTree) (id other : NodeId) :
    ((tree.detach id).node? other).isSome = (tree.node? other).isSome := by
  rw [node?_detach, Option.isSome_map]

@[simp]
theorem activeRoot_detach (tree : NodeTree) (id : NodeId) :
    (tree.detach id).activeRoot = tree.activeRoot := by
  unfold detach
  cases (tree.node? id).bind Node.parent with
  | none => rfl
  | some parent => rfl

theorem Linked.detach {tree : NodeTree} (linked : tree.Linked)
    (id : NodeId) : (tree.detach id).Linked := by
  refine ⟨fun parent child => ?_, fun other => ?_, fun other selected => ?_⟩
  · rw [childrenOf_detach linked, parentOf_detach, List.mem_filter, bne_iff_ne,
      linked.listed]
    by_cases own : child = id
    · simp [own]
    · simp [own]
  · rw [childrenOf_detach linked]
    exact (linked.nodup other).filter _
  · rw [isSome_node?_detach]
    exact linked.root other (tree.activeRoot_detach id ▸ selected)

/-! ## Giving nodes a parent -/

/-- What attaching a node does to every node. -/
theorem node?_addChild {tree : NodeTree} {parent child : NodeId}
    (apart : parent ≠ child) (liveParent : (tree.node? parent).isSome)
    (liveChild : (tree.node? child).isSome) (other : NodeId) :
    (tree.addChild parent child).node? other =
      ((tree.detach child).node? other).map fun node =>
        { node with
          parent := if other = child then some parent else node.parent
          children :=
            if other = parent then node.children ++ [child]
            else node.children } := by
  have attachable :
      ¬ (parent = child ∨ (!tree.nodes.contains parent) = true ∨
        (!tree.nodes.contains child) = true) := by
    have parentToo : tree.nodes.contains parent = true := liveParent
    have childToo : tree.nodes.contains child = true := liveChild
    simp [apart, parentToo, childToo]
  simp only [addChild, if_neg attachable, node?_modify]
  by_cases own : other = child
  · subst own
    simp [apart.symm]
  · by_cases above : other = parent
    · simp [above, apart]
    · simp [own, above]

theorem addChild_of_refused {tree : NodeTree} {parent child : NodeId}
    (refused : parent = child ∨ tree.node? parent = none ∨
      tree.node? child = none) :
    tree.addChild parent child = tree := by
  have same (id : NodeId) (missing : tree.node? id = none) :
      (!tree.nodes.contains id) = true := by
    have empty : tree.nodes.get? id = none := missing
    simp [Slots.contains, empty]
  refine if_pos ?_
  rcases refused with own | missing | missing
  · exact .inl own
  · exact .inr (.inl (same parent missing))
  · exact .inr (.inr (same child missing))

/-- Only the node that is attached gets another parent. -/
theorem parentOf_addChild {tree : NodeTree} {parent child : NodeId}
    (apart : parent ≠ child) (liveParent : (tree.node? parent).isSome)
    (liveChild : (tree.node? child).isSome) (id : NodeId) :
    (tree.addChild parent child).parentOf id =
      if id = child then some parent else tree.parentOf id := by
  rw [parentOf, node?_addChild apart liveParent liveChild, node?_detach]
  by_cases own : id = child
  · obtain ⟨node, found⟩ := Option.isSome_iff_exists.mp liveChild
    simp [own, found]
  · cases found : tree.node? id with
    | none => simp [own, parentOf_of_missing found]
    | some node => simp [own, parentOf_of_found found]

theorem activeRoot_addChild (tree : NodeTree) (parent child : NodeId) :
    (tree.addChild parent child).activeRoot = tree.activeRoot := by
  unfold addChild
  split
  · rfl
  · exact tree.activeRoot_detach child

theorem Linked.addChild {tree : NodeTree} (linked : tree.Linked)
    (parent child : NodeId) : (tree.addChild parent child).Linked := by
  by_cases refused :
      parent = child ∨ tree.node? parent = none ∨ tree.node? child = none
  · rw [addChild_of_refused refused]
    exact linked
  simp only [not_or, ← Option.isSome_iff_ne_none, ← ne_eq] at refused
  obtain ⟨apart, liveParent, liveChild⟩ := refused
  have attached := node?_addChild apart liveParent liveChild
  -- A child is detached before it is attached, so that nobody lists it by then.
  have free := linked.detach child
  have unlisted (id : NodeId) : child ∉ (tree.detach child).childrenOf id := by
    rw [childrenOf_detach linked]
    simp
  have children (id : NodeId) :
      (tree.addChild parent child).childrenOf id =
        if id = parent then (tree.detach child).childrenOf id ++ [child]
        else (tree.detach child).childrenOf id := by
    by_cases above : id = parent
    · have live : ((tree.detach child).node? id).isSome := by
        rw [isSome_node?_detach, above]
        exact liveParent
      obtain ⟨node, found⟩ := Option.isSome_iff_exists.mp live
      have now := attached id
      rw [found, Option.map_some] at now
      rw [childrenOf_of_found now, childrenOf_of_found found]
    · rw [if_neg above]
      exact childrenOf_of_map (fun children => children) (attached id)
        (fun node => if_neg above) rfl
  refine ⟨fun above below => ?_, fun id => ?_, fun id selected => ?_⟩
  · rw [children, parentOf_addChild apart liveParent liveChild]
    by_cases own : below = child
    · subst own
      by_cases same : above = parent
      · simp [same]
      · have other : parent ≠ above := Ne.symm same
        simp [same, other, unlisted]
    · have still := tree.parentOf_detach child below
      rw [if_neg own] at still
      rw [if_neg own, ← still, ← free.listed]
      split
      · simp [own]
      · rfl
  · rw [children]
    split
    · rw [List.nodup_append]
      refine ⟨free.nodup id, by simp, ?_⟩
      intro listed member other last
      rw [List.mem_singleton.mp last]
      rintro rfl
      exact unlisted id member
    · exact free.nodup id
  · rw [attached, Option.isSome_map, isSome_node?_detach]
    exact linked.root id (tree.activeRoot_addChild parent child ▸ selected)

end NodeTree

end Stagecraft
