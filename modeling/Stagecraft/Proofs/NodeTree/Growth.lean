import Stagecraft.Stage.Attach

/-!
# Growing trees

Nodes that are added below others get consecutive ids and leave the older nodes as
they were, but for the children that these gain. A tree that grew from one root
has every node below an earlier one, so that all chains of parents end at the root.
-/

namespace Stagecraft

namespace NodeTree

/-! ## What an operation does to a look-up -/

theorem node?_create (tree : NodeTree) (name : String) (id : NodeId) :
    (tree.create name).node? id =
      if id = tree.nextId then some ⟨name, none, [], Vec3.zero, true⟩
      else tree.node? id :=
  tree.nodes.get?_insert _ id

theorem node?_modify (tree : NodeTree) (changed : NodeId)
    (change : Node → Node) (id : NodeId) :
    (tree.modify changed change).node? id =
      if id = changed then (tree.node? id).map change else tree.node? id :=
  tree.nodes.get?_modify changed id change

theorem node?_setPosition (tree : NodeTree) (changed : NodeId)
    (position : Vec3) (id : NodeId) :
    (tree.setPosition changed position).node? id =
      if id = changed then
        (tree.node? id).map fun node => { node with position := position }
      else tree.node? id :=
  tree.node?_modify changed _ id

@[simp]
theorem nextId_create (tree : NodeTree) (name : String) :
    (tree.create name).nextId = tree.nextId + 1 :=
  tree.nodes.nextId_insert _

@[simp]
theorem nextId_modify (tree : NodeTree) (changed : NodeId)
    (change : Node → Node) :
    (tree.modify changed change).nextId = tree.nextId :=
  tree.nodes.nextId_modify changed change

theorem lt_nextId_of_node?
    {tree : NodeTree} {id : NodeId} {node : Node}
    (found : tree.node? id = some node) :
    id < tree.nextId := by
  apply Nat.lt_of_not_le
  intro later
  have missing : tree.node? id = none := tree.nodes.get?_of_nextId_le later
  rw [missing] at found
  simp at found

theorem node?_addBelow
    {tree : NodeTree} {parent : NodeId} {above : Node}
    (live : tree.node? parent = some above) (name : String) (position : Vec3)
    (id : NodeId) :
    (tree.addBelow parent name position).node? id =
      if id = tree.nextId then
        some ⟨name, some parent, [], position, true⟩
      else if id = parent then
        some { above with children := above.children ++ [tree.nextId] }
      else
        tree.node? id := by
  have older : parent ≠ tree.nextId := Nat.ne_of_lt (lt_nextId_of_node? live)
  have born :
      (tree.create name).node? tree.nextId =
        some ⟨name, none, [], Vec3.zero, true⟩ := by
    rw [node?_create, if_pos rfl]
  have still : (tree.create name).node? parent = some above := by
    rw [node?_create, if_neg older, live]
  have attachable :
      ¬ (parent = tree.nextId ∨
        (!(tree.create name).nodes.contains parent) = true ∨
        (!(tree.create name).nodes.contains tree.nextId) = true) := by
    have bornToo : (tree.create name).nodes.contains tree.nextId = true :=
      Option.isSome_iff_exists.mpr ⟨_, born⟩
    have stillToo : (tree.create name).nodes.contains parent = true :=
      Option.isSome_iff_exists.mpr ⟨_, still⟩
    simp [older, bornToo, stillToo]
  have free :
      (((tree.create name).node? tree.nextId).bind Node.parent) = none := by
    rw [born]
    rfl
  simp only [addBelow, addChild, if_neg attachable, detach, free,
    node?_setPosition, node?_modify]
  by_cases own : id = tree.nextId
  · subst own
    simp [older.symm, born]
  · by_cases isParent : id = parent
    · subst isParent
      simp [older, still]
    · simp [own, isParent, node?_create]

@[simp]
theorem nextId_addBelow (tree : NodeTree) (parent : NodeId) (name : String)
    (position : Vec3) :
    (tree.addBelow parent name position).nextId = tree.nextId + 1 := by
  unfold addBelow addChild setPosition
  dsimp only
  split
  · simp
  · rw [nextId_modify, nextId_modify, nextId_modify, detach, nextId_modify]
    split
    · simp
    · simp

/-! ## Trees that grow -/

/-- Whether a node hangs below another one. -/
def Under (tree : NodeTree) (parent id : NodeId) : Prop :=
  (tree.node? id).bind Node.parent = some parent

/-- Whether a tree has all nodes of an earlier one as they were, but for children
that these gained. -/
structure Extends (before after : NodeTree) : Prop where
  nextId : before.nextId ≤ after.nextId
  nodes : ∀ id node, before.node? id = some node →
    ∃ children, after.node? id =
      some { node with children := node.children ++ children }

theorem Extends.refl (tree : NodeTree) : Extends tree tree :=
  ⟨Nat.le_refl _, fun _ node found => ⟨[], by simpa using found⟩⟩

theorem Extends.trans
    {first second third : NodeTree} (grows : Extends first second)
    (growsAgain : Extends second third) :
    Extends first third := by
  refine ⟨Nat.le_trans grows.nextId growsAgain.nextId, ?_⟩
  intro id node found
  obtain ⟨children, foundNext⟩ := grows.nodes id node found
  obtain ⟨others, foundLast⟩ := growsAgain.nodes id _ foundNext
  exact ⟨children ++ others, by rw [foundLast, List.append_assoc]⟩

theorem extends_addBelow
    {tree : NodeTree} {parent : NodeId}
    (live : (tree.node? parent).isSome) (name : String) (position : Vec3) :
    Extends tree (tree.addBelow parent name position) := by
  obtain ⟨above, found⟩ := Option.isSome_iff_exists.mp live
  refine ⟨by simp, fun id node known => ?_⟩
  have older : id ≠ tree.nextId := Nat.ne_of_lt (lt_nextId_of_node? known)
  rw [node?_addBelow found, if_neg older]
  by_cases isParent : id = parent
  · subst isParent
    obtain rfl : above = node := Option.some.inj (found.symm.trans known)
    exact ⟨[tree.nextId], if_pos rfl⟩
  · refine ⟨[], ?_⟩
    rw [if_neg isParent, known, List.append_nil]

theorem Under.of_parents
    {before after : NodeTree} {parent id : NodeId}
    (under : before.Under parent id)
    (same : ∀ node, before.node? id = some node →
      ∃ now, after.node? id = some now ∧ now.parent = node.parent) :
    after.Under parent id := by
  obtain ⟨node, found, hangs⟩ := Option.bind_eq_some_iff.mp under
  obtain ⟨now, foundNow, sameParent⟩ := same node found
  rw [Under, foundNow]
  exact sameParent.trans hangs

theorem Under.extends
    {before after : NodeTree} {parent id : NodeId}
    (under : before.Under parent id) (grows : Extends before after) :
    after.Under parent id := by
  refine under.of_parents fun node found => ?_
  obtain ⟨children, foundNext⟩ := grows.nodes id node found
  exact ⟨_, foundNext, rfl⟩

theorem Extends.isSome
    {before after : NodeTree} (grows : Extends before after) {id : NodeId}
    (live : (before.node? id).isSome) :
    (after.node? id).isSome := by
  obtain ⟨node, found⟩ := Option.isSome_iff_exists.mp live
  obtain ⟨children, foundNext⟩ := grows.nodes id node found
  rw [foundNext]
  rfl

/-! ## Trees with one root -/

/-- Whether the nodes of a tree from an id on are those from a root on, each of
them a child of an earlier one. -/
structure Rooted (floor root : Nat) (tree : NodeTree) : Prop where
  floor_le : floor ≤ root
  top : ∃ node, tree.node? root = some node ∧ node.parent = none
  live : ∀ id : Nat, floor ≤ id → (tree.node? id).isSome → root ≤ id
  below : ∀ id : Nat, root < id → id < tree.nextId →
    ∃ (parent : Nat) (above : Node),
      tree.Under parent id ∧ root ≤ parent ∧ parent < id ∧
        tree.node? parent = some above ∧ id ∈ above.children

namespace Rooted

variable {floor root : Nat} {tree : NodeTree}

theorem root_lt (rooted : tree.Rooted floor root) : root < tree.nextId := by
  obtain ⟨node, found, _⟩ := rooted.top
  exact lt_nextId_of_node? found

theorem isSome (rooted : tree.Rooted floor root) {id : Nat}
    (from_ : root ≤ id) (before : id < tree.nextId) :
    (tree.node? id).isSome := by
  rcases Nat.eq_or_lt_of_le from_ with rfl | later
  · obtain ⟨node, found, _⟩ := rooted.top
    rw [found]
    rfl
  · obtain ⟨parent, above, under, _⟩ := rooted.below id later before
    obtain ⟨node, found, _⟩ := Option.bind_eq_some_iff.mp under
    rw [found]
    rfl

theorem isSome_iff (rooted : tree.Rooted floor root) {id : Nat}
    (counts : floor ≤ id) :
    (tree.node? id).isSome ↔ root ≤ id ∧ id < tree.nextId := by
  constructor
  · intro live
    obtain ⟨node, found⟩ := Option.isSome_iff_exists.mp live
    exact ⟨rooted.live id counts live, lt_nextId_of_node? found⟩
  · rintro ⟨from_, before⟩
    exact rooted.isSome from_ before

/-- A chain of parents gets nearer to the root with every step. -/
theorem climb_isSome (rooted : tree.Rooted floor root) {id : Nat}
    {node : Node} (found : tree.node? id = some node) (from_ : root ≤ id)
    {steps : Nat} (enough : id - root ≤ steps) (sum : Vec3) :
    (tree.climb steps sum node.parent).isSome := by
  induction steps generalizing id node sum with
  | zero =>
      obtain rfl : id = root := by omega
      obtain ⟨top, foundTop, parentless⟩ := rooted.top
      obtain rfl : top = node := Option.some.inj (foundTop.symm.trans found)
      rw [parentless]
      rfl
  | succ steps inductionHypothesis =>
      rcases Nat.eq_or_lt_of_le from_ with rfl | later
      · obtain ⟨top, foundTop, parentless⟩ := rooted.top
        obtain rfl : top = node := Option.some.inj (foundTop.symm.trans found)
        rw [parentless]
        rfl
      · obtain ⟨parent, above, under, fromRoot, earlier, foundAbove, _⟩ :=
          rooted.below id later (lt_nextId_of_node? found)
        have hangs : node.parent = some parent := by
          rw [Under, found] at under
          exact under
        -- The parent is nearer to the root, so one step fewer is enough.
        rw [hangs, climb, foundAbove]
        exact inductionHypothesis foundAbove fromRoot (by omega) _

theorem worldPosition_isSome (rooted : tree.Rooted floor root) {id : Nat}
    (counts : floor ≤ id) (live : (tree.node? id).isSome) :
    (tree.worldPosition id).isSome := by
  obtain ⟨node, found⟩ := Option.isSome_iff_exists.mp live
  have inside := (rooted.isSome_iff counts).mp live
  rw [worldPosition, found]
  exact rooted.climb_isSome found inside.1 (by omega) _

theorem addBelow (rooted : tree.Rooted floor root) {parent : Nat}
    (from_ : root ≤ parent) (before : parent < tree.nextId) (name : String)
    (position : Vec3) :
    (tree.addBelow parent name position).Rooted floor root := by
  have live := rooted.isSome from_ before
  obtain ⟨above, found⟩ := Option.isSome_iff_exists.mp live
  have grows := extends_addBelow live name position
  have lookUp := node?_addBelow found name position
  refine ⟨rooted.floor_le, ?top, ?live, ?below⟩
  case top =>
    obtain ⟨top, foundTop, parentless⟩ := rooted.top
    obtain ⟨children, foundNow⟩ := grows.nodes root top foundTop
    exact ⟨_, foundNow, parentless⟩
  case live =>
    intro id counts isLive
    rw [lookUp] at isLive
    by_cases own : id = tree.nextId
    · have top := rooted.root_lt
      omega
    · rw [if_neg own] at isLive
      by_cases isParent : id = parent
      · exact isParent ▸ from_
      · rw [if_neg isParent] at isLive
        exact rooted.live id counts isLive
  case below =>
    intro id later inside
    rw [nextId_addBelow] at inside
    by_cases own : id = tree.nextId
    · subst own
      refine ⟨parent, { above with children := above.children ++ [tree.nextId] },
        ?_, from_, before, ?_, by simp⟩
      · rw [Under, lookUp, if_pos rfl]
        rfl
      · rw [lookUp, if_neg (Nat.ne_of_lt before), if_pos rfl]
    · have older : id < tree.nextId := by omega
      obtain ⟨higher, node, under, fromRoot, earlier, foundNode, child⟩ :=
        rooted.below id later older
      obtain ⟨children, foundNow⟩ := grows.nodes higher node foundNode
      exact ⟨higher, _, under.extends grows, fromRoot, earlier, foundNow,
        List.mem_append_left children child⟩

theorem create
    (bare : ∀ id : Nat, floor ≤ id → tree.node? id = none)
    (old : floor ≤ tree.nextId) (name : String) :
    (tree.create name).Rooted floor tree.nextId := by
  refine ⟨old, ⟨_, by rw [node?_create, if_pos rfl], rfl⟩, ?live, ?below⟩
  case live =>
    intro id counts live
    by_cases own : id = tree.nextId
    · exact Nat.le_of_eq own.symm
    · rw [node?_create, if_neg own, bare id counts] at live
      simp at live
  case below =>
    intro id later inside
    rw [nextId_create] at inside
    omega

end Rooted

end NodeTree

end Stagecraft
