import Stagecraft.Proofs.NodeTree.Growth

/-!
# What a tree shows of actors

A node stands where its actor stands and is visible while its actor is awake.
Whatever is done to actors together with their nodes keeps this up, changes the
tree in nothing but positions and visibility, and touches no nodes of others.
-/

namespace Stagecraft

/-! ## Trees of one shape -/

/-- How a node is linked to others. -/
def Node.links (node : Node) : Option NodeId × List NodeId :=
  (node.parent, node.children)

namespace NodeTree

/-- Whether two trees differ at most in names, positions and visibility. -/
structure SameShape (before after : NodeTree) : Prop where
  nextId : after.nextId = before.nextId
  activeRoot : after.activeRoot = before.activeRoot
  props : after.props = before.props
  links : ∀ id, (after.node? id).map Node.links =
    (before.node? id).map Node.links

theorem SameShape.refl (tree : NodeTree) : SameShape tree tree :=
  ⟨rfl, rfl, rfl, fun _ => rfl⟩

theorem SameShape.trans
    {first second third : NodeTree} (same : SameShape first second)
    (sameAgain : SameShape second third) :
    SameShape first third :=
  ⟨sameAgain.nextId.trans same.nextId,
    sameAgain.activeRoot.trans same.activeRoot,
    sameAgain.props.trans same.props,
    fun id => (sameAgain.links id).trans (same.links id)⟩

theorem sameShape_modify (tree : NodeTree) (changed : NodeId)
    {change : Node → Node} (keeps : ∀ node, (change node).links = node.links) :
    SameShape tree (tree.modify changed change) := by
  refine ⟨tree.nextId_modify changed change, rfl, rfl, fun id => ?_⟩
  rw [node?_modify]
  by_cases own : id = changed
  · rw [if_pos own, Option.map_map]
    congr 1
    funext node
    exact keeps node
  · rw [if_neg own]

theorem SameShape.isSome
    {before after : NodeTree} (same : SameShape before after) (id : NodeId) :
    (after.node? id).isSome = (before.node? id).isSome := by
  have links := congrArg Option.isSome (same.links id)
  rwa [Option.isSome_map, Option.isSome_map] at links

/-- A node of one tree has its counterpart in the other. -/
theorem SameShape.exists
    {before after : NodeTree} (same : SameShape before after) {id : NodeId}
    {node : Node} (found : before.node? id = some node) :
    ∃ now, after.node? id = some now ∧ now.parent = node.parent ∧
      now.children = node.children := by
  have links := same.links id
  rw [found, Option.map_some, Option.map_eq_some_iff] at links
  obtain ⟨now, foundNow, linked⟩ := links
  exact ⟨now, foundNow, congrArg Prod.fst linked, congrArg Prod.snd linked⟩

theorem Under.of_sameShape
    {before after : NodeTree} {parent id : NodeId}
    (under : before.Under parent id) (same : SameShape before after) :
    after.Under parent id := by
  refine under.of_parents fun node found => ?_
  obtain ⟨now, foundNow, sameParent, _⟩ := same.exists found
  exact ⟨now, foundNow, sameParent⟩

theorem Rooted.of_sameShape
    {floor root : Nat} {before after : NodeTree}
    (rooted : before.Rooted floor root) (same : SameShape before after) :
    after.Rooted floor root := by
  refine ⟨rooted.floor_le, ?top, ?live, ?below⟩
  case top =>
    obtain ⟨node, found, parentless⟩ := rooted.top
    obtain ⟨now, foundNow, sameParent, _⟩ := same.exists found
    exact ⟨now, foundNow, sameParent.trans parentless⟩
  case live =>
    intro id counts live
    rw [same.isSome] at live
    exact rooted.live id counts live
  case below =>
    intro id later inside
    rw [same.nextId] at inside
    obtain ⟨parent, above, under, from_, earlier, found, child⟩ :=
      rooted.below id later inside
    obtain ⟨now, foundNow, _, sameChildren⟩ := same.exists found
    exact ⟨parent, now, under.of_sameShape same, from_, earlier, foundNow,
      sameChildren ▸ child⟩

structure Keeps (before after : NodeTree) : Prop where
  nodes : ∀ id node, before.node? id = some node →
    ∃ now, after.node? id = some now ∧ now.parent = node.parent ∧
      now.position = node.position ∧ now.visible = node.visible

theorem Extends.keeps
    {before after : NodeTree} (grows : Extends before after) :
    Keeps before after := by
  refine ⟨fun id node found => ?_⟩
  obtain ⟨children, foundNow⟩ := grows.nodes id node found
  exact ⟨_, foundNow, rfl, rfl, rfl⟩

theorem Under.keeps
    {before after : NodeTree} {parent id : NodeId}
    (under : before.Under parent id) (keeps : Keeps before after) :
    after.Under parent id := by
  refine under.of_parents fun node found => ?_
  obtain ⟨now, foundNow, sameParent, _⟩ := keeps.nodes id node found
  exact ⟨now, foundNow, sameParent⟩

/-- Whether the node of an actor, if it has one, stands where the actor stands and
is visible exactly while the actor is awake. -/
def Displays (tree : NodeTree) (actor : Actor) : Prop :=
  ∀ id, actor.node = some id → ∃ node, tree.node? id = some node ∧
    node.position = actor.position ∧ node.visible = actor.alive

theorem Displays.of_node?
    {before after : NodeTree} {actor : Actor} (displays : before.Displays actor)
    (same : ∀ id, actor.node = some id → after.node? id = before.node? id) :
    after.Displays actor := by
  intro id known
  obtain ⟨node, found, place, sight⟩ := displays id known
  exact ⟨node, (same id known).trans found, place, sight⟩

theorem Displays.keeps
    {before after : NodeTree} {actor : Actor} (displays : before.Displays actor)
    (keeps : Keeps before after) :
    after.Displays actor := by
  intro id known
  obtain ⟨node, found, place, sight⟩ := displays id known
  obtain ⟨now, foundNow, _, samePlace, sameSight⟩ := keeps.nodes id node found
  exact ⟨now, foundNow, samePlace.trans place, sameSight.trans sight⟩

end NodeTree

/-! ## Single actors -/

/-- Whether an actor and a tree become others without harm to what the tree shows:
the actor keeps its node, and only that node changes its place or sight. -/
structure Actor.Acts (actor : Actor) (tree : NodeTree) (changed : Actor)
    (after : NodeTree) : Prop where
  node : changed.node = actor.node
  shape : tree.SameShape after
  others : ∀ id, actor.node ≠ some id → after.node? id = tree.node? id
  displays : tree.Displays actor → after.Displays changed

namespace Actor

variable {actor changed last : Actor} {tree after afterAll : NodeTree}

theorem Acts.refl (actor : Actor) (tree : NodeTree) :
    actor.Acts tree actor tree :=
  ⟨rfl, .refl tree, fun _ _ => rfl, fun displays => displays⟩

theorem Acts.trans (acts : actor.Acts tree changed after)
    (actsAgain : changed.Acts after last afterAll) :
    actor.Acts tree last afterAll := by
  refine ⟨actsAgain.node.trans acts.node, acts.shape.trans actsAgain.shape,
    fun id other => ?_,
    fun displays => actsAgain.displays (acts.displays displays)⟩
  rw [actsAgain.others id (acts.node ▸ other), acts.others id other]

/-- A change that shows nowhere. -/
theorem acts_of_sameFigure (tree : NodeTree)
    (node : changed.node = actor.node)
    (position : changed.position = actor.position)
    (alive : changed.alive = actor.alive) :
    actor.Acts tree changed tree := by
  refine ⟨node, .refl tree, fun _ _ => rfl, fun displays id known => ?_⟩
  obtain ⟨shown, found, place, sight⟩ := displays id (node ▸ known)
  exact ⟨shown, found, place.trans position.symm, sight.trans alive.symm⟩

theorem acts_modify (tree : NodeTree) {id : NodeId}
    (known : actor.node = some id) (node : changed.node = actor.node)
    {change : Node → Node} (keeps : ∀ shown, (change shown).links = shown.links)
    (place : ∀ shown : Node, shown.position = actor.position →
      (change shown).position = changed.position)
    (sight : ∀ shown : Node, shown.visible = actor.alive →
      (change shown).visible = changed.alive) :
    actor.Acts tree changed (tree.modify id change) := by
  refine ⟨node, tree.sameShape_modify id keeps, fun other different => ?_,
    fun displays other own => ?_⟩
  · have apart : other ≠ id := fun same => different (same ▸ known)
    rw [NodeTree.node?_modify, if_neg apart]
  · obtain rfl : id = other :=
      Option.some.inj (known.symm.trans (node.symm.trans own))
    obtain ⟨shown, found, wasPlace, wasSight⟩ := displays id known
    refine ⟨change shown, ?_, place shown wasPlace, sight shown wasSight⟩
    rw [NodeTree.node?_modify, if_pos rfl, found, Option.map_some]

theorem acts_display (tree : NodeTree) (visible : Bool)
    (node : changed.node = actor.node)
    (position : changed.position = actor.position)
    (alive : changed.alive = visible) :
    actor.Acts tree changed (actor.display visible tree) := by
  unfold display
  cases known : actor.node with
  | none =>
      exact ⟨node, .refl tree, fun _ _ => rfl, fun _ id own => by
        rw [node, known] at own
        simp at own⟩
  | some id =>
      exact acts_modify tree known node (fun _ => rfl)
        (fun _ was => was.trans position.symm) fun _ _ => alive.symm

theorem acts_place (actor : Actor) (tree : NodeTree) (position : Vec3) :
    actor.Acts tree (actor.movedTo position) (actor.place position tree) := by
  unfold place
  cases known : actor.node with
  | none =>
      exact ⟨rfl, .refl tree, fun _ _ => rfl, fun _ id own => by
        have same : actor.node = some id := own
        rw [known] at same
        simp at same⟩
  | some id =>
      refine acts_modify tree known ?node ?keeps ?place ?sight
      case node => rfl
      case keeps => exact fun _ => rfl
      case place => exact fun _ _ => rfl
      case sight => exact fun _ was => was

theorem acts_kill (actor : Actor) (tree : NodeTree) :
    actor.Acts tree (actor.kill tree).1 (actor.kill tree).2 := by
  unfold kill
  split
  · exact acts_display tree false rfl rfl rfl
  · exact Acts.refl actor tree

theorem acts_revive (actor : Actor) (tree : NodeTree) :
    actor.Acts tree (actor.revive tree).1 (actor.revive tree).2 := by
  unfold revive
  split
  · exact Acts.refl actor tree
  · exact acts_display tree true rfl rfl rfl

theorem acts_moveTo (actor : Actor) (position : Vec3) (tree : NodeTree) :
    actor.Acts tree (actor.moveTo position tree).1
      (actor.moveTo position tree).2 :=
  acts_place actor tree position

theorem acts_reset (actor : Actor) (tree : NodeTree) :
    actor.Acts tree (actor.reset tree).1 (actor.reset tree).2 := by
  have placed := acts_place actor tree actor.spawn.position
  have shown :
      (actor.movedTo actor.spawn.position).Acts
        (actor.place actor.spawn.position tree) actor.atSpawn
        ((actor.movedTo actor.spawn.position).display true
          (actor.place actor.spawn.position tree)) :=
    acts_display _ true rfl rfl rfl
  exact placed.trans shown

end Actor

/-! ## Companies of actors -/

/-- The nodes of those actors who have one. -/
def nodesOf (actors : List Actor) : List NodeId := actors.filterMap Actor.node

theorem mem_nodesOf {actors : List Actor} {actor : Actor} {id : NodeId}
    (member : actor ∈ actors) (known : actor.node = some id) :
    id ∈ nodesOf actors :=
  List.mem_filterMap.mpr ⟨actor, member, known⟩

theorem filterMap_eq_of_map {α : Type} {node : α → Option NodeId}
    {before after : List α} (same : after.map node = before.map node) :
    after.filterMap node = before.filterMap node := by
  have flatten (parts : List α) :
      parts.filterMap node = (parts.map node).filterMap id := by
    rw [List.filterMap_map]
    rfl
  rw [flatten, flatten, same]

/-- Whether actors and a tree become others without harm to what the tree shows. -/
structure Restages (before : List Actor) (tree : NodeTree)
    (after : List Actor) (treeAfter : NodeTree) : Prop where
  nodes : after.map Actor.node = before.map Actor.node
  shape : tree.SameShape treeAfter
  others : ∀ id, id ∉ nodesOf before → treeAfter.node? id = tree.node? id
  displays : (nodesOf before).Nodup →
    (∀ actor ∈ before, tree.Displays actor) →
      ∀ actor ∈ after, treeAfter.Displays actor

namespace Restages

variable {first second third : List Actor}
  {tree treeNext treeLast : NodeTree}

theorem refl (actors : List Actor) (tree : NodeTree) :
    Restages actors tree actors tree :=
  ⟨rfl, .refl tree, fun _ _ => rfl, fun _ displays => displays⟩

theorem trans (restages : Restages first tree second treeNext)
    (restagesAgain : Restages second treeNext third treeLast) :
    Restages first tree third treeLast := by
  have same : nodesOf second = nodesOf first :=
    filterMap_eq_of_map restages.nodes
  refine ⟨restagesAgain.nodes.trans restages.nodes,
    restages.shape.trans restagesAgain.shape, fun id other => ?_,
    fun distinct displays => ?_⟩
  · rw [restagesAgain.others id (same ▸ other), restages.others id other]
  · exact restagesAgain.displays (same ▸ distinct)
      (restages.displays distinct displays)

theorem cons (actor : Actor) (restages : Restages first tree second treeNext) :
    Restages (actor :: first) tree (actor :: second) treeNext := by
  have later {id : NodeId} (other : id ∉ nodesOf (actor :: first)) :
      id ∉ nodesOf first := by
    intro member
    obtain ⟨owner, listed, known⟩ := List.mem_filterMap.mp member
    exact other (mem_nodesOf (List.mem_cons_of_mem actor listed) known)
  refine ⟨by simp [restages.nodes], restages.shape,
    fun id other => restages.others id (later other),
    fun distinct displays => ?_⟩
  rw [List.forall_mem_cons] at displays ⊢
  -- The node of the first actor is nobody else's, so nothing was done to it.
  have apart (id : NodeId) (known : actor.node = some id) :
      id ∉ nodesOf first := by
    rw [nodesOf, List.filterMap_cons_some known] at distinct
    exact (List.nodup_cons.mp distinct).1
  have distinctLater : (nodesOf first).Nodup :=
    distinct.sublist ((List.sublist_cons_self actor first).filterMap _)
  exact ⟨displays.1.of_node? fun id known =>
      restages.others id (apart id known),
    restages.displays distinctLater displays.2⟩

theorem head {actor changed : Actor} (acts : actor.Acts tree changed treeNext)
    (others : List Actor) :
    Restages (actor :: others) tree (changed :: others) treeNext := by
  refine ⟨by simp [acts.node], acts.shape, fun id other => ?_,
    fun distinct displays => ?_⟩
  · refine acts.others id fun known => other ?_
    exact mem_nodesOf List.mem_cons_self known
  · rw [List.forall_mem_cons] at displays ⊢
    refine ⟨acts.displays displays.1, fun other member => ?_⟩
    refine (displays.2 other member).of_node? fun id known => ?_
    apply acts.others
    intro same
    rw [nodesOf, List.filterMap_cons_some same] at distinct
    exact (List.nodup_cons.mp distinct).1 (mem_nodesOf member known)

end Restages

/-- What one of the actors does is no harm to the others. -/
theorem restages_set
    {actors : List Actor} {target : Nat} {actor changed : Actor}
    {tree after : NodeTree} (found : actors[target]? = some actor)
    (acts : actor.Acts tree changed after) :
    Restages actors tree (actors.set target changed) after := by
  induction actors generalizing target with
  | nil => simp at found
  | cons head tail inductionHypothesis =>
      cases target with
      | zero =>
          obtain rfl : head = actor := Option.some.inj found
          exact .head acts tail
      | succ target => exact (inductionHypothesis found).cons head

theorem restages_modify
    (actors : List Actor) (tree : NodeTree) (target : Nat)
    {change : Actor → Actor}
    (keeps : ∀ actor : Actor, actor.Acts tree (change actor) tree) :
    Restages actors tree (actors.modify target change) tree := by
  induction actors generalizing target with
  | nil => simpa using Restages.refl [] tree
  | cons head tail inductionHypothesis =>
      cases target with
      | zero => exact .head (keeps head) tail
      | succ target => exact (inductionHypothesis target).cons head

theorem restages_resetActors (actors : List Actor) (tree : NodeTree) :
    Restages actors tree (resetActors actors tree).1
      (resetActors actors tree).2 := by
  induction actors generalizing tree with
  | nil => exact Restages.refl [] tree
  | cons actor rest inductionHypothesis =>
      have reset := Restages.head (actor.acts_reset tree) rest
      exact reset.trans ((inductionHypothesis _).cons _)

end Stagecraft
