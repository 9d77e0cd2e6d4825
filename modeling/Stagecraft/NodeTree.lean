import Stagecraft.Slots
import Stagecraft.Content.Scene

/-!
# Node tree

The hierarchy that a renderer shows: named nodes with a position relative to
their parent, a selected root and the properties of the current scenery.
Operations on unknown nodes change nothing.
-/

namespace Stagecraft

/-- The id of a node. -/
abbrev NodeId := Nat

/-- A node of the hierarchy. -/
structure Node where
  name : String
  parent : Option NodeId
  children : List NodeId
  position : Vec3
  visible : Bool
deriving DecidableEq

/-- A hierarchy of nodes. -/
structure NodeTree where
  nodes : Slots Node
  activeRoot : Option NodeId
  props : Props

namespace NodeTree

def empty : NodeTree := ⟨Slots.empty, none, []⟩

instance : Inhabited NodeTree := ⟨empty⟩

def node? (tree : NodeTree) (id : NodeId) : Option Node := tree.nodes.get? id

def nextId (tree : NodeTree) : NodeId := tree.nodes.nextId

def create (tree : NodeTree) (name : String) : NodeTree :=
  { tree with nodes := tree.nodes.insert ⟨name, none, [], Vec3.zero, true⟩ }

def modify (tree : NodeTree) (id : NodeId) (change : Node → Node) : NodeTree :=
  { tree with nodes := tree.nodes.modify id change }

def detach (tree : NodeTree) (id : NodeId) : NodeTree :=
  let freed :=
    match (tree.node? id).bind Node.parent with
    | some parent =>
        tree.modify parent fun node =>
          { node with children := node.children.filter (· != id) }
    | none => tree
  freed.modify id fun node => { node with parent := none }

/-- Makes a node the last child of another one. A node is never made its own
child. -/
def addChild (tree : NodeTree) (parent child : NodeId) : NodeTree :=
  if parent = child ∨ !tree.nodes.contains parent ∨
      !tree.nodes.contains child then
    tree
  else
    let attached :=
      (tree.detach child).modify child fun node =>
        { node with parent := some parent }
    attached.modify parent fun node =>
      { node with children := node.children ++ [child] }

def setPosition (tree : NodeTree) (id : NodeId) (position : Vec3) : NodeTree :=
  tree.modify id fun node => { node with position := position }

def setVisible (tree : NodeTree) (id : NodeId) (visible : Bool) : NodeTree :=
  tree.modify id fun node => { node with visible := visible }

/-- Selects the root to show; an unknown node selects nothing. -/
def setActiveRoot (tree : NodeTree) (root : Option NodeId) : NodeTree :=
  { tree with activeRoot := root.filter tree.nodes.contains }

def applyProps (tree : NodeTree) (props : Props) : NodeTree :=
  { tree with props := props }

def forgetRoot (tree : NodeTree) (id : NodeId) : NodeTree :=
  if tree.activeRoot = some id then
    { tree with activeRoot := none }
  else
    tree

@[simp]
theorem forgetRoot_nodes (tree : NodeTree) (id : NodeId) :
    (tree.forgetRoot id).nodes = tree.nodes := by
  unfold forgetRoot
  split <;> rfl

/-- Deletes the listed nodes and everything that child lists lead to from
them. Each deletion makes the tree smaller, so links that run in a circle do no
harm. -/
def removeAll : List NodeId → NodeTree → NodeTree
  | [], tree => tree
  | id :: waiting, tree =>
      match _found : tree.nodes.get? id with
      | some node =>
          removeAll (node.children ++ waiting)
            { tree.forgetRoot id with nodes := tree.nodes.erase id }
      | none => removeAll waiting (tree.forgetRoot id)
termination_by waiting tree => (tree.nodes.count, waiting.length)
decreasing_by
  · apply Prod.Lex.left
    exact Slots.count_erase_lt tree.nodes id (by simp [Slots.contains, *])
  · rw [forgetRoot_nodes]
    apply Prod.Lex.right
    simp

def remove (tree : NodeTree) (id : NodeId) : NodeTree :=
  removeAll [id] (tree.detach id)

def findByName (tree : NodeTree) (name : String) : Option NodeId :=
  (tree.nodes.entries.find? fun (_, node) => node.name == name).map Prod.fst

/-- Adds the positions of a node's ancestors, nearest first, to a sum. A chain
of parents that is no longer than the number of steps is summed completely. -/
def climb (tree : NodeTree) : Nat → Vec3 → Option NodeId → Option Vec3
  | _, sum, none => some sum
  | 0, _, some _ => none
  | steps + 1, sum, some parent =>
      match tree.node? parent with
      | some node => climb tree steps (sum + node.position) node.parent
      | none => none

/-- The position of a node in the world. Nothing is said of a node whose
parents run in a circle. -/
def worldPosition (tree : NodeTree) (id : NodeId) : Option Vec3 :=
  match tree.node? id with
  | some node => tree.climb tree.nextId node.position node.parent
  | none => none

end NodeTree

end Stagecraft
