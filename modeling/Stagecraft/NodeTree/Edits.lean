import Stagecraft.NodeTree

/-!
# Edits

Everything that a renderer can ask of a node tree, as one list of edits, and a
removal seen step by step. Ids in edits are arbitrary: they may be unknown, belong
to removed nodes, or repeat.
-/

namespace Stagecraft

inductive NodeEdit where
  | create (name : String)
  | addChild (parent child : NodeId)
  | remove (id : NodeId)
  | setPosition (id : NodeId) (position : Vec3)
  | setVisible (id : NodeId) (visible : Bool)
  | setActiveRoot (root : Option NodeId)
  | applyProps (props : Props)

namespace NodeTree

def edit (tree : NodeTree) : NodeEdit → NodeTree
  | .create name => tree.create name
  | .addChild parent child => tree.addChild parent child
  | .remove id => tree.remove id
  | .setPosition id position => tree.setPosition id position
  | .setVisible id visible => tree.setVisible id visible
  | .setActiveRoot root => tree.setActiveRoot root
  | .applyProps props => tree.applyProps props

/-- The tree that edits make of one that never had a node. -/
def ofEdits (edits : List NodeEdit) : NodeTree := edits.foldl edit empty

/-! ## Removals step by step -/

/-- The tree once a single node is deleted, its children left without it. -/
abbrev delete (tree : NodeTree) (id : NodeId) : NodeTree :=
  { tree.forgetRoot id with nodes := tree.nodes.erase id }

/-- A removal under way: the nodes that wait to be deleted, and the tree so far. -/
structure Clearance where
  waiting : List NodeId
  tree : NodeTree

/-- How a removal goes on: the next node that waits is deleted, and its children
wait from then on; if it is not there, nothing happens to the nodes. -/
inductive Clearance.Next : Clearance → Clearance → Prop where
  | deletes {tree : NodeTree} {id : NodeId} {node : Node}
      (waiting : List NodeId) (found : tree.node? id = some node) :
      Next ⟨id :: waiting, tree⟩
        ⟨node.children ++ waiting, tree.delete id⟩
  | passes {tree : NodeTree} {id : NodeId} (waiting : List NodeId)
      (missing : tree.node? id = none) :
      Next ⟨id :: waiting, tree⟩ ⟨waiting, tree.forgetRoot id⟩

end NodeTree

end Stagecraft
