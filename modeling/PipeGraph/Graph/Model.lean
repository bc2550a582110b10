import PipeGraph.Graph.Role

/-!
# Graph models

A model is a graph whose nodes all have a role and whose edges all join
declared nodes.  It is asked for the role of a node, for the edges into a node,
and for its result node.  The edges are kept under their targets, so that those
into one node are found without a look at the others.
-/

namespace PipeGraph

/-- An edge as seen from its target. -/
structure Incoming where
  source : NodeId
  handle : Option Handle
  deriving DecidableEq, Repr

/-- The edges into every declared node, under the id of the node. -/
abbrev EdgeIndex := List (NodeId × List Incoming)

namespace EdgeIndex

/-- The edges into a node, of which there are none if the node has no entry. -/
def edgesInto (index : EdgeIndex) (nodeId : NodeId) : List Incoming :=
  (index.lookup nodeId).getD []

/-- Put an edge behind the other ones into its target, which must have an
entry. -/
def push? (target : NodeId) (edge : Incoming) : EdgeIndex → Option EdgeIndex
  | [] => none
  | (nodeId, edges) :: index =>
      if nodeId = target then some ((nodeId, edges ++ [edge]) :: index)
      else (push? target edge index).map ((nodeId, edges) :: ·)

end EdgeIndex

/-- A checked graph. -/
structure Model where
  /-- The role of every node, in order of declaration. -/
  roles : List (NodeId × Role)
  /-- The edges into every node, in order of declaration. -/
  edges : EdgeIndex
  resultId : NodeId
  /-- The number of declared edges. -/
  edgeCount : Nat
  deriving DecidableEq, Repr

namespace Model

/-- The role of a node, if it is declared. -/
def role? (model : Model) (nodeId : NodeId) : Option Role :=
  model.roles.lookup nodeId

/-- The edges into a node, in order of declaration. -/
def incoming (model : Model) (nodeId : NodeId) : List Incoming :=
  model.edges.edgesInto nodeId

/-- The number of declared nodes. -/
def nodeCount (model : Model) : Nat := model.roles.length

end Model

end PipeGraph
