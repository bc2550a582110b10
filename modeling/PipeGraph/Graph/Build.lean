import PipeGraph.Graph.Classification
import PipeGraph.Graph.Model

/-!
# Building models

An editor graph becomes a model when every node has a role, every literal is
valid, no id is declared twice, there is exactly one result node, and every
edge joins declared nodes.  The checks run in that order: node by node, then
the result, then edge by edge, and the first defect is reported.
-/

namespace PipeGraph

namespace Rules

/-- Check the literal of a data node. -/
def checkLiteral (rules : Rules) (nodeId : NodeId) :
    Role → Except CompileError Unit
  | .data text literalType =>
      match rules.validator with
      | none => .ok ()
      | some isValid =>
          if isValid text literalType then .ok ()
          else .error (.invalidLiteral nodeId text literalType)
  | _ => .ok ()

end Rules

/-- What is known of a graph once some of its nodes are declared. -/
structure Declared where
  roles : List (NodeId × Role)
  /-- An entry for every declared node.  Edges are looked at later. -/
  edges : EdgeIndex
  /-- The declared result nodes. -/
  resultIds : List NodeId
  deriving DecidableEq, Repr

namespace Declared

/-- No node is declared yet. -/
def nothing : Declared := ⟨[], [], []⟩

/-- Add a node behind the others. -/
def add (declared : Declared) (nodeId : NodeId) (role : Role) : Declared where
  roles := declared.roles ++ [(nodeId, role)]
  edges := declared.edges ++ [(nodeId, [])]
  resultIds :=
    if role = .result then declared.resultIds ++ [nodeId]
    else declared.resultIds

end Declared

/-- Declare one more node. -/
def Rules.declare (rules : Rules) (declared : Declared) (node : Editor.Node) :
    Except CompileError Declared := do
  let role ← (rules.classify node).mapError (.unrecognizedRole node.id)
  rules.checkLiteral node.id role
  if (declared.roles.lookup node.id).isSome then
    throw (.malformedReference (.repeatedNode node.id))
  return declared.add node.id role

/-- An edge as its target sees it. -/
def Editor.Edge.incoming (edge : Editor.Edge) : Incoming :=
  ⟨edge.source, edge.handle.map Handle.ofTag⟩

namespace Model

/-- The only one of the declared result nodes. -/
def resultId? : List NodeId → Except CompileError NodeId
  | [single] => .ok single
  | [] => .error (.malformedReference .noResult)
  | several =>
      .error (.malformedReference (.severalResults several.length))

/-- Put an edge under its target, if both its ends are declared. -/
def link (roles : List (NodeId × Role)) (index : EdgeIndex)
    (edge : Editor.Edge) : Except CompileError EdgeIndex :=
  if (roles.lookup edge.source).isNone then
    .error (.malformedReference
      (.undeclaredEnd edge.source edge.target edge.source))
  else
    match index.push? edge.target edge.incoming with
    | none =>
        .error (.malformedReference
          (.undeclaredEnd edge.source edge.target edge.target))
    | some index => .ok index

/-- The model of an editor graph. -/
def build (rules : Rules) (graph : Editor.Graph) :
    Except CompileError Model := do
  let declared ← graph.nodes.foldlM rules.declare .nothing
  let resultId ← resultId? declared.resultIds
  let edges ← graph.edges.foldlM (link declared.roles) declared.edges
  return ⟨declared.roles, edges, resultId, graph.edges.length⟩

end Model

end PipeGraph
