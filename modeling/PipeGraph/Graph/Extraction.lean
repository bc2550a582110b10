import PipeGraph.Graph.Model
import PipeGraph.Log.Logged
import PipeGraph.Tree.Input

/-!
# Extraction

The input tree of a model is found by walking its edges backwards from the
result: first to the producer of the result, then from every node to the nodes
that feed it.  The walk goes no deeper than the number of nodes, which is
enough for every graph whose followed edges form no cycle.
-/

namespace PipeGraph

/-- What to do with a command that several edges feed by its pipe. -/
inductive PipePolicy where
  /-- Follow the first of the edges and ignore the others. -/
  | firstWins
  /-- Refuse the graph. -/
  | strict
  deriving DecidableEq, Repr

namespace Incoming

/-- The name of the parameter that an edge into a command feeds; without one
the edge feeds the pipe. -/
def parameter? (edge : Incoming) : Option String :=
  match edge.handle with
  | some (.named name) => some name
  | _ => none

/-- The sources of the edges that feed a command's pipe. -/
def pipeSources (edges : List Incoming) : List NodeId :=
  (edges.filter fun edge => edge.parameter?.isNone).map Incoming.source

/-- The parameters of a command, each with the source of its value. -/
def parameterSources (edges : List Incoming) : List (String × NodeId) :=
  edges.filterMap fun edge =>
    edge.parameter?.map fun name => (name, edge.source)

end Incoming

/-- The sources found so far for the two operands of an operator. -/
structure OperandSources where
  left : Option NodeId
  right : Option NodeId
  deriving DecidableEq, Repr

namespace OperandSources

/-- No operand has a source yet. -/
def unassigned : OperandSources := ⟨none, none⟩

/-- Give an operand its source, unless it already has one. -/
def assign (sources : OperandSources) (edge : Incoming) :
    Except HandleFault OperandSources :=
  match edge.handle with
  | some (.operand .left) =>
      if sources.left.isSome then .error (.repeated .left)
      else .ok { sources with left := some edge.source }
  | some (.operand .right) =>
      if sources.right.isSome then .error (.repeated .right)
      else .ok { sources with right := some edge.source }
  | some (.named tag) => .error (.named edge.source tag)
  | none => .error (.missing edge.source)

/-- The sources of both operands. -/
def both : OperandSources → Except HandleFault (NodeId × NodeId)
  | ⟨some left, some right⟩ => .ok (left, right)
  | _ => .error .incomplete

/-- The sources of the left and the right operand among the edges into an
operator. -/
def ofEdges (edges : List Incoming) :
    Except HandleFault (NodeId × NodeId) := do
  let sources ← edges.foldlM assign unassigned
  sources.both

end OperandSources

namespace Model

/-- The sources of the operands of an operator node. -/
def operandSources (model : Model) (nodeId : NodeId) :
    Except CompileError (NodeId × NodeId) :=
  let edges := model.incoming nodeId
  if edges.length = 2 then
    (OperandSources.ofEdges edges).mapError (.operatorHandles nodeId)
  else .error (.operatorArity nodeId edges.length)

/-- Apply the pipe policy to a command with the given pipe sources. -/
def checkPipe (policy : PipePolicy) (nodeId : NodeId) (name : String)
    (sources : List NodeId) : Logged CompileError Unit :=
  if sources.length ≤ 1 then pure ()
  else
    match policy with
    | .firstWins =>
        Logged.emit (.pipeInputsIgnored nodeId name (sources.length - 1))
    | .strict => Logged.fail (.ambiguousPipeInput nodeId sources.length)

/-- The tree of a node, seen as an input of the node `consumerId`.  The budget
bounds the depth of the walk. -/
def resolve (policy : PipePolicy) (model : Model) :
    Nat → NodeId → NodeId → Logged CompileError InputTree
  | 0, nodeId, _ => Logged.fail (.cyclicFlow nodeId)
  | budget + 1, nodeId, consumerId =>
      match model.role? nodeId with
      | none =>
          Logged.fail (.malformedReference (.unknownNode nodeId consumerId))
      | some role => do
          Logged.emit (.resolving nodeId role.kindName)
          match role with
          | .result => Logged.fail (.resultAsInput consumerId)
          | .data text literalType => return .data text literalType
          | .operation operator => do
              let (leftId, rightId) ←
                Logged.ofExcept (model.operandSources nodeId)
              let left ← resolve policy model budget leftId nodeId
              let right ← resolve policy model budget rightId nodeId
              return .operation operator left right
          | .command name switches => do
              let edges := model.incoming nodeId
              let pipeIds := Incoming.pipeSources edges
              checkPipe policy nodeId name pipeIds
              let input ← Logged.traverseOption
                (fun source => resolve policy model budget source nodeId)
                pipeIds.head?
              let parameters ← Logged.traverse
                (fun (parameter, source) => do
                  let value ← resolve policy model budget source nodeId
                  return (parameter, value))
                (Incoming.parameterSources edges)
              return .command name input parameters switches

/-- The tree of the whole model, as far as the budget for the depth of the walk
goes. -/
def extractWithin (policy : PipePolicy) (model : Model) (budget : Nat) :
    Logged CompileError InputTree :=
  match model.incoming model.resultId with
  | [] => Logged.fail .missingResultProducer
  | [root] => resolve policy model budget root.source model.resultId
  | several => Logged.fail (.ambiguousResultProducer several.length)

/-- The tree of the whole model. -/
def extract (policy : PipePolicy) (model : Model) :
    Logged CompileError InputTree :=
  model.extractWithin policy model.nodeCount

end Model

end PipeGraph
