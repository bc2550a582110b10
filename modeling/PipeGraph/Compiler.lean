import PipeGraph.Editor.Reader
import PipeGraph.Graph.Build
import PipeGraph.Graph.Extraction
import PipeGraph.Json.Complaints
import PipeGraph.Source.Render
import PipeGraph.Tree.Normalize

/-!
# The compiler

Compiling an editor graph builds its model, extracts the input tree, makes
pipes explicit and writes the source text.  A compiler is only a choice of
rules and policy, so one compiler serves any number of graphs.
-/

namespace PipeGraph

/-- Everything that comes up while a graph is compiled. -/
structure Artifacts where
  inputTree : InputTree
  syntaxTree : SyntaxTree
  source : String

/-- The choices that govern compilation. -/
structure Compiler where
  rules : Rules
  pipePolicy : PipePolicy

namespace Compiler

/-- No type mappings, no validator, and the first pipe input wins. -/
def standard : Compiler := ⟨Rules.plain, .firstWins⟩

/-- Build the model of a graph and report its size. -/
def model (compiler : Compiler) (graph : Editor.Graph) :
    Logged CompileError Model := do
  let model ← Logged.ofExcept (Model.build compiler.rules graph)
  Logged.emit (.modelBuilt model.nodeCount model.edgeCount model.resultId)
  return model

/-- Compile a graph and keep the trees built on the way. -/
def artifacts (compiler : Compiler) (graph : Editor.Graph) :
    Logged CompileError Artifacts := do
  Logged.emit (.compilationStarted graph.nodes.length graph.edges.length)
  let model ← compiler.model graph
  let inputTree ← model.extract compiler.pipePolicy
  Logged.emit (.treeExtracted inputTree.size)
  let syntaxTree := inputTree.normalize
  let source := syntaxTree.render
  Logged.emit (.compilationSucceeded source.utf8ByteSize)
  return ⟨inputTree, syntaxTree, source⟩

/-- Compile a graph into source text. -/
def compile (compiler : Compiler) (graph : Editor.Graph) :
    Logged CompileError String :=
  (compiler.artifacts graph).reportFailure .compilationFailed >>= fun result =>
    return result.source

/-- Read a graph from JSON text. -/
def readGraph (text : String) (complaints : Json.Complaints := .silent) :
    Except CompileError Editor.Graph :=
  match Editor.Graph.parse? text with
  | some graph => .ok graph
  | none => .error (.unreadable (complaints.graph text))

/-- Read a graph from JSON text and compile it. -/
def compileJson (compiler : Compiler) (text : String)
    (complaints : Json.Complaints := .silent) : Logged CompileError String := do
  let graph ← Logged.ofExcept (readGraph text complaints)
  compiler.compile graph

end Compiler

end PipeGraph
