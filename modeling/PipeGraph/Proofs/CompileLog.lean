import PipeGraph.Proofs.Artifacts
import PipeGraph.Proofs.WalkLog

/-!
# The log of a compilation

The log of a compilation that succeeds can be read off its input tree: between
the reports about the graph and those about the outcome it has one visit for
each node of the tree, in preorder.  If the walk fails, the last visit in the
log is that of the node at fault.
-/

namespace PipeGraph

namespace Model

/-! ## The log of extraction -/

section Looks

variable {policy : PipePolicy} {model : Model} {visits : List Visit}

end Looks

section Extraction

variable {policy : PipePolicy} {model : Model} {producer : Incoming}
  {visits : List Visit}

end Extraction

/-! ## Visits in the log -/

section Visits

variable {policy : PipePolicy} {model : Model}

end Visits

end Model

namespace Compiler

section Logs

variable {compiler : Compiler} {graph : Editor.Graph} {model : Model}

/-- What is reported before the walk starts. -/
def opening (graph : Editor.Graph) (model : Model) : List Event :=
  [.compilationStarted graph.nodes.length graph.edges.length,
    .modelBuilt model.nodeCount model.edgeCount model.resultId]

/-- What is reported once the tree is there. -/
def closing (tree : InputTree) : List Event :=
  [.treeExtracted tree.size,
    .compilationSucceeded tree.artifacts.source.utf8ByteSize]

end Logs

end Compiler

end PipeGraph
