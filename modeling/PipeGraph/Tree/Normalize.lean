import PipeGraph.Tree.Input
import PipeGraph.Tree.Syntax

/-!
# Normalization

Normalizing an input tree makes its pipes explicit: a command that has a pipe
input becomes a pipe from that input into the command.  The parameters of a
command keep their order, and its switches follow them as parameters without a
value.
-/

namespace PipeGraph

namespace InputTree

/-- A switch as a parameter without a value. -/
def switchParameter (switch : String) : String × Option SyntaxTree :=
  (switch, none)

mutual

/-- The syntax tree of an input tree. -/
def normalize : InputTree → SyntaxTree
  | command name input parameters switches =>
      normalizeInput input
        (.command name
          (normalizeParameters parameters ++ switches.map switchParameter))
  | data text literalType => .literal literalType text
  | operation operator left right =>
      .operation operator left.normalize right.normalize

/-- A command behind the pipe from its input, when it has one. -/
def normalizeInput : Option InputTree → SyntaxTree → SyntaxTree
  | none, stage => stage
  | some input, stage => .pipe input.normalize stage

/-- The parameters of a command with normalized values. -/
def normalizeParameters :
    List (String × InputTree) → List (String × Option SyntaxTree)
  | [] => []
  | (name, value) :: others =>
      (name, some value.normalize) :: normalizeParameters others

end

end InputTree

end PipeGraph
