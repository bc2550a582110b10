import PipeGraph.Literal
import PipeGraph.Operator
import PipeGraph.Tree.Outline

/-!
# Input trees

The input tree of a graph has one node for every use of a graph node.  A
command keeps the tree that feeds its pipe beside its parameters; pipes become
explicit only in the syntax tree.
-/

namespace PipeGraph

/-- What a graph computes, seen from its result. -/
inductive InputTree where
  | command (name : String) (input : Option InputTree)
      (parameters : List (String × InputTree)) (switches : List String)
  | data (text : String) (literalType : LiteralType)
  | operation (operator : Operator) (left right : InputTree)

namespace InputTree

instance : Inhabited InputTree where
  default := data "" .string

/-- Set the pipe input of a command; any other tree stays as it is. -/
def withInput (tree input : InputTree) : InputTree :=
  match tree with
  | command name _ parameters switches =>
      command name (some input) parameters switches
  | other => other

mutual

/-- The number of nodes of an input tree. -/
def size : InputTree → Nat
  | command _ input parameters _ =>
      1 + inputSize input + parametersSize parameters
  | data _ _ => 1
  | operation _ left right => 1 + left.size + right.size

/-- The number of nodes of an optional pipe input. -/
def inputSize : Option InputTree → Nat
  | none => 0
  | some input => input.size

/-- The number of nodes of all parameter values. -/
def parametersSize : List (String × InputTree) → Nat
  | [] => 0
  | (_, value) :: others => value.size + parametersSize others

end

/-- The text that a node shows in a drawing. -/
def label : InputTree → String
  | command name _ _ [] => "Command: " ++ name
  | command name _ _ switches =>
      "Command: " ++ name ++ " [" ++ ", ".intercalate switches ++ "]"
  | data text literalType =>
      "Data (" ++ literalType.name ++ "): " ++ text
  | operation operator _ _ =>
      "Operator (" ++ operator.group.name ++ "): " ++ operator.token

mutual

/-- The outline of a tree whose root line starts with a lead-in text. -/
def outlineWith (lead : String) : InputTree → Outline
  | command name input parameters switches =>
      .node (lead ++ label (command name input parameters switches))
        (inputOutlines input ++ parameterOutlines parameters)
  | data text literalType => .node (lead ++ label (data text literalType)) []
  | operation operator left right =>
      .node (lead ++ label (.operation operator left right))
        [left.outlineWith "", right.outlineWith ""]

/-- The outline of an optional pipe input. -/
def inputOutlines : Option InputTree → List Outline
  | none => []
  | some input => [input.outlineWith "input = "]

/-- The outlines of the parameter values, each behind its name. -/
def parameterOutlines : List (String × InputTree) → List Outline
  | [] => []
  | (name, value) :: others =>
      value.outlineWith (name ++ " = ") :: parameterOutlines others

end

/-- The outline of an input tree. -/
def outline (tree : InputTree) : Outline := tree.outlineWith ""

/-- The drawing of an input tree. -/
def draw (tree : InputTree) : String := tree.outline.draw

end InputTree

end PipeGraph
