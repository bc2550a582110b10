import PipeGraph.Literal
import PipeGraph.Operator
import PipeGraph.Tree.Outline

/-!
# Syntax trees

A syntax tree has one constructor for every construct of the source text.
-/

namespace PipeGraph

/-- A tree ready to be written as source text. -/
inductive SyntaxTree where
  | command (name : String) (parameters : List (String × Option SyntaxTree))
  | pipe (left right : SyntaxTree)
  | literal (literalType : LiteralType) (text : String)
  | operation (operator : Operator) (left right : SyntaxTree)

namespace SyntaxTree

instance : Inhabited SyntaxTree where
  default := literal .string ""

/-- The text that a node shows in a drawing. -/
def label : SyntaxTree → String
  | command name _ => "Command: " ++ name
  | pipe _ _ => "Pipe"
  | literal literalType text =>
      "Literal (" ++ literalType.name ++ "): " ++ text
  | operation operator _ _ =>
      "Operator (" ++ operator.group.name ++ "): " ++ operator.token

mutual

/-- The outline of a tree whose root line starts with a lead-in text. -/
def outlineWith (lead : String) : SyntaxTree → Outline
  | command name parameters =>
      .node (lead ++ label (command name parameters))
        (parameterOutlines parameters)
  | pipe left right =>
      .node (lead ++ label (pipe left right))
        [left.outlineWith "", right.outlineWith ""]
  | literal literalType text =>
      .node (lead ++ label (literal literalType text)) []
  | operation operator left right =>
      .node (lead ++ label (.operation operator left right))
        [left.outlineWith "", right.outlineWith ""]

/-- The outlines of those parameters that have a value. -/
def parameterOutlines : List (String × Option SyntaxTree) → List Outline
  | [] => []
  | (_, none) :: others => parameterOutlines others
  | (name, some value) :: others =>
      value.outlineWith (name ++ " = ") :: parameterOutlines others

end

/-- The outline of a syntax tree. -/
def outline (tree : SyntaxTree) : Outline := tree.outlineWith ""

/-- The drawing of a syntax tree. -/
def draw (tree : SyntaxTree) : String := tree.outline.draw

end SyntaxTree

end PipeGraph
