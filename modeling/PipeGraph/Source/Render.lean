import PipeGraph.Source.Flag
import PipeGraph.Tree.Syntax

/-!
# Source text

A syntax tree is written with parentheses around every operand, every side of a
pipe and every parameter value, so that the text never depends on precedence.
-/

namespace PipeGraph

/-- The parameter name that stands for the remaining arguments of a command. -/
def restMarker : String := "...rest"

/-- The token that spreads a value over the remaining arguments. -/
def spreadToken : String := "..."

namespace SyntaxTree

/-- Source text in parentheses. -/
def parenthesize (source : String) : String := "(" ++ source ++ ")"

/-- One parameter of a command, given the source text of its value.  The name
of a plain parameter is not written, so without a value nothing is. -/
def renderParameter (name : String) : Option String → String
  | none =>
      if name = restMarker then " " ++ spreadToken
      else if Flag.isDeclaration name then " " ++ Flag.recover name
      else ""
  | some value =>
      if name = restMarker then " " ++ spreadToken ++ parenthesize value
      else if Flag.isDeclaration name then
        " " ++ Flag.recover name ++ "=" ++ parenthesize value
      else " " ++ parenthesize value

mutual

/-- The source text of a syntax tree. -/
def render : SyntaxTree → String
  | command name parameters => name ++ renderParameters parameters
  | pipe left right =>
      parenthesize left.render ++ "|" ++ parenthesize right.render
  | literal _ text => text
  | operation operator left right =>
      parenthesize left.render ++ " " ++ operator.token ++ " " ++
        parenthesize right.render

/-- The source text of all parameters of a command. -/
def renderParameters : List (String × Option SyntaxTree) → String
  | [] => ""
  | (name, none) :: others =>
      renderParameter name none ++ renderParameters others
  | (name, some value) :: others =>
      renderParameter name (some value.render) ++ renderParameters others

end

end SyntaxTree

end PipeGraph
