import PipeGraph.Source.Render

/-!
# What source text says

The source text of a tree does not tell a literal from a command without
arguments, and it leaves out the names of plain parameters.  A reading is what
is left, and the text of a tree depends on its reading alone.
-/

namespace PipeGraph

mutual

/-- What source text says about a tree. -/
inductive Reading where
  | atom (head : String) (arguments : List Argument)
  | pipe (left right : Reading)
  | operation (operator : Operator) (left right : Reading)

/-- What source text says about one argument of a command. -/
inductive Argument where
  | spread (value : Option Reading)
  | flag (token : String) (value : Option Reading)
  | positional (value : Reading)

end

/-- The visible argument, if any, that a parameter leaves in source text. -/
def Argument.ofParameter (name : String) (value : Option Reading) :
    List Argument :=
  if name = restMarker then [.spread value]
  else if Flag.isDeclaration name then [.flag (Flag.recover name) value]
  else (value.map .positional).toList

namespace SyntaxTree

mutual

/-- The reading that the source text of a tree should have. -/
def erase : SyntaxTree → Reading
  | command name parameters => .atom name (eraseParameters parameters)
  | pipe left right => .pipe left.erase right.erase
  | literal _ text => .atom text []
  | operation operator left right =>
      .operation operator left.erase right.erase

def eraseParameters : List (String × Option SyntaxTree) → List Argument
  | [] => []
  | (name, none) :: others =>
      Argument.ofParameter name none ++ eraseParameters others
  | (name, some value) :: others =>
      Argument.ofParameter name (some value.erase) ++ eraseParameters others

end

mutual

/-- The command names and the literal texts of a tree. -/
def words : SyntaxTree → List String
  | command name parameters => name :: parameterWords parameters
  | pipe left right => left.words ++ right.words
  | literal _ text => [text]
  | operation _ left right => left.words ++ right.words

def parameterWords : List (String × Option SyntaxTree) → List String
  | [] => []
  | (_, none) :: others => parameterWords others
  | (_, some value) :: others => value.words ++ parameterWords others

end

end SyntaxTree

/-! ## The text of a reading -/

mutual

/-- The text of a reading, in front of the text that follows it. -/
def Reading.onto : Reading → List Char → List Char
  | .atom head arguments, rest => head.toList ++ argumentsOnto arguments rest
  | .pipe left right, rest =>
      '(' :: left.onto (')' :: '|' :: '(' :: right.onto (')' :: rest))
  | .operation operator left right, rest =>
      '(' :: left.onto (')' :: ' ' ::
        (operator.token.toList ++ ' ' :: '(' :: right.onto (')' :: rest)))

/-- The text of arguments, each behind a blank. -/
def argumentsOnto : List Argument → List Char → List Char
  | [], rest => rest
  | argument :: others, rest =>
      ' ' :: argument.onto (argumentsOnto others rest)

/-- The text of one argument without the blank in front of it. -/
def Argument.onto : Argument → List Char → List Char
  | .spread value, rest => '.' :: '.' :: '.' :: valueOnto [] value rest
  | .flag token value, rest => token.toList ++ valueOnto ['='] value rest
  | .positional value, rest => '(' :: value.onto (')' :: rest)

/-- The text of the value that an argument may have, behind a lead-in. -/
def valueOnto (lead : List Char) : Option Reading → List Char → List Char
  | none, rest => rest
  | some value, rest => lead ++ '(' :: value.onto (')' :: rest)

end

theorem argumentsOnto_append (arguments others : List Argument)
    (rest : List Char) :
    argumentsOnto (arguments ++ others) rest =
      argumentsOnto arguments (argumentsOnto others rest) := by
  induction arguments with
  | nil => rfl
  | cons argument arguments ih => simp [argumentsOnto, ih]

namespace SyntaxTree

theorem toList_renderParameter_none (name : String) (rest : List Char) :
    (renderParameter name none).toList ++ rest =
      argumentsOnto (Argument.ofParameter name none) rest := by
  by_cases isRest : name = restMarker
  · simp [renderParameter, Argument.ofParameter, isRest, argumentsOnto,
      Argument.onto, valueOnto, spreadToken]
  · by_cases isFlag : Flag.isDeclaration name
    · simp [renderParameter, Argument.ofParameter, isRest, isFlag,
        argumentsOnto, Argument.onto, valueOnto]
    · simp [renderParameter, Argument.ofParameter, isRest, isFlag,
        argumentsOnto]

theorem toList_renderParameter_some (name : String) {source : String}
    {value : Reading}
    (valueText : ∀ rest, source.toList ++ rest = value.onto rest)
    (rest : List Char) :
    (renderParameter name (some source)).toList ++ rest =
      argumentsOnto (Argument.ofParameter name (some value)) rest := by
  by_cases isRest : name = restMarker
  · simp [renderParameter, Argument.ofParameter, isRest, argumentsOnto,
      Argument.onto, valueOnto, spreadToken, parenthesize, ← valueText]
  · by_cases isFlag : Flag.isDeclaration name
    · simp [renderParameter, Argument.ofParameter, isRest, isFlag,
        argumentsOnto, Argument.onto, valueOnto, parenthesize, ← valueText]
    · simp [renderParameter, Argument.ofParameter, isRest, isFlag,
        argumentsOnto, Argument.onto, parenthesize, ← valueText]

mutual

/-- The source text of a tree is the text of its reading. -/
theorem toList_render_append (tree : SyntaxTree) (rest : List Char) :
    tree.render.toList ++ rest = tree.erase.onto rest := by
  match tree with
  | command name parameters =>
      simp [render, erase, Reading.onto,
        toList_renderParameters_append parameters rest]
  | pipe left right =>
      simp [render, erase, Reading.onto, parenthesize,
        ← toList_render_append left, ← toList_render_append right]
  | literal literalType text =>
      simp [render, erase, Reading.onto, argumentsOnto]
  | operation operator left right =>
      simp [render, erase, Reading.onto, parenthesize,
        ← toList_render_append left, ← toList_render_append right]

/-- The text of the parameters of a command is that of its visible
arguments. -/
theorem toList_renderParameters_append
    (parameters : List (String × Option SyntaxTree)) (rest : List Char) :
    (renderParameters parameters).toList ++ rest =
      argumentsOnto (eraseParameters parameters) rest := by
  match parameters with
  | [] => simp [renderParameters, eraseParameters, argumentsOnto]
  | (name, none) :: others =>
      rw [renderParameters, eraseParameters, String.toList_append,
        List.append_assoc, toList_renderParameters_append others rest,
        toList_renderParameter_none, argumentsOnto_append]
  | (name, some value) :: others =>
      rw [renderParameters, eraseParameters, String.toList_append,
        List.append_assoc, toList_renderParameters_append others rest,
        toList_renderParameter_some name (toList_render_append value),
        argumentsOnto_append]

end

end SyntaxTree

end PipeGraph
