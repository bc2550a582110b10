import PipeGraph.Tree.Input
import PipeGraph.Tree.Syntax

/-!
# The branches of a tree

Both kinds of trees have children in a fixed order, and an edge to a child may
carry a label.  A walk through a tree that looks at each node before the nodes
below it goes from child to child, and takes as many steps as the tree has
nodes.
-/

namespace PipeGraph

/-- The trees right below a syntax tree, each with the label of the edge to
it.  A parameter without a value has none. -/
def SyntaxTree.children : SyntaxTree → List (Option String × SyntaxTree)
  | command _ parameters =>
      parameters.filterMap fun parameter =>
        parameter.2.map fun value => (some parameter.1, value)
  | pipe left right => [(none, left), (none, right)]
  | literal _ _ => []
  | operation _ left right => [(none, left), (none, right)]

namespace InputTree

/-- The trees right below an input tree, each with the label of the edge to
it. -/
def children : InputTree → List (Option String × InputTree)
  | command _ input parameters _ =>
      (input.map fun tree => (some "input", tree)).toList ++
        parameters.map fun parameter => (some parameter.1, parameter.2)
  | data _ _ => []
  | operation _ left right => [(none, left), (none, right)]

mutual

/-- An input tree and all trees below it, each before those below it. -/
def preorder : InputTree → List InputTree
  | command name input parameters switches =>
      command name input parameters switches ::
        (inputPreorder input ++ parametersPreorder parameters)
  | data text literalType => [data text literalType]
  | operation operator left right =>
      operation operator left right :: (left.preorder ++ right.preorder)

def inputPreorder : Option InputTree → List InputTree
  | none => []
  | some input => input.preorder

def parametersPreorder : List (String × InputTree) → List InputTree
  | [] => []
  | (_, value) :: others => value.preorder ++ parametersPreorder others

end

theorem parametersPreorder_eq (parameters : List (String × InputTree)) :
    parametersPreorder parameters =
      parameters.flatMap fun parameter => parameter.2.preorder := by
  induction parameters with
  | nil => rfl
  | cons parameter parameters ih =>
      rw [parametersPreorder, List.flatMap_cons, ih]

/-- Behind a tree come its children, one after the other. -/
theorem preorder_eq (tree : InputTree) :
    tree.preorder =
      tree :: tree.children.flatMap fun child => child.2.preorder := by
  cases tree with
  | command name input parameters switches =>
      rw [preorder, children, parametersPreorder_eq, List.flatMap_append,
        List.flatMap_map]
      cases input with
      | none => rfl
      | some input => simp [inputPreorder]
  | data text literalType => rfl
  | operation operator left right => simp [preorder, children]

mutual

theorem length_preorder (tree : InputTree) :
    tree.preorder.length = tree.size := by
  match tree with
  | command name input parameters switches =>
      rw [preorder, size, List.length_cons, List.length_append,
        length_inputPreorder input, length_parametersPreorder parameters]
      omega
  | data text literalType => rfl
  | operation operator left right =>
      rw [preorder, size, List.length_cons, List.length_append,
        length_preorder left, length_preorder right]
      omega

theorem length_inputPreorder (input : Option InputTree) :
    (inputPreorder input).length = inputSize input := by
  match input with
  | none => rfl
  | some input =>
      rw [inputPreorder, inputSize]
      exact length_preorder input

theorem length_parametersPreorder (parameters : List (String × InputTree)) :
    (parametersPreorder parameters).length = parametersSize parameters := by
  match parameters with
  | [] => rfl
  | (name, value) :: others =>
      rw [parametersPreorder, parametersSize, List.length_append,
        length_preorder value, length_parametersPreorder others]

end

end InputTree

end PipeGraph
