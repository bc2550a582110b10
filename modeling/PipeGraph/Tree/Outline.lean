/-!
# Outlines

An outline is a tree of text lines.  It is drawn with box guides: each branch
hangs from a marker, and the lines below a branch are indented by a guide that
continues to the next sibling, or by blanks when there is none.
-/

namespace PipeGraph

/-- A tree whose every node shows one line of text. -/
inductive Outline where
  | node (line : String) (branches : List Outline)

namespace Outline

/-- Put one text in front of the first line and another in front of all lines
after it. -/
def hang (marker guide : String) : List String → List String
  | [] => []
  | first :: others => (marker ++ first) :: others.map (guide ++ ·)

mutual

/-- The lines of an outline, without line ends. -/
def lines : Outline → List String
  | node line branches => line :: branchLines branches

/-- The lines of a list of sibling branches. -/
def branchLines : List Outline → List String
  | [] => []
  | [last] => hang "└── " "    " last.lines
  | branch :: others => hang "├── " "│   " branch.lines ++ branchLines others

end

mutual

/-- The number of nodes of an outline. -/
def size : Outline → Nat
  | node _ branches => 1 + branchesSize branches

/-- The number of nodes in a list of sibling branches. -/
def branchesSize : List Outline → Nat
  | [] => 0
  | branch :: others => branch.size + branchesSize others

end

/-- The drawing of an outline, every line ended by a newline. -/
def draw (outline : Outline) : String :=
  String.join (outline.lines.map (· ++ "\n"))

@[simp]
theorem length_hang (marker guide : String) (texts : List String) :
    (hang marker guide texts).length = texts.length := by
  cases texts <;> simp [hang]

end Outline

end PipeGraph
