import PipeGraph.Proofs.Drawing
import PipeGraph.Tree.Normalize

/-!
# How long drawings are

A drawing has one line for each node of its tree.  Normalizing a tree keeps its
nodes, adds a node for each pipe input, and takes all names and texts from the
tree.  A switch becomes a parameter, but one without a value, which has no line
of its own.
-/

namespace PipeGraph

/-- A text of a number of lines, each ended by a line break. -/
def HasLines (text : String) (count : Nat) : Prop :=
  ∃ lines : List String, lines.length = count ∧
    (∀ line ∈ lines, OneLine line) ∧
      String.join (lines.map (· ++ "\n")) = text

namespace Outline

mutual

theorem length_lines (outline : Outline) :
    outline.lines.length = outline.size := by
  match outline with
  | node line branches =>
      rw [lines, size, List.length_cons, length_branchLines branches,
        Nat.add_comm]

theorem length_branchLines (branches : List Outline) :
    (branchLines branches).length = branchesSize branches := by
  match branches with
  | [] => rfl
  | [last] =>
      rw [branchLines, branchesSize, branchesSize, length_hang,
        length_lines last, Nat.add_zero]
  | branch :: next :: others =>
      rw [branchLines, branchesSize, List.length_append, length_hang,
        length_lines branch, length_branchLines (next :: others)]
      simp

end

theorem branchesSize_append (branches others : List Outline) :
    branchesSize (branches ++ others) =
      branchesSize branches + branchesSize others := by
  induction branches with
  | nil => simp [branchesSize]
  | cons branch branches ih =>
      rw [List.cons_append, branchesSize, branchesSize, ih, Nat.add_assoc]

/-- The number of lines of a drawing is no other than the size of its
outline. -/
theorem hasLines_draw_iff {outline : Outline}
    (oneLine : ∀ line ∈ outline.lines, OneLine line) (count : Nat) :
    HasLines outline.draw count ↔ count = outline.size := by
  constructor
  · rintro ⟨lines, rfl, otherOneLine, same⟩
    rw [join_lines_inj otherOneLine oneLine same, length_lines]
  · rintro rfl
    exact ⟨outline.lines, outline.length_lines, oneLine, rfl⟩

end Outline

namespace InputTree

/-- Whether a tree is a command with a pipe input. -/
def takesInput : InputTree → Bool
  | command _ (some _) _ _ => true
  | _ => false

/-- The number of commands with a pipe input, at any depth. -/
def pipeCount (tree : InputTree) : Nat := tree.preorder.countP takesInput

mutual

/-- The outline of a tree has as many nodes as the tree. -/
theorem size_outlineWith (lead : String) (tree : InputTree) :
    (tree.outlineWith lead).size = tree.size := by
  match tree with
  | command name input parameters switches =>
      rw [outlineWith, Outline.size, size, Outline.branchesSize_append,
        branchesSize_inputOutlines input,
        branchesSize_parameterOutlines parameters, Nat.add_assoc]
  | data text literalType => rfl
  | operation operator left right =>
      simp only [outlineWith, Outline.size, size, Outline.branchesSize,
        size_outlineWith "" left, size_outlineWith "" right]
      omega

theorem branchesSize_inputOutlines (input : Option InputTree) :
    Outline.branchesSize (inputOutlines input) = inputSize input := by
  match input with
  | none => rfl
  | some input =>
      rw [inputOutlines, Outline.branchesSize, size_outlineWith _ input]
      rfl

theorem branchesSize_parameterOutlines
    (parameters : List (String × InputTree)) :
    Outline.branchesSize (parameterOutlines parameters) =
      parametersSize parameters := by
  match parameters with
  | [] => rfl
  | (name, value) :: others =>
      rw [parameterOutlines, parametersSize, Outline.branchesSize,
        size_outlineWith _ value, branchesSize_parameterOutlines others]

end

/-- Switches have no outlines. -/
theorem parameterOutlines_append_switches
    (parameters : List (String × Option SyntaxTree)) (switches : List String) :
    SyntaxTree.parameterOutlines
        (parameters ++ switches.map switchParameter) =
      SyntaxTree.parameterOutlines parameters := by
  rw [SyntaxTree.parameterOutlines_eq, SyntaxTree.parameterOutlines_eq,
    List.filterMap_append, List.append_right_eq_self, List.filterMap_map]
  simp [switchParameter, Function.comp_def]

mutual

/-- Normalizing adds a node for each pipe input. -/
theorem size_outlineWith_normalize (lead : String) (tree : InputTree) :
    (tree.normalize.outlineWith lead).size =
      tree.size + tree.preorder.countP takesInput := by
  match tree with
  | command name input parameters switches =>
      have commandSize (lead : String) :
          ((SyntaxTree.command name (normalizeParameters parameters ++
            switches.map switchParameter)).outlineWith lead).size =
          1 + (parametersSize parameters +
            (parametersPreorder parameters).countP takesInput) := by
        rw [SyntaxTree.outlineWith, Outline.size,
          parameterOutlines_append_switches,
          branchesSize_normalizeParameters parameters]
      match input with
      | none =>
          rw [normalize, normalizeInput, commandSize, size, inputSize, preorder,
            inputPreorder, List.nil_append,
            List.countP_cons_of_neg (by simp [takesInput])]
          omega
      | some input =>
          -- The node of the pipe is the one that is counted for this command.
          rw [normalize, normalizeInput, SyntaxTree.outlineWith, Outline.size,
            Outline.branchesSize, Outline.branchesSize, Outline.branchesSize,
            commandSize, size_outlineWith_normalize "" input, size, inputSize,
            preorder, inputPreorder,
            List.countP_cons_of_pos (by simp [takesInput]), List.countP_append]
          omega
  | data text literalType => rfl
  | operation operator left right =>
      rw [normalize, SyntaxTree.outlineWith, Outline.size,
        Outline.branchesSize, Outline.branchesSize, Outline.branchesSize,
        size_outlineWith_normalize "" left, size_outlineWith_normalize "" right,
        size, preorder, List.countP_cons_of_neg (by simp [takesInput]),
        List.countP_append]
      omega

theorem branchesSize_normalizeParameters
    (parameters : List (String × InputTree)) :
    Outline.branchesSize
        (SyntaxTree.parameterOutlines (normalizeParameters parameters)) =
      parametersSize parameters +
        (parametersPreorder parameters).countP takesInput := by
  match parameters with
  | [] => rfl
  | (name, value) :: others =>
      rw [normalizeParameters, SyntaxTree.parameterOutlines,
        Outline.branchesSize, size_outlineWith_normalize _ value,
        branchesSize_normalizeParameters others, parametersSize,
        parametersPreorder, List.countP_append]
      omega

end

/-- The texts of a list of parameters and switches. -/
theorem parameterTexts_append_switches
    (parameters : List (String × Option SyntaxTree)) (switches : List String) :
    SyntaxTree.parameterTexts (parameters ++ switches.map switchParameter) =
      SyntaxTree.parameterTexts parameters ++ switches := by
  induction parameters with
  | nil =>
      induction switches with
      | nil => rfl
      | cons switch switches ih => exact congrArg (switch :: ·) ih
  | cons parameter parameters ih =>
      obtain ⟨name, value⟩ := parameter
      cases value with
      | none => exact congrArg (name :: ·) ih
      | some value =>
          simp only [List.cons_append, SyntaxTree.parameterTexts, ih,
            List.append_assoc]

mutual

/-- Normalizing keeps all names and texts, and adds none. -/
theorem mem_texts_normalize_iff (text : String) (tree : InputTree) :
    text ∈ tree.normalize.texts ↔ text ∈ tree.texts := by
  match tree with
  | command name input parameters switches =>
      have inCommand :
          text ∈ (SyntaxTree.command name (normalizeParameters parameters ++
            switches.map switchParameter)).texts ↔
          text = name ∨ text ∈ switches ∨ text ∈ parameterTexts parameters := by
        rw [SyntaxTree.texts, parameterTexts_append_switches, List.mem_cons,
          List.mem_append, mem_parameterTexts_normalizeParameters_iff text
            parameters]
        exact or_congr_right or_comm
      match input with
      | none =>
          rw [normalize, normalizeInput, inCommand, texts, List.mem_cons,
            List.mem_append, inputTexts, List.nil_append]
      | some input =>
          rw [normalize, normalizeInput, SyntaxTree.texts, List.mem_append,
            mem_texts_normalize_iff text input, inCommand, texts, inputTexts]
          simp only [List.mem_cons, List.mem_append]
          rw [or_left_comm]
          exact or_congr_right or_left_comm
  | data literal literalType => rfl
  | operation operator left right =>
      rw [normalize, SyntaxTree.texts, texts, List.mem_append, List.mem_append,
        mem_texts_normalize_iff text left, mem_texts_normalize_iff text right]

theorem mem_parameterTexts_normalizeParameters_iff (text : String)
    (parameters : List (String × InputTree)) :
    text ∈ SyntaxTree.parameterTexts (normalizeParameters parameters) ↔
      text ∈ parameterTexts parameters := by
  match parameters with
  | [] => rfl
  | (name, value) :: others =>
      simp only [normalizeParameters, SyntaxTree.parameterTexts, parameterTexts,
        List.mem_cons, List.mem_append, mem_texts_normalize_iff text value,
        mem_parameterTexts_normalizeParameters_iff text others]

end

/-- Where no name or text has a line break, the drawing of an input tree has one
line for each node.  The drawing of its syntax tree has these and one more for
each command that has a pipe input. -/
theorem draw_line_counts (tree : InputTree)
    (oneLine : ∀ text ∈ tree.texts, OneLine text) (count : Nat) :
    (HasLines tree.draw count ↔ count = tree.size) ∧
      (HasLines tree.normalize.draw count ↔
        count = tree.size + tree.pipeCount) := by
  have noLead : OneLine (Branching.lead none) := by decide
  have normalOneLine : ∀ text ∈ tree.normalize.texts, OneLine text := by
    intro text member
    exact oneLine text ((mem_texts_normalize_iff text tree).mp member)
  have drawn := Outline.hasLines_draw_iff
    (outlining.oneLine_lines (none, tree) noLead oneLine) count
  have normalDrawn := Outline.hasLines_draw_iff
    (SyntaxTree.outlining.oneLine_lines (none, tree.normalize) noLead
      normalOneLine) count
  rw [pipeCount, ← size_outlineWith_normalize "" tree, ← size_outlineWith "" tree]
  exact ⟨drawn, normalDrawn⟩

/-- A pipe into a pipe, and one inside of a parameter. -/
def pipedTree : InputTree :=
  .command "sort"
    (some (.command "where" (some (.command "ls" none [] ["--all"]))
      [("condition", .operation .greaterThan
        (.command "length" (some (.data "$it" .string)) [] [])
        (.data "2" .int))] []))
    [] ["--reverse", "--natural"]

theorem pipedTree_line_counts :
    HasLines pipedTree.draw 7 ∧ HasLines pipedTree.normalize.draw 10 := by
  have oneLine : ∀ text ∈ pipedTree.texts, OneLine text := by decide
  exact ⟨(draw_line_counts pipedTree oneLine 7).1.mpr rfl,
    (draw_line_counts pipedTree oneLine 10).2.mpr rfl⟩

end InputTree

end PipeGraph
