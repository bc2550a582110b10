import PipeGraph.Proofs.Branches
import PipeGraph.Proofs.Readability

/-!
# Drawings show the shape of a tree

A drawing has one line for each node, and the guides in front of the lines say
how the nodes hang together.  They can be told from the text behind them even if
that text looks like guides itself: the guides of a line come first, and there
are as many of them as the line is deep.  So the drawing of an outline can be
read back, and two trees with one drawing show the same texts in the same
places.
-/

namespace PipeGraph

/-! ## Texts of one line -/

/-- A text without a line break. -/
structure OneLine (text : String) : Prop where
  noBreak : '\n' ∉ text.toList

instance (text : String) : Decidable (OneLine text) :=
  decidable_of_iff ('\n' ∉ text.toList) ⟨.mk, OneLine.noBreak⟩

namespace OneLine

theorem append {text other : String} (first : OneLine text)
    (second : OneLine other) : OneLine (text ++ other) := by
  constructor
  rw [String.toList_append, List.mem_append, not_or]
  exact ⟨first.noBreak, second.noBreak⟩

theorem intercalate {separator : String} {texts : List String}
    (between : OneLine separator) (all : ∀ text ∈ texts, OneLine text) :
    OneLine (separator.intercalate texts) := by
  induction texts with
  | nil => exact ⟨by simp⟩
  | cons text texts ih =>
      simp only [List.forall_mem_cons] at all
      cases texts with
      | nil =>
          rw [String.intercalate_singleton]
          exact all.1
      | cons next texts =>
          rw [String.intercalate_cons_cons]
          exact (all.1.append between).append (ih all.2)

end OneLine

/-- Lines behind each of which a line break was put can be told apart again. -/
theorem join_lines_inj {lines others : List String}
    (oneLine : ∀ line ∈ lines, OneLine line)
    (otherOneLine : ∀ line ∈ others, OneLine line)
    (same : String.join (lines.map (· ++ "\n")) =
      String.join (others.map (· ++ "\n"))) :
    lines = others := by
  have characters (line : String) (rest : List String) :
      (String.join ((line :: rest).map (· ++ "\n"))).toList =
        line.toList ++ '\n' :: (String.join (rest.map (· ++ "\n"))).toList := by
    simp
  induction lines generalizing others with
  | nil =>
      cases others with
      | nil => rfl
      | cons other others =>
          rw [← String.toList_inj, characters] at same
          simp at same
  | cons line lines ih =>
      cases others with
      | nil =>
          rw [← String.toList_inj, characters] at same
          simp at same
      | cons other others =>
          simp only [List.forall_mem_cons] at oneLine otherOneLine
          have letters : ∀ character ∈ line.toList, character ≠ '\n' :=
            fun _ member isBreak => oneLine.1.noBreak (isBreak ▸ member)
          have otherLetters : ∀ character ∈ other.toList, character ≠ '\n' :=
            fun _ member isBreak => otherOneLine.1.noBreak (isBreak ▸ member)
          rw [← String.toList_inj, characters, characters] at same
          obtain ⟨lineEq, restEq⟩ :=
            word_inj letters otherLetters (by simp) (by simp) same
          rw [List.cons.injEq, String.toList_inj] at restEq
          rw [String.toList_inj.mp lineEq,
            ih oneLine.2 otherOneLine.2 restEq.2]

/-! ## Places in a tree -/

/-- A kind of tree, as drawings see it: what a node shows, and its children in
order, each with the label of the edge to it. -/
structure Branching (Tree : Type) where
  label : Tree → String
  children : Tree → List (Option String × Tree)

namespace Branching

/-- What stands in front of a node, for the edge to it. -/
def lead : Option String → String
  | none => ""
  | some edge => edge ++ " = "

variable {Tree : Type} (branching : Branching Tree)

/-- What a line shows of a tree behind an edge. -/
def text (entry : Option String × Tree) : String :=
  lead entry.1 ++ branching.label entry.2

/-- The tree at a place, with the edge to it.  A place is a path of child
numbers. -/
def at? : List Nat → Option String × Tree → Option (Option String × Tree)
  | [], entry => some entry
  | number :: path, entry =>
      (branching.children entry.2)[number]?.bind (at? path)

/-- What can be seen at a place: the text of the line, and how many children
hang from it. -/
def view (path : List Nat) (entry : Option String × Tree) :
    Option (String × Nat) :=
  (branching.at? path entry).map fun found =>
    (branching.text found, (branching.children found.2).length)

theorem view_cons (number : Nat) (path : List Nat)
    (entry : Option String × Tree) :
    branching.view (number :: path) entry =
      (branching.children entry.2)[number]?.bind (branching.view path) := by
  unfold view
  rw [at?, Option.map_bind]
  rfl

end Branching

/-! ## Reading an outline back -/

namespace Outline

/-- What holds of an outline as soon as it holds of its branches holds of every
outline. -/
@[elab_as_elim]
theorem branch_induction {motive : Outline → Prop}
    (node : ∀ line branches, (∀ branch ∈ branches, motive branch) →
      motive (.node line branches)) : ∀ outline, motive outline
  | .node line branches => node line branches fun branch _ =>
      branch_induction node branch

theorem hang_injective (marker guide : String) :
    Function.Injective (hang marker guide) := by
  intro texts others same
  cases texts with
  | nil =>
      cases others with
      | nil => rfl
      | cons other others => cases same
  | cons text texts =>
      cases others with
      | nil => cases same
      | cons other others =>
          rw [hang, hang, List.cons.injEq, String.append_right_inj] at same
          obtain ⟨rfl, mapped⟩ := same
          rw [(List.map_inj_right fun _ _ =>
            (String.append_right_inj guide).mp).mp mapped]

/-- The lines of a branch end where a line does not start with its guide. -/
theorem hang_append_inj {marker guide : String} {first : Char}
    (guided : ∀ text : String, (guide ++ text).toList.head? = some first)
    {texts others rest otherRest : List String}
    (someText : texts ≠ []) (someOther : others ≠ [])
    (stops : ∀ line ∈ rest.head?, line.toList.head? ≠ some first)
    (otherStops : ∀ line ∈ otherRest.head?, line.toList.head? ≠ some first)
    (same : hang marker guide texts ++ rest =
      hang marker guide others ++ otherRest) :
    texts = others ∧ rest = otherRest := by
  cases texts with
  | nil => exact (someText rfl).elim
  | cons text texts =>
      cases others with
      | nil => exact (someOther rfl).elim
      | cons other others =>
          have letters : ∀ texts : List String,
              ∀ line ∈ texts.map (guide ++ ·),
                line.toList.head? = some first := by
            intro texts
            rw [List.forall_mem_map]
            exact fun text _ => guided text
          simp only [hang, List.cons_append, List.cons.injEq] at same
          obtain ⟨mapped, restEq⟩ := word_inj (letters texts) (letters others)
            stops otherStops same.2
          refine ⟨hang_injective marker guide ?_, restEq⟩
          rw [hang, hang, same.1, mapped]

/-- The character that starts the lines of sibling branches tells how many of
them there are: none, one, or more. -/
def leadingMark : List Outline → Option Char
  | [] => none
  | [_] => some '└'
  | _ :: _ :: _ => some '├'

theorem head?_branchLines (branches : List Outline) :
    ((branchLines branches).head?.bind fun line => line.toList.head?) =
      leadingMark branches := by
  match branches with
  | [] => rfl
  | [.node line branches] => simp [branchLines, lines, hang, leadingMark]
  | .node line branches :: next :: others =>
      simp [branchLines, lines, hang, leadingMark]

theorem lines_ne_nil (outline : Outline) : outline.lines ≠ [] := by
  cases outline
  simp [lines]

theorem leadingMark_eq_of_branchLines {branches others : List Outline}
    (same : branchLines branches = branchLines others) :
    leadingMark branches = leadingMark others := by
  rw [← head?_branchLines, same, head?_branchLines]

/-- No sibling branches start with the guide of a branch before them. -/
theorem head?_branchLines_ne (branches : List Outline) :
    ∀ line ∈ (branchLines branches).head?, line.toList.head? ≠ some '│' := by
  intro line isFirst
  have mark := head?_branchLines branches
  rw [Option.mem_def.mp isFirst, Option.bind_some] at mark
  rw [mark]
  unfold leadingMark
  split <;> simp

theorem branchLines_inj {branches others : List Outline}
    (readable : ∀ branch ∈ branches, ∀ other : Outline,
      branch.lines = other.lines → branch = other)
    (same : branchLines branches = branchLines others) :
    branches = others := by
  have guided (text : String) : ("│   " ++ text).toList.head? = some '│' := by
    simp
  induction branches generalizing others with
  | nil =>
      have marks := leadingMark_eq_of_branchLines same
      cases others with
      | nil => rfl
      | cons other others => cases others <;> simp [leadingMark] at marks
  | cons branch branches ih =>
      have marks := leadingMark_eq_of_branchLines same
      simp only [List.forall_mem_cons] at readable
      cases others with
      | nil => cases branches <;> simp [leadingMark] at marks
      | cons other others =>
          -- The marks say whether more branches follow, on both sides alike.
          cases branches with
          | nil =>
              cases others with
              | nil =>
                  rw [branchLines, branchLines] at same
                  rw [readable.1 other (hang_injective _ _ same)]
              | cons otherNext others => simp [leadingMark] at marks
          | cons next branches =>
              cases others with
              | nil => simp [leadingMark] at marks
              | cons otherNext others =>
                  simp only [branchLines] at same
                  obtain ⟨linesEq, restEq⟩ := hang_append_inj guided
                    branch.lines_ne_nil other.lines_ne_nil
                    (head?_branchLines_ne (next :: branches))
                    (head?_branchLines_ne (otherNext :: others)) same
                  rw [readable.1 other linesEq, ih readable.2 restEq]

/-- An outline can be read back from its lines. -/
theorem lines_injective : Function.Injective lines := by
  intro first
  induction first using branch_induction with
  | node line branches ih =>
      intro second same
      obtain ⟨otherLine, otherBranches⟩ := second
      rw [lines, lines, List.cons.injEq] at same
      have readable : ∀ branch ∈ branches, ∀ other : Outline,
          branch.lines = other.lines → branch = other :=
        fun branch member other linesEq => ih branch member linesEq
      rw [same.1, branchLines_inj readable same.2]

theorem oneLine_hang {marker guide : String} (oneLineMarker : OneLine marker)
    (oneLineGuide : OneLine guide) {texts : List String}
    (all : ∀ text ∈ texts, OneLine text) :
    ∀ line ∈ hang marker guide texts, OneLine line := by
  cases texts with
  | nil => simp [hang]
  | cons text texts =>
      simp only [List.forall_mem_cons] at all
      rw [hang, List.forall_mem_cons, List.forall_mem_map]
      exact ⟨oneLineMarker.append all.1,
        fun other member => oneLineGuide.append (all.2 other member)⟩

theorem oneLine_branchLines {branches : List Outline}
    (all : ∀ branch ∈ branches, ∀ line ∈ branch.lines, OneLine line) :
    ∀ line ∈ branchLines branches, OneLine line := by
  induction branches with
  | nil => simp [branchLines]
  | cons branch branches ih =>
      simp only [List.forall_mem_cons] at all
      cases branches with
      | nil =>
          rw [branchLines]
          exact oneLine_hang (by decide) (by decide) all.1
      | cons next branches =>
          simp only [branchLines, List.forall_mem_append]
          exact ⟨oneLine_hang (by decide) (by decide) all.1, ih all.2⟩

/-- The text of an outline. -/
def line : Outline → String
  | node line _ => line

/-- What hangs from an outline. -/
def branches : Outline → List Outline
  | node _ branches => branches

/-- Outlines show their lines, and their edges have no labels. -/
def branching : Branching Outline where
  label := line
  children outline := outline.branches.map fun branch => (none, branch)

/-- An outline is known by what can be seen at all places. -/
theorem eq_of_view {first second : Outline}
    (same : ∀ path, branching.view path (none, first) =
      branching.view path (none, second)) : first = second := by
  induction first using branch_induction generalizing second with
  | node line branches ih =>
      obtain ⟨otherLine, otherBranches⟩ := second
      have root := same []
      simp only [Branching.view, Branching.at?, Branching.text, branching,
        Branching.lead, Outline.line, Outline.branches, Option.map_some,
        Option.some.injEq, Prod.mk.injEq, List.length_map, String.empty_append]
        at root
      obtain ⟨rfl, lengthEq⟩ := root
      have branchesEq : branches = otherBranches := by
        apply List.ext_getElem lengthEq
        intro number bound otherBound
        apply ih branches[number] (List.getElem_mem bound)
        intro path
        have below := same (number :: path)
        rw [Branching.view_cons, Branching.view_cons] at below
        simpa [branching, Outline.branches, bound, otherBound] using below
      rw [branchesEq]

end Outline

/-! ## Trees and their outlines -/

/-- How trees of a kind become outlines.  The outline of a tree has its text
above the outlines of its children, and that text is made of names and texts
that the tree holds. -/
structure Outlining {Tree : Type} (branching : Branching Tree) where
  outline : Option String × Tree → Outline
  outline_eq : ∀ entry, outline entry =
    .node (branching.text entry) ((branching.children entry.2).map outline)
  texts : Tree → List String
  oneLine_label : ∀ {tree}, (∀ text ∈ texts tree, OneLine text) →
    OneLine (branching.label tree)
  oneLine_child : ∀ {tree}, (∀ text ∈ texts tree, OneLine text) →
    ∀ child ∈ branching.children tree, OneLine (Branching.lead child.1) ∧
      ∀ text ∈ texts child.2, OneLine text

namespace Outlining

variable {Tree : Type} {branching : Branching Tree}
  (outlining : Outlining branching)

/-- Every place of a tree looks as that of its outline does. -/
theorem view_outline (path : List Nat) (entry : Option String × Tree) :
    Outline.branching.view path (none, outlining.outline entry) =
      branching.view path entry := by
  induction path generalizing entry with
  | nil =>
      rw [outlining.outline_eq]
      simp [Branching.view, Branching.at?, Outline.branching, Outline.line,
        Outline.branches, Branching.text, Branching.lead]
  | cons number path ih =>
      rw [Branching.view_cons, Branching.view_cons, outlining.outline_eq]
      simp only [Outline.branching, Outline.branches, List.map_map,
        List.getElem?_map]
      cases (branching.children entry.2)[number]? with
      | none => rfl
      | some child => exact ih child

/-- A tree without line breaks is drawn with one line for each node. -/
theorem oneLine_lines (entry : Option String × Tree)
    (oneLineLead : OneLine (Branching.lead entry.1))
    (oneLineTexts : ∀ text ∈ outlining.texts entry.2, OneLine text) :
    ∀ line ∈ (outlining.outline entry).lines, OneLine line := by
  generalize isOutline : outlining.outline entry = shape
  induction shape using Outline.branch_induction generalizing entry with
  | node line branches ih =>
      rw [outlining.outline_eq, Outline.node.injEq] at isOutline
      obtain ⟨rfl, rfl⟩ := isOutline
      have below := outlining.oneLine_child oneLineTexts
      rw [Outline.lines, List.forall_mem_cons]
      refine ⟨oneLineLead.append (outlining.oneLine_label oneLineTexts),
        Outline.oneLine_branchLines ?_⟩
      rw [List.forall_mem_map]
      intro child member
      exact ih _ (List.mem_map_of_mem member) child (below child member).1
        (below child member).2 rfl

/-- Two trees without line breaks have one drawing exactly if they look the
same at all places. -/
theorem draw_eq_iff {first second : Tree}
    (oneLine : ∀ text ∈ outlining.texts first, OneLine text)
    (otherOneLine : ∀ text ∈ outlining.texts second, OneLine text) :
    (outlining.outline (none, first)).draw =
        (outlining.outline (none, second)).draw ↔
      ∀ path, branching.view path (none, first) =
        branching.view path (none, second) := by
  have noLead : OneLine (Branching.lead none) := by decide
  constructor
  · intro same path
    have linesEq := join_lines_inj
      (outlining.oneLine_lines (none, first) noLead oneLine)
      (outlining.oneLine_lines (none, second) noLead otherOneLine) same
    rw [← outlining.view_outline, ← outlining.view_outline,
      Outline.lines_injective linesEq]
  · intro same
    simp only [← outlining.view_outline] at same
    rw [Outline.eq_of_view same]

end Outlining

/-- The two sides of a node without edge labels hold nothing but what the node
holds. -/
theorem oneLine_pair {Tree : Type} {texts : Tree → List String}
    {left right : Tree} (all : ∀ text ∈ texts left ++ texts right, OneLine text) :
    ∀ child ∈ [((none : Option String), left), (none, right)],
      OneLine (Branching.lead child.1) ∧
        ∀ text ∈ texts child.2, OneLine text := by
  have noLead : OneLine (Branching.lead none) := by decide
  rw [List.forall_mem_append] at all
  simp only [List.forall_mem_cons]
  exact ⟨⟨noLead, all.1⟩, ⟨noLead, all.2⟩, List.forall_mem_nil _⟩

theorem LiteralType.oneLine_name (literalType : LiteralType) :
    OneLine literalType.name := by
  cases literalType <;> decide

theorem OperatorGroup.oneLine_name (group : OperatorGroup) :
    OneLine group.name := by
  cases group <;> decide

theorem Operator.oneLine_token (operator : Operator) :
    OneLine operator.token := by
  cases operator <;> decide

namespace InputTree

mutual

/-- All names and texts that an input tree is made of. -/
def texts : InputTree → List String
  | command name input parameters switches =>
      name :: (switches ++ (inputTexts input ++ parameterTexts parameters))
  | data text _ => [text]
  | operation _ left right => left.texts ++ right.texts

def inputTexts : Option InputTree → List String
  | none => []
  | some input => input.texts

def parameterTexts : List (String × InputTree) → List String
  | [] => []
  | (name, value) :: others => name :: (value.texts ++ parameterTexts others)

end

/-- Input trees with their labels and children. -/
def branching : Branching InputTree := ⟨label, children⟩

theorem inputOutlines_eq (input : Option InputTree) :
    inputOutlines input =
      input.toList.map fun tree => tree.outlineWith "input = " := by
  cases input <;> rfl

theorem parameterOutlines_eq (parameters : List (String × InputTree)) :
    parameterOutlines parameters = parameters.map fun parameter =>
      parameter.2.outlineWith (parameter.1 ++ " = ") := by
  induction parameters with
  | nil => rfl
  | cons parameter parameters ih =>
      rw [parameterOutlines, List.map_cons, ih]

theorem oneLine_label {tree : InputTree}
    (all : ∀ text ∈ tree.texts, OneLine text) : OneLine tree.label := by
  cases tree with
  | command name input parameters switches =>
      simp only [texts, List.forall_mem_cons, List.forall_mem_append] at all
      have named : OneLine ("Command: " ++ name) :=
        OneLine.append (by decide) all.1
      have listed : OneLine (", ".intercalate switches) :=
        OneLine.intercalate (by decide) all.2.1
      cases switches with
      | nil => exact named
      | cons switch switches =>
          simp only [label]
          exact ((named.append (by decide)).append listed).append (by decide)
  | data text literalType =>
      simp only [texts, List.forall_mem_singleton] at all
      rw [label]
      exact ((OneLine.append (by decide) literalType.oneLine_name).append
        (by decide)).append all
  | operation operator left right =>
      rw [label]
      exact ((OneLine.append (by decide) operator.group.oneLine_name).append
        (by decide)).append operator.oneLine_token

theorem oneLine_parameter {parameters : List (String × InputTree)}
    (all : ∀ text ∈ parameterTexts parameters, OneLine text) :
    ∀ parameter ∈ parameters, OneLine parameter.1 ∧
      ∀ text ∈ parameter.2.texts, OneLine text := by
  induction parameters with
  | nil => simp
  | cons parameter parameters ih =>
      simp only [parameterTexts, List.forall_mem_cons, List.forall_mem_append]
        at all ⊢
      exact ⟨⟨all.1, all.2.1⟩, ih all.2.2⟩

theorem oneLine_child {tree : InputTree}
    (all : ∀ text ∈ tree.texts, OneLine text) :
    ∀ child ∈ tree.children, OneLine (Branching.lead child.1) ∧
      ∀ text ∈ child.2.texts, OneLine text := by
  cases tree with
  | command name input parameters switches =>
      simp only [texts, List.forall_mem_cons, List.forall_mem_append] at all
      rw [children, List.forall_mem_append, List.forall_mem_map]
      constructor
      · cases input with
        | none => simp
        | some input =>
            simp only [Option.map_some, Option.toList_some,
              List.forall_mem_singleton]
            exact ⟨by decide, all.2.2.1⟩
      · intro parameter member
        have oneLine := oneLine_parameter all.2.2.2 parameter member
        exact ⟨oneLine.1.append (by decide), oneLine.2⟩
  | data text literalType => simp [children]
  | operation operator left right => exact oneLine_pair all

/-- The outline of a tree has its label above the outlines of its children. -/
theorem outlineWith_eq (lead : String) (tree : InputTree) :
    tree.outlineWith lead =
      .node (lead ++ tree.label) (tree.children.map fun child =>
        child.2.outlineWith (Branching.lead child.1)) := by
  cases tree with
  | command name input parameters switches =>
      rw [outlineWith, inputOutlines_eq, parameterOutlines_eq]
      cases input <;> simp [Branching.lead, children]
  | data text literalType => rfl
  | operation operator left right => rfl

/-- How input trees become outlines. -/
def outlining : Outlining branching where
  outline entry := entry.2.outlineWith (Branching.lead entry.1)
  outline_eq entry := outlineWith_eq (Branching.lead entry.1) entry.2
  texts := texts
  oneLine_label := oneLine_label
  oneLine_child := oneLine_child

end InputTree

namespace SyntaxTree

mutual

/-- All names and texts that a syntax tree is made of. -/
def texts : SyntaxTree → List String
  | command name parameters => name :: parameterTexts parameters
  | pipe left right => left.texts ++ right.texts
  | literal _ text => [text]
  | operation _ left right => left.texts ++ right.texts

def parameterTexts : List (String × Option SyntaxTree) → List String
  | [] => []
  | (name, none) :: others => name :: parameterTexts others
  | (name, some value) :: others =>
      name :: (value.texts ++ parameterTexts others)

end

/-- Syntax trees with their labels and children. -/
def branching : Branching SyntaxTree := ⟨label, children⟩

theorem oneLine_label {tree : SyntaxTree}
    (all : ∀ text ∈ tree.texts, OneLine text) : OneLine tree.label := by
  cases tree with
  | command name parameters =>
      simp only [texts, List.forall_mem_cons] at all
      exact OneLine.append (by decide) all.1
  | pipe left right =>
      rw [label]
      decide
  | literal literalType text =>
      simp only [texts, List.forall_mem_singleton] at all
      rw [label]
      exact ((OneLine.append (by decide) literalType.oneLine_name).append
        (by decide)).append all
  | operation operator left right =>
      rw [label]
      exact ((OneLine.append (by decide) operator.group.oneLine_name).append
        (by decide)).append operator.oneLine_token

theorem oneLine_parameter {parameters : List (String × Option SyntaxTree)}
    (all : ∀ text ∈ parameterTexts parameters, OneLine text) :
    ∀ parameter ∈ parameters, OneLine parameter.1 ∧
      ∀ value ∈ parameter.2, ∀ text ∈ value.texts, OneLine text := by
  induction parameters with
  | nil => simp
  | cons parameter parameters ih =>
      obtain ⟨name, value⟩ := parameter
      cases value with
      | none =>
          simp only [parameterTexts, List.forall_mem_cons] at all ⊢
          exact ⟨⟨all.1, by simp⟩, ih all.2⟩
      | some value =>
          simp only [parameterTexts, List.forall_mem_cons,
            List.forall_mem_append] at all ⊢
          refine ⟨⟨all.1, ?_⟩, ih all.2.2⟩
          rintro _ ⟨⟩
          exact all.2.1

theorem oneLine_child {tree : SyntaxTree}
    (all : ∀ text ∈ tree.texts, OneLine text) :
    ∀ child ∈ tree.children, OneLine (Branching.lead child.1) ∧
      ∀ text ∈ child.2.texts, OneLine text := by
  cases tree with
  | command name parameters =>
      simp only [texts, List.forall_mem_cons] at all
      intro child member
      obtain ⟨parameter, isParameter, found⟩ := List.mem_filterMap.mp member
      obtain ⟨value, isValue, rfl⟩ := Option.map_eq_some_iff.mp found
      have oneLine := oneLine_parameter all.2 parameter isParameter
      exact ⟨oneLine.1.append (by decide), oneLine.2 value isValue⟩
  | pipe left right => exact oneLine_pair all
  | literal literalType text => simp [children]
  | operation operator left right => exact oneLine_pair all

theorem parameterOutlines_eq (parameters : List (String × Option SyntaxTree)) :
    parameterOutlines parameters = parameters.filterMap fun parameter =>
      parameter.2.map fun value =>
        value.outlineWith (parameter.1 ++ " = ") := by
  induction parameters with
  | nil => rfl
  | cons parameter parameters ih =>
      obtain ⟨name, value⟩ := parameter
      cases value with
      | none => simp [parameterOutlines, ih]
      | some value => simp [parameterOutlines, ih]

/-- The outline of a tree has its label above the outlines of its children. -/
theorem outlineWith_eq (lead : String) (tree : SyntaxTree) :
    tree.outlineWith lead =
      .node (lead ++ tree.label) (tree.children.map fun child =>
        child.2.outlineWith (Branching.lead child.1)) := by
  cases tree with
  | command name parameters =>
      rw [outlineWith, parameterOutlines_eq, children, List.map_filterMap]
      simp [Branching.lead, Function.comp_def]
  | pipe left right => rfl
  | literal literalType text => rfl
  | operation operator left right => rfl

/-- How syntax trees become outlines. -/
def outlining : Outlining branching where
  outline entry := entry.2.outlineWith (Branching.lead entry.1)
  outline_eq entry := outlineWith_eq (Branching.lead entry.1) entry.2
  texts := texts
  oneLine_label := oneLine_label
  oneLine_child := oneLine_child

end SyntaxTree

/-- Where no name or text has a line break, two trees have one drawing exactly
if at every place either both have a node or none has, and the two nodes show the
same text and have equally many children.  What the names and texts look like
otherwise makes no difference. -/
theorem draw_determines_shape :
    (∀ first second : InputTree,
      (∀ text ∈ first.texts, OneLine text) →
      (∀ text ∈ second.texts, OneLine text) →
      (first.draw = second.draw ↔
        ∀ path, InputTree.branching.view path (none, first) =
          InputTree.branching.view path (none, second))) ∧
    (∀ first second : SyntaxTree,
      (∀ text ∈ first.texts, OneLine text) →
      (∀ text ∈ second.texts, OneLine text) →
      (first.draw = second.draw ↔
        ∀ path, SyntaxTree.branching.view path (none, first) =
          SyntaxTree.branching.view path (none, second))) :=
  ⟨fun _ _ oneLine otherOneLine =>
      InputTree.outlining.draw_eq_iff oneLine otherOneLine,
    fun _ _ oneLine otherOneLine =>
      SyntaxTree.outlining.draw_eq_iff oneLine otherOneLine⟩

/-- A command with a switch, and a command whose name looks like that.  Both
have a parameter whose name and value look like guides. -/
def switchTree : InputTree :=
  .command "ls" none [("├── a", .data "│   └── b" .string)] ["--all"]

def disguisedTree : InputTree :=
  .command "ls [--all]" none [("├── a", .data "│   └── b" .string)] []

theorem switchTree_drawn_as_disguisedTree :
    switchTree ≠ disguisedTree ∧ switchTree.draw = disguisedTree.draw ∧
      InputTree.branching.view [0] (none, switchTree) =
        InputTree.branching.view [0] (none, disguisedTree) := by
  have same : switchTree.draw = disguisedTree.draw := by decide
  refine ⟨by simp [switchTree, disguisedTree], same, ?_⟩
  exact (draw_determines_shape.1 switchTree disguisedTree (by decide)
    (by decide)).mp same [0]

end PipeGraph
