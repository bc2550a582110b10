import Mathlib.Logic.Function.Basic
import PipeGraph.Tree.Normalize

/-!
# What normalization keeps

Normalizing an input tree moves its parts to other places but drops none of
them.  A syntax tree that came from an input tree can be read backwards: a pipe
gives its input back to the command behind it, and of the parameters of a
command those without a value are its switches.  The trees that arise in this
way are described without any mention of input trees.  They are exactly the
trees in which every pipe leads into a command and every command names its
switches last.
-/

namespace PipeGraph

namespace SyntaxTree

mutual

/-- A tree and all trees inside it. -/
def subtrees : SyntaxTree → List SyntaxTree
  | command name parameters =>
      command name parameters :: parameterSubtrees parameters
  | pipe left right => pipe left right :: (left.subtrees ++ right.subtrees)
  | literal literalType text => [literal literalType text]
  | .operation operator left right =>
      .operation operator left right :: (left.subtrees ++ right.subtrees)

def parameterSubtrees : List (String × Option SyntaxTree) → List SyntaxTree
  | [] => []
  | (_, none) :: others => parameterSubtrees others
  | (_, some value) :: others => value.subtrees ++ parameterSubtrees others

end

/-- Parameters with a value, followed by parameters without one. -/
def ValuesFirst (parameters : List (String × Option SyntaxTree)) : Prop :=
  ∃ valued bare, parameters = valued ++ bare ∧
    (∀ parameter ∈ valued, parameter.2.isSome) ∧
    ∀ parameter ∈ bare, parameter.2.isNone

/-- What normal form asks of one node. -/
def LocallyNormal : SyntaxTree → Prop
  | command _ parameters => ValuesFirst parameters
  | pipe _ right => ∃ name parameters, right = command name parameters
  | literal _ _ => True
  | .operation _ _ _ => True

/-- At every depth, pipes lead into commands and commands name their switches
last. -/
def Normal (tree : SyntaxTree) : Prop :=
  ∀ subtree ∈ tree.subtrees, subtree.LocallyNormal

/-- The names of the parameters without a value. -/
def switches (parameters : List (String × Option SyntaxTree)) : List String :=
  (parameters.filter fun parameter => parameter.2.isNone).map Prod.fst

mutual

/-- The input tree of a syntax tree, where a pipe becomes the input of the
command that it leads into. -/
def denormalize : SyntaxTree → InputTree
  | command name parameters =>
      .command name none (denormalizeParameters parameters)
        (switches parameters)
  | pipe left right => right.denormalize.withInput left.denormalize
  | literal literalType text => .data text literalType
  | .operation operator left right =>
      .operation operator left.denormalize right.denormalize

def denormalizeParameters :
    List (String × Option SyntaxTree) → List (String × InputTree)
  | [] => []
  | (_, none) :: others => denormalizeParameters others
  | (name, some value) :: others =>
      (name, value.denormalize) :: denormalizeParameters others

end

section Parameters

variable {parameters others : List (String × Option SyntaxTree)}

theorem denormalizeParameters_append :
    denormalizeParameters (parameters ++ others) =
      denormalizeParameters parameters ++ denormalizeParameters others := by
  induction parameters with
  | nil => rfl
  | cons parameter parameters ih =>
      obtain ⟨name, value⟩ := parameter
      cases value with
      | none => exact ih
      | some value => simp [denormalizeParameters, ih]

theorem denormalizeParameters_switchParameters (names : List String) :
    denormalizeParameters (names.map InputTree.switchParameter) = [] := by
  induction names with
  | nil => rfl
  | cons name names ih => exact ih

theorem switches_append :
    switches (parameters ++ others) =
      switches parameters ++ switches others := by
  simp [switches]

theorem switches_switchParameters (names : List String) :
    switches (names.map InputTree.switchParameter) = names := by
  induction names with
  | nil => rfl
  | cons name names ih => exact congrArg (name :: ·) ih

theorem switchParameters_switches :
    (switches parameters).map InputTree.switchParameter =
      parameters.filter fun parameter => parameter.2.isNone := by
  induction parameters with
  | nil => rfl
  | cons parameter parameters ih =>
      obtain ⟨name, value⟩ := parameter
      cases value with
      | none => exact congrArg ((name, none) :: ·) ih
      | some value => exact ih

/-- Sorting the parameters by whether they have a value changes nothing when
the values stand first already. -/
theorem ValuesFirst.filter_append_filter (ordered : ValuesFirst parameters) :
    (parameters.filter fun parameter => parameter.2.isSome) ++
      (parameters.filter fun parameter => parameter.2.isNone) =
        parameters := by
  obtain ⟨valued, bare, rfl, valuedSome, bareNone⟩ := ordered
  have valuedKept :
      valued.filter (fun parameter => parameter.2.isSome) = valued :=
    List.filter_eq_self.mpr valuedSome
  have bareKept :
      bare.filter (fun parameter => parameter.2.isNone) = bare :=
    List.filter_eq_self.mpr bareNone
  have valuedDropped :
      valued.filter (fun parameter => parameter.2.isNone) = [] := by
    rw [List.filter_eq_nil_iff]
    intro parameter member
    simpa [← Option.isSome_iff_ne_none] using valuedSome parameter member
  have bareDropped :
      bare.filter (fun parameter => parameter.2.isSome) = [] := by
    rw [List.filter_eq_nil_iff]
    intro parameter member
    rw [Option.not_isSome_iff_eq_none, ← Option.isNone_iff_eq_none]
    exact bareNone parameter member
  rw [List.filter_append, List.filter_append, valuedKept, bareKept,
    valuedDropped, bareDropped, List.append_nil, List.nil_append]

end Parameters

section Normal

variable {name : String} {parameters : List (String × Option SyntaxTree)}
  {left right : SyntaxTree} {operator : Operator}

theorem normal_command_iff :
    (command name parameters).Normal ↔
      ValuesFirst parameters ∧
        ∀ subtree ∈ parameterSubtrees parameters, subtree.LocallyNormal := by
  rw [Normal, subtrees, List.forall_mem_cons, LocallyNormal]

theorem normal_pipe_iff :
    (pipe left right).Normal ↔
      (∃ name parameters, right = command name parameters) ∧
        left.Normal ∧ right.Normal := by
  rw [Normal, subtrees, List.forall_mem_cons, LocallyNormal,
    List.forall_mem_append, Normal, Normal]

theorem normal_operation_iff :
    (SyntaxTree.operation operator left right).Normal ↔
      left.Normal ∧ right.Normal := by
  rw [Normal, subtrees, List.forall_mem_cons, LocallyNormal, true_and,
    List.forall_mem_append, Normal, Normal]

theorem parameterSubtrees_switchParameters (names : List String) :
    parameterSubtrees
      (parameters ++ names.map InputTree.switchParameter) =
        parameterSubtrees parameters := by
  induction parameters with
  | nil =>
      induction names with
      | nil => rfl
      | cons name names ih => exact ih
  | cons parameter parameters ih =>
      obtain ⟨name, value⟩ := parameter
      cases value with
      | none => exact ih
      | some value =>
          simp only [List.cons_append, parameterSubtrees, ih]

end Normal

end SyntaxTree

namespace InputTree

open SyntaxTree

theorem isSome_of_mem_normalizeParameters
    {parameters : List (String × InputTree)}
    {parameter : String × Option SyntaxTree}
    (member : parameter ∈ normalizeParameters parameters) :
    parameter.2.isSome := by
  induction parameters with
  | nil => cases member
  | cons first parameters ih =>
      rcases List.mem_cons.mp member with rfl | later
      · rfl
      · exact ih later

theorem switches_normalizeParameters
    (parameters : List (String × InputTree)) :
    SyntaxTree.switches (normalizeParameters parameters) = [] := by
  induction parameters with
  | nil => rfl
  | cons parameter parameters ih => exact ih

theorem valuesFirst_normalize (parameters : List (String × InputTree))
    (names : List String) :
    ValuesFirst
      (normalizeParameters parameters ++ names.map switchParameter) := by
  refine ⟨_, _, rfl, fun _ => isSome_of_mem_normalizeParameters, ?_⟩
  intro parameter member
  obtain ⟨name, _, rfl⟩ := List.mem_map.mp member
  rfl

mutual

/-- Reading a normalized tree backwards gives the tree back. -/
theorem denormalize_normalize (tree : InputTree) :
    tree.normalize.denormalize = tree := by
  match tree with
  | command name input parameters names =>
      have commandBack :
          (SyntaxTree.command name
            (normalizeParameters parameters ++
              names.map switchParameter)).denormalize =
            command name none parameters names := by
        rw [denormalize, denormalizeParameters_append,
          denormalizeParameters_switchParameters, List.append_nil,
          denormalize_normalizeParameters parameters, switches_append,
          switches_normalizeParameters, switches_switchParameters,
          List.nil_append]
      match input with
      | none => exact commandBack
      | some input =>
          rw [normalize, normalizeInput, denormalize, commandBack,
            denormalize_normalize input, withInput]
  | data text literalType => rfl
  | operation operator left right =>
      rw [normalize, denormalize, denormalize_normalize left,
        denormalize_normalize right]

theorem denormalize_normalizeParameters
    (parameters : List (String × InputTree)) :
    denormalizeParameters (normalizeParameters parameters) = parameters := by
  match parameters with
  | [] => rfl
  | (name, value) :: others =>
      rw [normalizeParameters, denormalizeParameters,
        denormalize_normalize value, denormalize_normalizeParameters others]

end

mutual

theorem normal_normalize (tree : InputTree) : tree.normalize.Normal := by
  match tree with
  | command name input parameters names =>
      have commandNormal :
          (SyntaxTree.command name
            (normalizeParameters parameters ++
              names.map switchParameter)).Normal := by
        rw [normal_command_iff, parameterSubtrees_switchParameters]
        exact ⟨valuesFirst_normalize parameters names,
          locallyNormal_normalizeParameters parameters⟩
      match input with
      | none => exact commandNormal
      | some input =>
          rw [normalize, normalizeInput, normal_pipe_iff]
          exact ⟨⟨_, _, rfl⟩, normal_normalize input, commandNormal⟩
  | data text literalType =>
      simp [normalize, SyntaxTree.Normal, subtrees, LocallyNormal]
  | operation operator left right =>
      rw [normalize, normal_operation_iff]
      exact ⟨normal_normalize left, normal_normalize right⟩

theorem locallyNormal_normalizeParameters
    (parameters : List (String × InputTree)) :
    ∀ subtree ∈ parameterSubtrees (normalizeParameters parameters),
      subtree.LocallyNormal := by
  match parameters with
  | [] => exact fun _ member => nomatch member
  | (name, value) :: others =>
      rw [normalizeParameters, parameterSubtrees, List.forall_mem_append]
      exact ⟨normal_normalize value, locallyNormal_normalizeParameters others⟩

end

end InputTree

namespace SyntaxTree

open InputTree

mutual

/-- Normalizing what a normal tree was read back to gives the tree again. -/
theorem normalize_denormalize (tree : SyntaxTree) (normal : tree.Normal) :
    tree.denormalize.normalize = tree := by
  match tree with
  | command name parameters =>
      obtain ⟨ordered, below⟩ := normal_command_iff.mp normal
      rw [denormalize, InputTree.normalize, normalizeInput,
        normalize_denormalizeParameters parameters below,
        switchParameters_switches, ordered.filter_append_filter]
  | pipe left right =>
      -- The right side must be known to be normal before it is taken apart:
      -- the recursive call is about the whole command.
      obtain ⟨intoCommand, leftNormal, rightNormal⟩ :=
        normal_pipe_iff.mp normal
      have leftBack := normalize_denormalize left leftNormal
      have rightBack := normalize_denormalize right rightNormal
      obtain ⟨name, parameters, rfl⟩ := intoCommand
      rw [denormalize, InputTree.normalize, normalizeInput] at rightBack
      rw [denormalize, denormalize, withInput, InputTree.normalize,
        normalizeInput, leftBack, rightBack]
  | literal literalType text => rfl
  | .operation operator left right =>
      obtain ⟨leftNormal, rightNormal⟩ := normal_operation_iff.mp normal
      rw [denormalize, InputTree.normalize,
        normalize_denormalize left leftNormal,
        normalize_denormalize right rightNormal]

/-- Of the parameters of a command, those with a value come back. -/
theorem normalize_denormalizeParameters
    (parameters : List (String × Option SyntaxTree))
    (normal : ∀ subtree ∈ parameterSubtrees parameters,
      subtree.LocallyNormal) :
    normalizeParameters (denormalizeParameters parameters) =
      parameters.filter fun parameter => parameter.2.isSome := by
  match parameters with
  | [] => rfl
  | (name, none) :: others =>
      exact normalize_denormalizeParameters others normal
  | (name, some value) :: others =>
      rw [parameterSubtrees, List.forall_mem_append] at normal
      rw [denormalizeParameters, normalizeParameters,
        normalize_denormalize value normal.1,
        normalize_denormalizeParameters others normal.2]
      rfl

end

end SyntaxTree

/-- Normalization can be undone, so that different input trees have different
syntax trees, and the syntax trees of input trees are exactly the normal
ones. -/
theorem InputTree.normalize_lossless :
    Function.LeftInverse SyntaxTree.denormalize InputTree.normalize ∧
    Function.Injective InputTree.normalize ∧
    ∀ tree : SyntaxTree,
      (∃ input : InputTree, input.normalize = tree) ↔ tree.Normal := by
  refine ⟨denormalize_normalize,
    Function.LeftInverse.injective denormalize_normalize, ?_⟩
  intro tree
  constructor
  · rintro ⟨input, rfl⟩
    exact normal_normalize input
  · intro normal
    exact ⟨tree.denormalize, tree.normalize_denormalize normal⟩

end PipeGraph
