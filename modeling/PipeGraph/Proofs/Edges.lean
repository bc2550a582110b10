import PipeGraph.Graph.Extraction
import PipeGraph.Proofs.Outcome

/-!
# What the edges into a node ask for

The walk sorts the edges into a node by their handles: into the pipe and the
parameters of a command, or into the two operands of an operator.  Here the
sorting is described edge by edge, for any relation between a source and a
tree that stands at it, and the functions that do the sorting are shown to
agree with the description.
-/

namespace PipeGraph

namespace Incoming

/-- An edge into a command feeds its pipe unless its handle is a name. -/
def FeedsPipe (edge : Incoming) : Prop :=
  ∀ name, edge.handle ≠ some (.named name)

theorem parameter?_eq_some_iff {edge : Incoming} {name : String} :
    edge.parameter? = some name ↔ edge.handle = some (.named name) := by
  unfold parameter?
  split
  · rename_i tag handleEq
    simp [handleEq]
  · rename_i unnamed
    simpa using unnamed name

theorem parameter?_eq_none_iff {edge : Incoming} :
    edge.parameter? = none ↔ edge.FeedsPipe := by
  simp only [Option.eq_none_iff_forall_ne_some, ne_eq, parameter?_eq_some_iff,
    FeedsPipe]

instance (edge : Incoming) : Decidable edge.FeedsPipe :=
  decidable_of_iff (edge.parameter? = none) parameter?_eq_none_iff

/-- Two edges feed the operands of an operator, in either order, and there is
no third. -/
def Operands (edges : List Incoming) (leftId rightId : NodeId) : Prop :=
  edges = [⟨leftId, some (.operand .left)⟩, ⟨rightId, some (.operand .right)⟩] ∨
    edges =
      [⟨rightId, some (.operand .right)⟩, ⟨leftId, some (.operand .left)⟩]

/-- The pipe input that the edges into a command give it: a tree at the source
of the first edge that feeds the pipe, if there is such an edge. -/
inductive PipeFrom (below : InputTree → NodeId → Prop) :
    Option InputTree → List Incoming → Prop
  | absent : PipeFrom below none []
  | first {edge tree edges} : edge.FeedsPipe → below tree edge.source →
      PipeFrom below (some tree) (edge :: edges)
  | later {edge input edges} : ¬ edge.FeedsPipe → PipeFrom below input edges →
      PipeFrom below input (edge :: edges)

/-- The parameters that the edges into a command give it: one for each edge
with a named handle, in the order of the edges. -/
inductive ParametersFrom (below : InputTree → NodeId → Prop) :
    List (String × InputTree) → List Incoming → Prop
  | absent : ParametersFrom below [] []
  | named {edge name tree parameters edges} :
      edge.handle = some (.named name) → below tree edge.source →
      ParametersFrom below parameters edges →
      ParametersFrom below ((name, tree) :: parameters) (edge :: edges)
  | unnamed {edge parameters edges} : edge.FeedsPipe →
      ParametersFrom below parameters edges →
      ParametersFrom below parameters (edge :: edges)

theorem pipeSources_eq (edges : List Incoming) :
    pipeSources edges =
      (edges.filter fun edge => edge.FeedsPipe).map source := by
  unfold pipeSources
  congr 2
  funext edge
  rw [Bool.eq_iff_iff, Option.isNone_iff_eq_none, parameter?_eq_none_iff,
    decide_eq_true_iff]

theorem length_pipeSources (edges : List Incoming) :
    (pipeSources edges).length =
      edges.countP fun edge => edge.FeedsPipe := by
  rw [pipeSources_eq, List.length_map, List.countP_eq_length_filter]

theorem head?_pipeSources (edges : List Incoming) :
    (pipeSources edges).head? =
      (edges.find? fun edge => edge.FeedsPipe).map source := by
  rw [pipeSources_eq, List.head?_map, List.head?_filter]

/-- Only the edges with a named handle count for the parameters. -/
theorem parameterSources_eq (edges : List Incoming) :
    parameterSources edges =
      (edges.filter fun edge => ¬ edge.FeedsPipe).map fun edge =>
        (edge.parameter?.getD "", edge.source) := by
  induction edges with
  | nil => rfl
  | cons edge edges ih =>
      cases handle : edge.parameter? with
      | none =>
          have feeds := parameter?_eq_none_iff.mp handle
          simpa [parameterSources, handle, feeds] using ih
      | some name =>
          have isNamed : ¬ edge.FeedsPipe := by
            simp [← parameter?_eq_none_iff, handle]
          simpa [parameterSources, handle, isNamed] using ih

theorem mem_parameterSources_iff {edges : List Incoming} {name : String}
    {sourceId : NodeId} :
    (name, sourceId) ∈ parameterSources edges ↔
      ∃ edge ∈ edges, edge.handle = some (.named name) ∧
        edge.source = sourceId := by
  simp [parameterSources, parameter?_eq_some_iff]

section Sorting

variable {below : InputTree → NodeId → Prop} {edges : List Incoming}

/-- The pipe input comes from the first source that feeds the pipe. -/
theorem pipeFrom_iff {input : Option InputTree} :
    PipeFrom below input edges ↔
      Option.Rel (fun sourceId tree => below tree sourceId)
        (pipeSources edges).head? input := by
  rw [head?_pipeSources]
  induction edges with
  | nil =>
      constructor
      · rintro (_ | _ | _)
        exact .none
      · rintro (_ | _)
        exact .absent
  | cons edge edges ih =>
      by_cases feeds : edge.FeedsPipe
      · rw [List.find?_cons_of_pos (by simpa using feeds)]
        constructor
        · rintro (_ | ⟨_, treeBelow⟩ | ⟨named, _⟩)
          · exact .some treeBelow
          · exact (named feeds).elim
        · rintro (treeBelow | _)
          exact .first feeds treeBelow
      · rw [List.find?_cons_of_neg (by simpa using feeds), ← ih]
        constructor
        · rintro (_ | ⟨here, _⟩ | ⟨_, rest⟩)
          · exact (feeds here).elim
          · exact rest
        · exact .later feeds

/-- The parameters come from the named sources, one by one. -/
theorem parametersFrom_iff {parameters : List (String × InputTree)} :
    ParametersFrom below parameters edges ↔
      List.Forall₂ (fun parameter result =>
          parameter.1 = result.1 ∧ below result.2 parameter.2)
        (parameterSources edges) parameters := by
  induction edges generalizing parameters with
  | nil =>
      rw [show parameterSources [] = [] from rfl, List.forall₂_nil_left_iff]
      constructor
      · rintro (_ | _ | _)
        rfl
      · rintro rfl
        exact .absent
  | cons edge edges ih =>
      cases handle : edge.parameter? with
      | none =>
          have feeds := parameter?_eq_none_iff.mp handle
          have sources : parameterSources (edge :: edges) =
              parameterSources edges := by
            simp [parameterSources, handle]
          rw [sources, ← ih]
          constructor
          · rintro (_ | ⟨named, _, _⟩ | ⟨_, rest⟩)
            · exact (feeds _ named).elim
            · exact rest
          · exact .unnamed feeds
      | some name =>
          have named := parameter?_eq_some_iff.mp handle
          have sources : parameterSources (edge :: edges) =
              (name, edge.source) :: parameterSources edges := by
            simp [parameterSources, handle]
          rw [sources, List.forall₂_cons_left_iff]
          constructor
          · rintro (_ | ⟨sameEdge, treeBelow, rest⟩ | ⟨feeds, _⟩)
            · rw [named] at sameEdge
              cases sameEdge
              exact ⟨_, _, ⟨rfl, treeBelow⟩, ih.mp rest, rfl⟩
            · exact (feeds _ named).elim
          · rintro ⟨⟨_, tree⟩, others, ⟨rfl, treeBelow⟩, rest, rfl⟩
            exact .named named treeBelow (ih.mpr rest)

end Sorting

end Incoming

namespace OperandSources

/-- Of two edges, one must feed the left operand and the other one the
right. -/
theorem ofEdges_eq_ok_iff {first second : Incoming}
    {leftId rightId : NodeId} :
    ofEdges [first, second] = .ok (leftId, rightId) ↔
      Incoming.Operands [first, second] leftId rightId := by
  obtain ⟨firstId, firstHandle⟩ := first
  obtain ⟨secondId, secondHandle⟩ := second
  rcases firstHandle with _ | (_ | _) | _ <;>
    rcases secondHandle with _ | (_ | _) | _ <;>
      simp [ofEdges, assign, both, unassigned, Incoming.Operands, bind,
        Except.bind, pure, Except.pure, and_comm]

end OperandSources

/-- An operator has its two operands exactly when two edges feed them. -/
theorem Model.operandSources_eq_ok_iff {model : Model}
    {nodeId leftId rightId : NodeId} :
    model.operandSources nodeId = .ok (leftId, rightId) ↔
      Incoming.Operands (model.incoming nodeId) leftId rightId := by
  unfold operandSources
  generalize model.incoming nodeId = edges
  by_cases two : edges.length = 2
  · obtain ⟨first, second, rfl⟩ := List.length_eq_two.mp two
    simp [OperandSources.ofEdges_eq_ok_iff]
  · constructor
    · simp [two]
    · rintro (rfl | rfl) <;> simp at two

/-- An operator fails with an error that depends on the number of its edges
only. -/
theorem Model.kind_of_operandSources_eq_error {model : Model} {nodeId : NodeId}
    {error : CompileError}
    (failed : model.operandSources nodeId = .error error) :
    error.kind =
      if (model.incoming nodeId).length = 2 then .operatorHandles
      else .operatorArity := by
  simp only [operandSources] at failed
  split
  · rename_i two
    rw [if_pos two] at failed
    cases handles : OperandSources.ofEdges (model.incoming nodeId) with
    | error fault =>
        rw [handles] at failed
        cases failed
        rfl
    | ok sources =>
        rw [handles] at failed
        cases failed
  · rename_i notTwo
    rw [if_neg notTwo] at failed
    cases failed
    rfl

end PipeGraph
