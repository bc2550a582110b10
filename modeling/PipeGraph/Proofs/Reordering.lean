import Mathlib.Data.List.Permutation
import PipeGraph.Proofs.Simulation

/-!
# The order of edges

Of the order in which edges are drawn, only two things count: the order of the
named edges into one command, which is the order of its parameters, and the
order of the other edges into one command, of which the first feeds the pipe.
Drawing the edges in another order that keeps these two changes neither what a
graph compiles to nor the kind of error that it fails with.
-/

namespace PipeGraph

/-- An edge names a parameter when it has a handle that is not one of the two
operands. -/
def Editor.Edge.namesParameter (edge : Edge) : Bool :=
  edge.handle.any fun tag => tag ≠ "A" ∧ tag ≠ "B"

/-- The edges of a graph in another order, which keeps for every command the
order of its parameters and the order of its pipe inputs. -/
structure Rules.Reorders (rules : Rules) (graph : Editor.Graph)
    (edges : List Editor.Edge) : Prop where
  perm : graph.edges.Perm edges
  parameters : ∀ node ∈ graph.nodes, ∀ name switches,
    rules.classify node = .ok (.command name switches) →
    edges.filter (fun edge => edge.target = node.id ∧ edge.namesParameter) =
      graph.edges.filter fun edge =>
        edge.target = node.id ∧ edge.namesParameter
  pipes : ∀ node ∈ graph.nodes, ∀ name switches,
    rules.classify node = .ok (.command name switches) →
    edges.filter (fun edge => edge.target = node.id ∧ ¬ edge.namesParameter) =
      graph.edges.filter fun edge =>
        edge.target = node.id ∧ ¬ edge.namesParameter

/-- Two errors of one kind, whatever nodes and counts they mention. -/
def CompileError.SameKind (error other : CompileError) : Prop :=
  error.kind = other.kind

theorem CompileError.SameKind.refl (error : CompileError) :
    error.SameKind error :=
  rfl

theorem Editor.Edge.feedsPipe_incoming_iff (edge : Edge) :
    edge.incoming.FeedsPipe ↔ ¬ edge.namesParameter = true := by
  obtain ⟨source, target, handle⟩ := edge
  cases handle with
  | none => simp [Editor.Edge.incoming, Incoming.FeedsPipe, namesParameter]
  | some tag =>
      by_cases isLeft : tag = "A"
      · simp [Editor.Edge.incoming, Incoming.FeedsPipe, namesParameter,
          Handle.ofTag, Operand.tag, isLeft]
      · by_cases isRight : tag = "B" <;>
          simp [Editor.Edge.incoming, Incoming.FeedsPipe, namesParameter,
            Handle.ofTag, Operand.tag, isLeft, isRight]

theorem Editor.Edge.not_feedsPipe_incoming_iff (edge : Edge) :
    ¬ edge.incoming.FeedsPipe ↔ edge.namesParameter = true := by
  rw [feedsPipe_incoming_iff, not_not]

namespace Model

section Permuted

variable {model other : Model}

theorem corresponds_operandSources_of_perm {nodeId : NodeId}
    (perm : (model.incoming nodeId).Perm (other.incoming nodeId)) :
    Corresponds CompileError.SameKind Eq (model.operandSources nodeId)
      (other.operandSources nodeId) := by
  have same (sources : NodeId × NodeId) :
      model.operandSources nodeId = .ok sources ↔
        other.operandSources nodeId = .ok sources := by
    rw [operandSources_eq_ok_iff, operandSources_eq_ok_iff]
    unfold Incoming.Operands
    rw [← List.perm_pair, ← List.perm_pair, perm.congr_left]
  cases sources : model.operandSources nodeId with
  | ok operands =>
      rw [(same operands).mp sources]
      exact .ok rfl
  | error error =>
      cases otherSources : other.operandSources nodeId with
      | ok operands =>
          rw [(same operands).mpr otherSources] at sources
          cases sources
      | error otherError =>
          refine .error ?_
          rw [CompileError.SameKind, kind_of_operandSources_eq_error sources,
            kind_of_operandSources_eq_error otherSources, perm.length_eq]

theorem corresponds_producer?_of_perm
    (perm : (model.incoming model.resultId).Perm
      (other.incoming other.resultId)) :
    Corresponds CompileError.SameKind Eq model.producer? other.producer? := by
  unfold producer?
  have sameLength := perm.length_eq
  rcases edges : model.incoming model.resultId with
    _ | ⟨first, _ | ⟨second, others⟩⟩
  · rw [edges, List.nil_perm] at perm
    rw [perm]
    exact .error rfl
  · rw [edges, List.singleton_perm] at perm
    rw [← perm]
    exact .ok rfl
  · rcases otherEdges : other.incoming other.resultId with
      _ | ⟨otherFirst, _ | ⟨otherSecond, otherOthers⟩⟩
    · simp [edges, otherEdges] at sameLength
    · simp [edges, otherEdges] at sameLength
    · exact .error rfl

end Permuted

section Building

theorem kind_of_link_eq_error {roles : List (NodeId × Role)}
    {index : EdgeIndex} {edge : Editor.Edge} {error : CompileError}
    (failed : link roles index edge = .error error) :
    error.kind = .malformedReference := by
  unfold link at failed
  split at failed
  · cases failed
    rfl
  · split at failed
    · cases failed
      rfl
    · cases failed

theorem kind_of_linkAll_eq_error {roles : List (NodeId × Role)}
    {index : EdgeIndex} {edges : List Editor.Edge} {error : CompileError}
    (failed : edges.foldlM (link roles) index = .error error) :
    error.kind = .malformedReference := by
  obtain ⟨_, edge, _, _, _, _, edgeFailed⟩ := foldlM_eq_error_iff.mp failed
  exact kind_of_link_eq_error edgeFailed

variable {rules : Rules} {nodes : List Editor.Node}
  {edges otherEdges : List Editor.Edge} (perm : edges.Perm otherEdges)

include perm

theorem corresponds_links_of_perm {roles : List (NodeId × Role)}
    (distinct : (roles.map Prod.fst).Nodup) :
    Corresponds CompileError.SameKind (fun _ _ => True)
      (edges.foldlM (link roles) (.ofEdges (roles.map Prod.fst) []))
      (otherEdges.foldlM (link roles)
        (.ofEdges (roles.map Prod.fst) [])) := by
  apply Corresponds.of_exists_ok_iff
  · -- Whether all edges can be linked does not depend on their order.
    simp only [linkAll_eq_ok_iff distinct, exists_and_left, exists_eq,
      and_true, perm.mem_iff]
  · intro error otherError failed otherFailed
    exact (kind_of_linkAll_eq_error failed).trans
      (kind_of_linkAll_eq_error otherFailed).symm

/-- The nodes are declared before any edge is looked at, so that only the index
of edges can differ. -/
theorem corresponds_build_of_perm :
    Corresponds CompileError.SameKind
      (fun model other => other.roles = model.roles ∧
        other.resultId = model.resultId)
      (build rules ⟨nodes, edges⟩) (build rules ⟨nodes, otherEdges⟩) := by
  unfold build
  refine (Corresponds.refl CompileError.SameKind.refl _).with_outcomes.bind ?_
  rintro _ _ ⟨ran, _, rfl⟩
  obtain ⟨roles, rfl, admitted, distinct⟩ :=
    Rules.declareAll_eq_ok_iff.mp ran
  have keysDistinct := Rules.keys_nodup_of_admitted admitted distinct
  refine (Corresponds.refl CompileError.SameKind.refl _).bind ?_
  rintro resultId _ rfl
  refine (corresponds_links_of_perm perm keysDistinct).bind fun _ _ _ => ?_
  exact .ok ⟨rfl, rfl⟩

end Building

section Reordered

variable {rules : Rules} {graph : Editor.Graph} {edges : List Editor.Edge}
  {model other : Model} (reorders : rules.Reorders graph edges)
  (isModel : IsModelOf rules graph model)
  (isOther : IsModelOf rules { graph with edges := edges } other)

include reorders isModel isOther

theorem perm_incoming_of_reorders (nodeId : NodeId) :
    (model.incoming nodeId).Perm (other.incoming nodeId) := by
  rw [isModel.incoming_eq, isOther.incoming_eq]
  exact (reorders.perm.filter _).map _

theorem pipeSources_of_reorders {nodeId : NodeId} {name : String}
    {switches : List String}
    (isCommand : model.role? nodeId = some (.command name switches)) :
    Incoming.pipeSources (other.incoming nodeId) =
      Incoming.pipeSources (model.incoming nodeId) := by
  obtain ⟨node, member, rfl, classified⟩ :=
    isModel.exists_node_of_role? isCommand
  have pipes := reorders.pipes node member name switches classified
  simp only [← Editor.Edge.feedsPipe_incoming_iff] at pipes
  simp only [Incoming.pipeSources_eq, isModel.filter_incoming,
    isOther.filter_incoming, decide_eq_true_eq, pipes]

theorem parameterSources_of_reorders {nodeId : NodeId} {name : String}
    {switches : List String}
    (isCommand : model.role? nodeId = some (.command name switches)) :
    Incoming.parameterSources (other.incoming nodeId) =
      Incoming.parameterSources (model.incoming nodeId) := by
  obtain ⟨node, member, rfl, classified⟩ :=
    isModel.exists_node_of_role? isCommand
  have parameters := reorders.parameters node member name switches classified
  simp only [← Editor.Edge.not_feedsPipe_incoming_iff] at parameters
  simp only [Incoming.parameterSources_eq, isModel.filter_incoming,
    isOther.filter_incoming, decide_eq_true_eq, parameters]

/-- The models of one graph with its edges in two orders are walked side by
side, each node beside itself. -/
theorem simulation_of_reorders (sameRoles : other.roles = model.roles)
    (policy : PipePolicy) :
    Simulation CompileError.SameKind Eq policy policy model other where
  role_eq := by
    rintro nodeId _ rfl
    rw [role?, role?, sameRoles]
  cyclicFlow _ := rfl
  unknownNode _ _ := rfl
  resultAsInput _ := rfl
  operands := by
    rintro nodeId _ operator rfl _
    refine (corresponds_operandSources_of_perm
      (perm_incoming_of_reorders reorders isModel isOther nodeId)).mono ?_
    rintro sources _ rfl
    exact ⟨rfl, rfl⟩
  pipeCheck := by
    rintro nodeId _ name switches rfl isCommand
    rw [pipeSources_of_reorders reorders isModel isOther isCommand]
    exact (Corresponds.refl CompileError.SameKind.refl _).mono
      fun _ _ _ => trivial
  pipe := by
    rintro nodeId _ name switches rfl isCommand
    rw [pipeSources_of_reorders reorders isModel isOther isCommand]
    cases (Incoming.pipeSources (model.incoming nodeId)).head? with
    | none => exact .none
    | some sourceId => exact .some rfl
  parameters := by
    rintro nodeId _ name switches rfl isCommand
    rw [parameterSources_of_reorders reorders isModel isOther isCommand,
      List.forall₂_same]
    exact fun _ _ => ⟨rfl, rfl⟩

end Reordered

end Model

/-- Compiling a graph with its edges in another order that keeps the parameters
and the pipe inputs of every command gives the same artifacts, or an error of
the same kind. -/
theorem Compiler.artifacts_reorder (compiler : Compiler)
    (graph : Editor.Graph) (edges : List Editor.Edge)
    (reorders : compiler.rules.Reorders graph edges) :
    (∃ artifacts,
      (compiler.artifacts graph).outcome = .ok artifacts ∧
      (compiler.artifacts { graph with edges := edges }).outcome =
        .ok artifacts) ∨
    ∃ error otherError,
      (compiler.artifacts graph).outcome = .error error ∧
      (compiler.artifacts { graph with edges := edges }).outcome =
        .error otherError ∧
      error.kind = otherError.kind := by
  have same : Corresponds CompileError.SameKind Eq
      (compiler.artifacts graph).outcome
      (compiler.artifacts { graph with edges := edges }).outcome := by
    rw [outcome_artifacts, outcome_artifacts]
    refine (Model.corresponds_build_of_perm
      reorders.perm).with_outcomes.bind ?_
    rintro model other ⟨built, otherBuilt, sameRoles, sameResult⟩
    have isModel := Model.build_eq_ok_iff.mp built
    have isOther := Model.build_eq_ok_iff.mp otherBuilt
    have simulation := Model.simulation_of_reorders reorders isModel isOther
      sameRoles compiler.pipePolicy
    have sameCount : other.nodeCount = model.nodeCount := by
      rw [Model.nodeCount, Model.nodeCount, sameRoles]
    have producers : Corresponds CompileError.SameKind Eq model.producer?
        other.producer? := by
      apply Model.corresponds_producer?_of_perm
      rw [sameResult]
      exact Model.perm_incoming_of_reorders reorders isModel isOther _
    refine (simulation.corresponds_extract sameCount sameResult.symm
      producers).bind ?_
    rintro tree _ rfl
    exact .ok rfl
  exact same.ok_or_error

/-- The edges of the sample graph, with the operands exchanged, the parameter
before both pipe inputs, and the edge into the literal moved. -/
def reorderedEdges : List Editor.Edge :=
  [⟨"list", "one", some "A"⟩, ⟨"sum", "list", some "depth"⟩,
    ⟨"one", "sum", some "A"⟩, ⟨"one", "list", none⟩, ⟨"one", "sum", some "B"⟩,
    ⟨"loop", "list", none⟩, ⟨"loop", "loop", none⟩, ⟨"list", "out", none⟩]

theorem sampleRules_reorders :
    Model.sampleRules.Reorders Model.sampleGraph reorderedEdges where
  perm := by decide
  parameters := by
    intro node member name switches _
    simp only [Model.sampleGraph, List.mem_cons, List.not_mem_nil,
      or_false] at member
    rcases member with rfl | rfl | rfl | rfl | rfl <;> rfl
  pipes := by
    intro node member name switches isCommand
    simp only [Model.sampleGraph, List.mem_cons, List.not_mem_nil,
      or_false] at member
    rcases member with rfl | rfl | rfl | rfl | rfl
    · rfl
    · -- an operator, whose edges do change places
      cases (show Except.ok (.operation .add) =
        (.ok (.command name switches) : Except RoleFault Role) from isCommand)
    · rfl
    · rfl
    · rfl

theorem sampleGraph_artifacts_reorder :
    Model.sampleRules.Reorders Model.sampleGraph reorderedEdges ∧
    (Compiler.artifacts ⟨Model.sampleRules, .firstWins⟩
        { Model.sampleGraph with edges := reorderedEdges }).outcome =
      .ok sampleInput.artifacts := by
  refine ⟨sampleRules_reorders, ?_⟩
  rcases Compiler.artifacts_reorder ⟨Model.sampleRules, .firstWins⟩
    Model.sampleGraph reorderedEdges sampleRules_reorders with
    ⟨artifacts, first, second⟩ | ⟨error, _, first, _⟩
  · rw [second, ← first]
    exact artifacts_sampleGraph
  · rw [artifacts_sampleGraph] at first
    cases first

end PipeGraph
