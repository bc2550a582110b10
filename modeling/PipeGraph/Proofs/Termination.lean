import PipeGraph.Proofs.Unfolding
import PipeGraph.Proofs.WellFormed

/-!
# Termination of extraction

Where the followed edges form no cycle, extraction ends within as many nested
visits as there are nodes, whatever cycles the other edges form.  Where it
returns a tree, however deep it was allowed to go, the followed edges formed no
cycle, and the tree is lower than the number of nodes, because the result node
never stands in it.
-/

namespace PipeGraph

namespace Model

/-- The edges that are followed from the producer of the result form no
cycle.  Nothing is said about any other edge. -/
def FlowAcyclic (model : Model) : Prop :=
  ∀ producer, model.incoming model.resultId = [producer] →
    model.AcyclicFrom producer.source

/-- Every edge comes from a declared node. -/
def Closed (model : Model) : Prop :=
  ∀ nodeId, ∀ edge ∈ model.incoming nodeId, (model.role? edge.source).isSome

theorem Follows.exists_mem {model : Model} {nodeId sourceId : NodeId}
    (follows : Follows model nodeId sourceId) :
    ∃ edge ∈ model.incoming nodeId, edge.source = sourceId := by
  cases follows with
  | pipe _ found => exact ⟨_, List.mem_of_find?_eq_some found, rfl⟩
  | parameter _ member _ => exact ⟨_, member, rfl⟩
  | left _ operands =>
      rcases operands with edges | edges
      · exact ⟨_, by rw [edges]; exact .head _, rfl⟩
      · exact ⟨_, by rw [edges]; exact .tail _ (.head _), rfl⟩
  | right _ operands =>
      rcases operands with edges | edges
      · exact ⟨_, by rw [edges]; exact .tail _ (.head _), rfl⟩
      · exact ⟨_, by rw [edges]; exact .head _, rfl⟩

theorem Closed.declaredFrom {model : Model} (closed : model.Closed)
    {nodeId : NodeId} (declared : (model.role? nodeId).isSome) :
    model.DeclaredFrom nodeId := by
  intro reachedId reaches
  induction reaches with
  | refl => exact declared
  | tail _ follows _ =>
      obtain ⟨edge, member, rfl⟩ := follows.exists_mem
      exact closed _ edge member

theorem Closed.declaredFrom_producer {model : Model} (closed : model.Closed)
    {producer : Incoming}
    (oneEdge : model.incoming model.resultId = [producer]) :
    model.DeclaredFrom producer.source :=
  closed.declaredFrom (closed model.resultId producer (by simp [oneEdge]))

/-- In a model that was built, every edge comes from a declared node. -/
theorem IsModelOf.closed {rules : Rules} {graph : Editor.Graph}
    {model : Model} (isModel : IsModelOf rules graph model) :
    model.Closed := by
  intro nodeId edge member
  rw [isModel.incoming_eq] at member
  obtain ⟨drawn, drawnMember, rfl⟩ := List.mem_map.mp member
  have drawnEdge := List.mem_of_mem_filter drawnMember
  exact lookup_isSome_iff_mem_keys.mpr (isModel.joined drawn drawnEdge).1

/-- A node from which the result is not reached has some node less to reach. -/
theorem rank_lt_nodeCount {model : Model} {nodeId : NodeId}
    (declared : (model.role? model.resultId).isSome)
    (apart : ¬ model.Reaches nodeId model.resultId) :
    model.rank nodeId < model.nodeCount := by
  classical
  have fewer : model.reached nodeId ⊂ (model.roles.map Prod.fst).toFinset := by
    refine ⟨Finset.filter_subset _ _, ?_⟩
    intro included
    have resultReached : model.resultId ∈ model.reached nodeId := by
      apply included
      rw [List.mem_toFinset]
      exact lookup_isSome_iff_mem_keys.mp declared
    exact apart (mem_reached_iff.mp resultReached).2
  calc
    model.rank nodeId < (model.roles.map Prod.fst).toFinset.card :=
      Finset.card_lt_card fewer
    _ ≤ model.nodeCount := model.card_declared_le

theorem Unfolds.not_reaches_result {policy : PipePolicy} {model : Model}
    {tree : InputTree} {nodeId : NodeId}
    (unfolds : Unfolds policy model tree nodeId)
    (isResult : model.role? model.resultId = some .result) :
    ¬ model.Reaches nodeId model.resultId := by
  intro reaches
  obtain ⟨_, resultUnfolds⟩ := unfolds.exists_of_reaches reaches
  obtain ⟨role, isRole, notResult⟩ := resultUnfolds.role_isSome
  rw [isResult] at isRole
  cases isRole
  exact notResult rfl

/-- On a model without a followed cycle the budget is not used up, and a larger
one changes nothing. -/
theorem extractWithin_eq_extract {policy : PipePolicy} {model : Model}
    (closed : model.Closed) (acyclic : model.FlowAcyclic) :
    (∀ nodeId, (model.extract policy).outcome ≠ .error (.cyclicFlow nodeId)) ∧
      ∀ budget, model.nodeCount ≤ budget →
        model.extractWithin policy budget = model.extract policy := by
  unfold extract extractWithin
  split
  · simp
  · rename_i producer oneEdge
    have fromProducer := acyclic producer oneEdge
    have declared := closed.declaredFrom_producer oneEdge
    have enough := model.rank_le_nodeCount producer.source
    refine ⟨fun nodeId => resolve_ne_cyclicFlow fromProducer declared enough
      model.resultId nodeId, fun budget larger => ?_⟩
    exact resolve_eq_of_rank_le fromProducer declared
      (Nat.le_trans enough larger) enough model.resultId
  · simp

/-- A tree that extraction returns, whatever its budget, shows that the followed
edges form no cycle. -/
theorem flowAcyclic_of_extractWithin_eq_ok {policy : PipePolicy}
    {model : Model} {budget : Nat} {tree : InputTree}
    (returned : (model.extractWithin policy budget).outcome = .ok tree) :
    model.FlowAcyclic := by
  obtain ⟨producer, oneEdge, resolved⟩ := extractWithin_eq_ok_iff.mp returned
  intro other otherEdge
  rw [oneEdge] at otherEdge
  cases otherEdge
  exact (unfolds_of_resolve_eq_ok resolved).acyclicFrom

/-- A tree that extraction returns is lower than the number of nodes, however
large its budget is. -/
theorem height_le_of_extractWithin_eq_ok {policy : PipePolicy}
    {model : Model} {budget : Nat} {tree : InputTree}
    (isResult : model.role? model.resultId = some .result)
    (returned : (model.extractWithin policy budget).outcome = .ok tree) :
    tree.height ≤ model.nodeCount - 1 := by
  obtain ⟨producer, _, resolved⟩ := extractWithin_eq_ok_iff.mp returned
  have unfolds := unfolds_of_resolve_eq_ok resolved
  have fewer := rank_lt_nodeCount (by simp [isResult])
    (unfolds.not_reaches_result isResult)
  have lower := unfolds.height_le_rank
  omega

/-- Extraction of a model that was built ends within its number of nodes when
the followed edges form no cycle, and returns a tree only then, whatever budget
it is given; the tree is lower than the number of nodes. -/
theorem extract_terminates {rules : Rules} {graph : Editor.Graph}
    {model : Model} (built : build rules graph = .ok model)
    (policy : PipePolicy) :
    (model.FlowAcyclic →
      (∀ nodeId,
        (model.extract policy).outcome ≠ .error (.cyclicFlow nodeId)) ∧
      ∀ budget, model.nodeCount ≤ budget →
        model.extractWithin policy budget = model.extract policy) ∧
    ∀ budget tree, (model.extractWithin policy budget).outcome = .ok tree →
      model.FlowAcyclic ∧ tree.height ≤ model.nodeCount - 1 := by
  have isModel := build_eq_ok_iff.mp built
  refine ⟨extractWithin_eq_extract isModel.closed, ?_⟩
  intro budget tree returned
  exact ⟨flowAcyclic_of_extractWithin_eq_ok returned,
    height_le_of_extractWithin_eq_ok isModel.role?_resultId returned⟩

/-- Three nested visits are enough for the sample model, and no larger budget
gives another tree. -/
theorem sampleModel_extract_terminates :
    sampleModel.FlowAcyclic ∧
      (∀ budget, 5 ≤ budget →
        (sampleModel.extractWithin .firstWins budget).outcome =
          .ok (.command "ls" (some (.data "1" .int))
            [("depth", .operation .add (.data "1" .int) (.data "1" .int))]
            ["--all"])) ∧
      InputTree.height (.command "ls" (some (.data "1" .int))
        [("depth", .operation .add (.data "1" .int) (.data "1" .int))]
        ["--all"]) ≤ 4 := by
  have terminates := extract_terminates build_sampleGraph .firstWins
  obtain ⟨acyclic, lower⟩ := terminates.2 3 _ rfl
  refine ⟨acyclic, fun budget enough => ?_, lower⟩
  rw [(terminates.1 acyclic).2 budget enough]
  rfl

end Model

end PipeGraph
