import PipeGraph.Proofs.Artifacts

/-!
# The order of nodes

A model lists its nodes in the order in which they were declared, but it is
asked only for the role of a node, for the edges into it, and for the result.
None of the answers depends on the order, and neither does the question whether
a model can be built at all.  So the nodes of a graph may be declared in any
order: if it has a model, everything that compiling returns or reports is the
same.
-/

namespace PipeGraph

namespace Model

/-- Two models that answer all questions alike, however they list their
nodes. -/
structure SameAnswers (model other : Model) : Prop where
  role_eq : ∀ nodeId, other.role? nodeId = model.role? nodeId
  incoming_eq : ∀ nodeId, other.incoming nodeId = model.incoming nodeId
  resultId_eq : other.resultId = model.resultId
  nodeCount_eq : other.nodeCount = model.nodeCount
  edgeCount_eq : other.edgeCount = model.edgeCount

namespace SameAnswers

variable {model other : Model} (same : SameAnswers model other)

include same

theorem resolveStep_eq (policy : PipePolicy)
    (visit : NodeId → NodeId → Logged CompileError InputTree)
    (nodeId consumerId : NodeId) :
    resolveStep policy other visit nodeId consumerId =
      resolveStep policy model visit nodeId consumerId := by
  simp only [resolveStep, operandSources, same.role_eq, same.incoming_eq]

theorem resolve_eq (policy : PipePolicy) (budget : Nat) :
    resolve policy other budget = resolve policy model budget := by
  induction budget with
  | zero => rfl
  | succ budget ih =>
      funext nodeId consumerId
      rw [resolve_succ, resolve_succ, ih, same.resolveStep_eq]

theorem extract_eq (policy : PipePolicy) :
    other.extract policy = model.extract policy := by
  simp only [extract, extractWithin, same.incoming_eq, same.resultId_eq,
    same.nodeCount_eq, same.resolve_eq]

end SameAnswers

section Permuted

variable {rules : Rules} {graph : Editor.Graph} {nodes : List Editor.Node}
  (perm : graph.nodes.Perm nodes)

include perm

/-- Nothing that a well-formed graph has to satisfy mentions an order. -/
theorem WellFormed.of_perm (wellFormed : WellFormed rules graph) :
    WellFormed rules { graph with nodes := nodes } where
  classified node member :=
    wellFormed.classified node (perm.mem_iff.mpr member)
  literalsValid node member :=
    wellFormed.literalsValid node (perm.mem_iff.mpr member)
  distinct := (perm.map Editor.Node.id).nodup_iff.mp wellFormed.distinct
  oneResult := by
    obtain ⟨node, ⟨member, classified⟩, unique⟩ := wellFormed.oneResult
    refine ⟨node, ⟨perm.mem_iff.mp member, classified⟩, ?_⟩
    intro other isResult
    exact unique other ⟨perm.mem_iff.mpr isResult.1, isResult.2⟩
  joined edge member := by
    have sameIds := perm.map Editor.Node.id
    obtain ⟨sourceDeclared, targetDeclared⟩ := wellFormed.joined edge member
    exact ⟨sameIds.mem_iff.mp sourceDeclared, sameIds.mem_iff.mp targetDeclared⟩

theorem exists_model_iff_of_perm (rules : Rules) :
    (∃ model, build rules graph = .ok model) ↔
      ∃ other, build rules { graph with nodes := nodes } = .ok other := by
  simp only [build_eq_ok_iff]
  constructor
  · rintro ⟨model, isModel⟩
    exact (isModel.wellFormed.of_perm perm).exists_model
  · rintro ⟨other, isOther⟩
    exact (isOther.wellFormed.of_perm perm.symm).exists_model

theorem sameAnswers_of_perm {model other : Model}
    (isModel : IsModelOf rules graph model)
    (isOther : IsModelOf rules { graph with nodes := nodes } other) :
    SameAnswers model other := by
  have sameRoles : ∀ nodeId, other.role? nodeId = model.role? nodeId := by
    intro nodeId
    apply Option.ext
    intro role
    rw [isModel.role?_eq_some_iff_exists, isOther.role?_eq_some_iff_exists]
    simp only [perm.mem_iff]
  have sameEdges : ∀ nodeId, other.incoming nodeId = model.incoming nodeId := by
    intro nodeId
    rw [isModel.incoming_eq, isOther.incoming_eq]
  have sameResult : other.resultId = model.resultId := by
    apply isModel.eq_resultId_of_role?
    rw [← sameRoles]
    exact isOther.role?_resultId
  have sameNodeCount : other.nodeCount = model.nodeCount := by
    rw [isModel.represents.nodeCount, isOther.represents.nodeCount]
    exact perm.length_eq.symm
  have sameEdgeCount : other.edgeCount = model.edgeCount := by
    rw [isModel.represents.edgeCount, isOther.represents.edgeCount]
  exact ⟨sameRoles, sameEdges, sameResult, sameNodeCount, sameEdgeCount⟩

end Permuted

end Model

/-- Declaring the nodes of a graph in another order does not change whether a
model can be built, and if it can be, compiling returns and reports the same. -/
theorem Compiler.artifacts_permute_nodes (compiler : Compiler)
    (graph : Editor.Graph) (nodes : List Editor.Node)
    (perm : graph.nodes.Perm nodes) :
    ((∃ model, Model.build compiler.rules graph = .ok model) ↔
      ∃ other, Model.build compiler.rules { graph with nodes := nodes } =
        .ok other) ∧
    ∀ model, Model.build compiler.rules graph = .ok model →
      compiler.artifacts { graph with nodes := nodes } =
        compiler.artifacts graph := by
  -- Which error a graph without a model gives does depend on the order, so
  -- the builds are compared by whether they succeed and not step by step.
  have sameAcceptance := Model.exists_model_iff_of_perm perm compiler.rules
  refine ⟨sameAcceptance, ?_⟩
  intro model built
  obtain ⟨other, otherBuilt⟩ := sameAcceptance.mp ⟨model, built⟩
  have same := Model.sameAnswers_of_perm perm
    (Model.build_eq_ok_iff.mp built) (Model.build_eq_ok_iff.mp otherBuilt)
  simp only [artifacts, Compiler.model, built, otherBuilt, Logged.ofExcept_ok,
    pure_bind, bind_assoc, same.extract_eq, same.nodeCount_eq,
    same.edgeCount_eq, same.resultId_eq, perm.length_eq]

theorem sampleGraph_permute_nodes :
    Model.sampleGraph.nodes.Perm Model.sampleGraph.nodes.reverse ∧
    (Compiler.artifacts ⟨Model.sampleRules, .firstWins⟩
        { Model.sampleGraph with
          nodes := Model.sampleGraph.nodes.reverse }).outcome =
      .ok sampleInput.artifacts := by
  have perm := Model.sampleGraph.nodes.reverse_perm.symm
  refine ⟨perm, ?_⟩
  rw [(Compiler.artifacts_permute_nodes ⟨Model.sampleRules, .firstWins⟩
    Model.sampleGraph _ perm).2 Model.sampleModel Model.build_sampleGraph]
  exact artifacts_sampleGraph

end PipeGraph
