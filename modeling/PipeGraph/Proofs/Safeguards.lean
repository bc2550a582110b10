import PipeGraph.Proofs.Strictness

/-!
# Safeguards of the walk

The walk is prepared for a node that nobody declared, and for an operator that
passes all checks of its edges and still lacks an operand.  Neither occurs in a
model that was built.  Building links edges between declared nodes only, so
that the walk never leaves them.  And each edge that an operator accepts gives a
source to one more of its two operands, so that two edges leave none without.
-/

namespace PipeGraph

/-- No other defect of handles is worded like an operand that was left out,
unless a host words it so. -/
theorem HandleFault.message_ne_incomplete {fault : HandleFault}
    (notIncomplete : fault ≠ .incomplete)
    (notStated : ∀ message, fault ≠ .stated message) :
    fault.message ≠ HandleFault.incomplete.message := by
  intro same
  -- The first letters tell the wordings apart.
  have letter := congrArg (fun text => text.toList.head?) same
  cases fault with
  | named source tag => simp [message, String.toList_append] at letter
  | missing source => simp [message, String.toList_append] at letter
  | repeated slot => simp [message, String.toList_append] at letter
  | incomplete => exact notIncomplete rfl
  | stated message => exact notStated message rfl

namespace OperandSources

/-- The number of operands that have a source. -/
def filled (sources : OperandSources) : Nat :=
  sources.left.toList.length + sources.right.toList.length

variable {sources final : OperandSources} {edges : List Incoming}

/-- An edge that is accepted gives one more operand its source. -/
theorem filled_assign {edge : Incoming}
    (assigned : sources.assign edge = .ok final) :
    final.filled = sources.filled + 1 := by
  unfold assign at assigned
  split at assigned
  · split at assigned
    · cases assigned
    · rename_i free
      cases assigned
      simp [filled, Option.not_isSome_iff_eq_none.mp free, Nat.add_comm]
  · split at assigned
    · cases assigned
    · rename_i free
      cases assigned
      simp [filled, Option.not_isSome_iff_eq_none.mp free]
  · cases assigned
  · cases assigned

theorem filled_assignAll (ran : edges.foldlM assign sources = .ok final) :
    final.filled = sources.filled + edges.length := by
  induction edges generalizing sources with
  | nil =>
      cases ran
      rfl
  | cons edge edges ih =>
      rw [List.foldlM_cons, bind_eq_ok_iff] at ran
      obtain ⟨next, assigned, ran⟩ := ran
      have oneMore := filled_assign assigned
      have others := ih ran
      simp only [List.length_cons]
      omega

/-- Two edges that are accepted leave no operand without a source. -/
theorem both_isSome_of_assignAll (two : edges.length = 2)
    (ran : edges.foldlM assign unassigned = .ok final) :
    final.left.isSome ∧ final.right.isSome := by
  have count := filled_assignAll ran
  obtain ⟨left, right⟩ := final
  cases left <;> cases right <;>
    simp [filled, unassigned, two] at count ⊢

/-- What is wrong with an edge is never that an operand was left out. -/
theorem message_ne_of_assign_eq_error {edge : Incoming} {fault : HandleFault}
    (failed : sources.assign edge = .error fault) :
    fault.message ≠ HandleFault.incomplete.message := by
  unfold assign at failed
  split at failed
  · split at failed
    · cases failed
      exact HandleFault.message_ne_incomplete (by simp) (by simp)
    · cases failed
  · split at failed
    · cases failed
      exact HandleFault.message_ne_incomplete (by simp) (by simp)
    · cases failed
  · cases failed
    exact HandleFault.message_ne_incomplete (by simp) (by simp)
  · cases failed
    exact HandleFault.message_ne_incomplete (by simp) (by simp)

theorem message_ne_of_ofEdges_eq_error {fault : HandleFault}
    (two : edges.length = 2) (failed : ofEdges edges = .error fault) :
    fault.message ≠ HandleFault.incomplete.message := by
  rw [ofEdges, bind_eq_error_iff] at failed
  rcases failed with failed | ⟨final, ran, incomplete⟩
  · obtain ⟨_, edge, _, sources, _, _, refused⟩ :=
      foldlM_eq_error_iff.mp failed
    exact message_ne_of_assign_eq_error refused
  · obtain ⟨hasLeft, hasRight⟩ := both_isSome_of_assignAll two ran
    obtain ⟨left, right⟩ := final
    obtain ⟨leftId, rfl⟩ := Option.isSome_iff_exists.mp hasLeft
    obtain ⟨rightId, rfl⟩ := Option.isSome_iff_exists.mp hasRight
    cases incomplete

end OperandSources

namespace Model

variable {policy : PipePolicy} {model : Model} {nodeId consumerId : NodeId}

theorem message_ne_of_operandSources_eq_error {atId : NodeId}
    {fault : HandleFault}
    (failed : model.operandSources nodeId =
      .error (.operatorHandles atId fault)) :
    fault.message ≠ HandleFault.incomplete.message := by
  simp only [operandSources] at failed
  split at failed
  · rename_i two
    obtain ⟨_, handles, same⟩ := mapError_eq_error_iff.mp failed
    cases same
    exact OperandSources.message_ne_of_ofEdges_eq_error two handles
  · cases failed

/-- A declared node has no fault of reference. -/
theorem not_localFault_malformedReference {fault : ReferenceFault}
    (declared : (model.role? nodeId).isSome) :
    ¬ LocalFault policy model nodeId consumerId
      (.malformedReference fault) := by
  intro violated
  cases violated with
  | unknown undeclared => simp [undeclared] at declared
  | operands _ failed =>
      have kind := kind_of_operandSources_eq_error failed
      split at kind <;> cases kind

theorem LocalFault.message_ne_incomplete {atId : NodeId} {fault : HandleFault}
    (violated : LocalFault policy model nodeId consumerId
      (.operatorHandles atId fault)) :
    fault.message ≠ HandleFault.incomplete.message := by
  cases violated with
  | operands _ failed => exact message_ne_of_operandSources_eq_error failed

/-- Every node that the walk visits is declared. -/
theorem Closed.isSome_role?_of_used (closed : model.Closed)
    (used : model.Used nodeId) : (model.role? nodeId).isSome := by
  obtain ⟨producer, oneEdge, reaches⟩ := used
  exact closed.declaredFrom_producer oneEdge nodeId reaches

/-- The safeguards of the walk are idle in a model that was built.  Every node
that it visits has a role, so that no fault of reference is reported; and
whenever the two edges of an operator are accepted, both operands have a source,
so that none is reported to be left out.  No budget for the depth of the walk
changes that. -/
theorem extract_safeguards_idle {rules : Rules} {graph : Editor.Graph}
    {model : Model} (built : build rules graph = .ok model)
    (policy : PipePolicy) :
    (∀ nodeId, model.Used nodeId → (model.role? nodeId).isSome) ∧
    (∀ budget fault, (model.extractWithin policy budget).outcome ≠
      .error (.malformedReference fault)) ∧
    (∀ nodeId, (model.incoming nodeId).length = 2 →
      ∀ sources, (model.incoming nodeId).foldlM OperandSources.assign
          .unassigned = .ok sources →
        sources.left.isSome ∧ sources.right.isSome) ∧
    ∀ budget nodeId fault,
      (model.extractWithin policy budget).outcome =
          .error (.operatorHandles nodeId fault) →
        fault.message ≠ "both 'A' and 'B' must be connected" := by
  have closed := (build_eq_ok_iff.mp built).closed
  refine ⟨fun _ => closed.isSome_role?_of_used, ?_,
    fun _ two _ => OperandSources.both_isSome_of_assignAll two, ?_⟩
  · intro budget fault failed
    obtain ⟨faultyId, faultyConsumerId, used, violated⟩ :=
      exists_localFault_of_extractWithin_eq_error failed
        (by simp [CompileError.kind])
    exact not_localFault_malformedReference
      (closed.isSome_role?_of_used used) violated
  · intro budget nodeId fault failed
    obtain ⟨faultyId, faultyConsumerId, _, violated⟩ :=
      exists_localFault_of_extractWithin_eq_error failed
        (by simp [CompileError.kind])
    exact violated.message_ne_incomplete

/-- The rival model fails by the handles of an operator with two edges, and not
by a safeguard. -/
theorem rivalModel_safeguards_idle :
    (build Rules.plain rivalGraph = .ok rivalModel ∧
      (rivalModel.extractWithin .firstWins 3).outcome =
        .error (.operatorHandles "pair" (.repeated .left))) ∧
    (rivalModel.role? "pair").isSome ∧
    HandleFault.message (.repeated .left) ≠
      "both 'A' and 'B' must be connected" := by
  have idle := extract_safeguards_idle build_rivalGraph .firstWins
  have follows : Follows rivalModel "top" "pair" :=
    @Follows.pipe rivalModel "top" "first" [] ⟨"pair", none⟩ rfl rfl
  have used : rivalModel.Used "pair" :=
    ⟨⟨"top", none⟩, rfl, .single follows⟩
  exact ⟨⟨build_rivalGraph, rfl⟩, idle.1 "pair" used, idle.2.2.2 3 _ _ rfl⟩

end Model

end PipeGraph
