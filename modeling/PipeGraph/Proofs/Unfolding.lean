import PipeGraph.Proofs.Budget

/-!
# Extraction is unfolding

A tree unfolds a node when it is built up from the node in finitely many
layers.  The relation shares nothing with the walk: it has no budget, no log and
no order of visits.  Extraction nevertheless returns exactly the trees that
unfold the producer of the result.  A cycle needs no separate treatment, for a
node that leads back to itself is unfolded by no tree.
-/

namespace PipeGraph

namespace Model

/-- A tree unfolds a node when it is one layer over trees that unfold the
sources of the followed edges. -/
inductive Unfolds (policy : PipePolicy) (model : Model) :
    InputTree → NodeId → Prop
  | layer {tree nodeId} :
      Layer policy model (Unfolds policy model) tree nodeId →
      Unfolds policy model tree nodeId

variable {policy : PipePolicy} {model : Model} {tree : InputTree}
  {nodeId : NodeId}

/-- Whatever the walk returns unfolds the node it started from. -/
theorem unfolds_of_resolve_eq_ok {budget : Nat} {consumerId : NodeId}
    (returned : (resolve policy model budget nodeId consumerId).outcome =
      .ok tree) :
    Unfolds policy model tree nodeId := by
  induction budget generalizing tree nodeId consumerId with
  | zero => cases returned
  | succ budget ih =>
      rw [resolve_succ, resolveStep_eq_ok_iff] at returned
      exact .layer (returned.mono fun _ _ _ visited => ih visited)

/-- A walk cannot return a tree that is higher than its budget. -/
theorem height_le_of_resolve_eq_ok {budget : Nat} {consumerId : NodeId}
    (returned : (resolve policy model budget nodeId consumerId).outcome =
      .ok tree) :
    tree.height ≤ budget := by
  induction budget generalizing tree nodeId consumerId with
  | zero => cases returned
  | succ budget ih =>
      rw [resolve_succ, resolveStep_eq_ok_iff] at returned
      exact returned.height_le fun _ _ visited => ih visited

namespace Unfolds

theorem toLayer (unfolds : Unfolds policy model tree nodeId) :
    Layer policy model (Unfolds policy model) tree nodeId := by
  cases unfolds with
  | layer layer => exact layer

/-- A walk whose budget is the height of an unfolding tree returns it. -/
theorem resolve_eq_ok (unfolds : Unfolds policy model tree nodeId)
    {budget : Nat} (enough : tree.height ≤ budget) (consumerId : NodeId) :
    (resolve policy model budget nodeId consumerId).outcome = .ok tree := by
  induction budget generalizing tree nodeId consumerId with
  | zero =>
      have positive := tree.height_pos
      omega
  | succ budget ih =>
      rw [resolve_succ, resolveStep_eq_ok_iff]
      apply unfolds.toLayer.mono
      intro lower sourceId isLower lowerUnfolds
      exact ih lowerUnfolds (by omega) nodeId

/-- No node is unfolded by two trees. -/
theorem unique {other : InputTree}
    (unfolds : Unfolds policy model tree nodeId)
    (otherUnfolds : Unfolds policy model other nodeId) : tree = other := by
  have returned := unfolds.resolve_eq_ok
    (Nat.le_max_left tree.height other.height) nodeId
  have otherReturned := otherUnfolds.resolve_eq_ok
    (Nat.le_max_right tree.height other.height) nodeId
  rw [returned] at otherReturned
  exact Except.ok.inj otherReturned

/-- Everything reached from an unfolded node along at least one edge is
unfolded by a lower tree. -/
theorem exists_of_transGen {reachedId : NodeId}
    (unfolds : Unfolds policy model tree nodeId)
    (reaches : Relation.TransGen (Follows model) nodeId reachedId) :
    ∃ lower, Unfolds policy model lower reachedId ∧
      lower.height < tree.height := by
  induction reaches with
  | single follows => exact unfolds.toLayer.exists_of_follows follows
  | tail _ follows ih =>
      obtain ⟨middle, middleUnfolds, middleLower⟩ := ih
      obtain ⟨lower, lowerUnfolds, isLower⟩ :=
        middleUnfolds.toLayer.exists_of_follows follows
      exact ⟨lower, lowerUnfolds, by omega⟩

theorem exists_of_reaches {reachedId : NodeId}
    (unfolds : Unfolds policy model tree nodeId)
    (reaches : model.Reaches nodeId reachedId) :
    ∃ lower, Unfolds policy model lower reachedId := by
  rcases Relation.reflTransGen_iff_eq_or_transGen.mp reaches with
    rfl | further
  · exact ⟨tree, unfolds⟩
  · obtain ⟨lower, lowerUnfolds, _⟩ := unfolds.exists_of_transGen further
    exact ⟨lower, lowerUnfolds⟩

/-- An unfolded node leads to no cycle: around a cycle the tree would get
lower, and it is the only one. -/
theorem acyclicFrom (unfolds : Unfolds policy model tree nodeId) :
    model.AcyclicFrom nodeId := by
  intro reachedId reaches cycle
  obtain ⟨reachedTree, reachedUnfolds⟩ := unfolds.exists_of_reaches reaches
  obtain ⟨lower, lowerUnfolds, isLower⟩ :=
    reachedUnfolds.exists_of_transGen cycle
  rw [lowerUnfolds.unique reachedUnfolds] at isLower
  omega

theorem role_isSome (unfolds : Unfolds policy model tree nodeId) :
    ∃ role, model.role? nodeId = some role ∧ role ≠ .result :=
  unfolds.toLayer.role_isSome

theorem declaredFrom (unfolds : Unfolds policy model tree nodeId) :
    model.DeclaredFrom nodeId := by
  intro reachedId reaches
  obtain ⟨_, reachedUnfolds⟩ := unfolds.exists_of_reaches reaches
  obtain ⟨role, isRole, _⟩ := reachedUnfolds.role_isSome
  simp [isRole]

/-- An unfolded node is resolved within its rank. -/
theorem resolve_eq_ok_of_rank_le (unfolds : Unfolds policy model tree nodeId)
    {budget : Nat} (enough : model.rank nodeId ≤ budget)
    (consumerId : NodeId) :
    (resolve policy model budget nodeId consumerId).outcome = .ok tree := by
  have larger := unfolds.resolve_eq_ok (Nat.le_max_right budget tree.height)
    consumerId
  rw [resolve_eq_of_rank_le unfolds.acyclicFrom unfolds.declaredFrom enough
    (Nat.le_trans enough (Nat.le_max_left budget tree.height))]
  exact larger

/-- An unfolding tree is no higher than the number of nodes reached. -/
theorem height_le_rank (unfolds : Unfolds policy model tree nodeId) :
    tree.height ≤ model.rank nodeId :=
  height_le_of_resolve_eq_ok
    (unfolds.resolve_eq_ok_of_rank_le (Nat.le_refl _) nodeId)

end Unfolds

/-- With the whole number of nodes as its budget the walk returns exactly the
unfolding trees. -/
theorem resolve_nodeCount_eq_ok_iff {consumerId : NodeId} :
    (resolve policy model model.nodeCount nodeId consumerId).outcome =
        .ok tree ↔
      Unfolds policy model tree nodeId := by
  constructor
  · exact unfolds_of_resolve_eq_ok
  · intro unfolds
    exact unfolds.resolve_eq_ok_of_rank_le (model.rank_le_nodeCount nodeId)
      consumerId

/-- Extraction is the walk from the producer of the result, if there is
exactly one, whatever its budget. -/
theorem extractWithin_eq_ok_iff {policy : PipePolicy} {model : Model}
    {budget : Nat} {tree : InputTree} :
    (model.extractWithin policy budget).outcome = .ok tree ↔
      ∃ producer, model.incoming model.resultId = [producer] ∧
        (resolve policy model budget producer.source
          model.resultId).outcome = .ok tree := by
  unfold extractWithin
  split
  · rename_i noEdge
    simp [noEdge]
  · rename_i producer oneEdge
    simp [oneEdge]
  · rename_i _ notOne
    constructor
    · intro returned
      cases returned
    · rintro ⟨producer, oneEdge, _⟩
      exact (notOne producer oneEdge).elim

theorem extract_eq_ok_iff {policy : PipePolicy} {model : Model}
    {tree : InputTree} :
    (model.extract policy).outcome = .ok tree ↔
      ∃ producer, model.incoming model.resultId = [producer] ∧
        (resolve policy model model.nodeCount producer.source
          model.resultId).outcome = .ok tree :=
  extractWithin_eq_ok_iff

/-- Extraction returns a tree exactly when the result has one producer and the
tree unfolds it. -/
theorem extract_eq_ok_iff_unfolds (policy : PipePolicy) (model : Model)
    (tree : InputTree) :
    (model.extract policy).outcome = .ok tree ↔
      ∃ producer, model.incoming model.resultId = [producer] ∧
        Unfolds policy model tree producer.source := by
  simp only [extract_eq_ok_iff, resolve_nodeCount_eq_ok_iff]

end Model

end PipeGraph
