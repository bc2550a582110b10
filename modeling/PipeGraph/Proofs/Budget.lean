import Mathlib.Data.Finset.Card
import Mathlib.Logic.Relation
import PipeGraph.Proofs.Walk

/-!
# How much budget the walk needs

The nodes that can be reached from a node along followed edges become strictly
fewer with every followed edge, as long as no cycle is among them.  Their
number therefore bounds the depth of the walk: with that much budget it never
runs out, and more budget changes neither its outcome nor its log.
-/

namespace PipeGraph

namespace Model

/-- A node is reached from another one when followed edges lead to it. -/
def Reaches (model : Model) : NodeId → NodeId → Prop :=
  Relation.ReflTransGen (Follows model)

/-- No node reached from a given one is reached from itself again. -/
def AcyclicFrom (model : Model) (nodeId : NodeId) : Prop :=
  ∀ reached, model.Reaches nodeId reached →
    ¬ Relation.TransGen (Follows model) reached reached

/-- Every node reached from a given one is declared. -/
def DeclaredFrom (model : Model) (nodeId : NodeId) : Prop :=
  ∀ reached, model.Reaches nodeId reached → (model.role? reached).isSome

open scoped Classical in
/-- The declared nodes that are reached from a node. -/
noncomputable def reached (model : Model) (nodeId : NodeId) : Finset NodeId :=
  (model.roles.map Prod.fst).toFinset.filter (model.Reaches nodeId)

/-- The number of declared nodes that are reached from a node. -/
noncomputable def rank (model : Model) (nodeId : NodeId) : Nat :=
  (model.reached nodeId).card

section Rank

variable {model : Model} {nodeId sourceId : NodeId}

theorem AcyclicFrom.of_follows (acyclic : model.AcyclicFrom nodeId)
    (follows : Follows model nodeId sourceId) :
    model.AcyclicFrom sourceId :=
  fun reached reaches => acyclic reached (.head follows reaches)

theorem DeclaredFrom.of_follows (declared : model.DeclaredFrom nodeId)
    (follows : Follows model nodeId sourceId) :
    model.DeclaredFrom sourceId :=
  fun reached reaches => declared reached (.head follows reaches)

theorem mem_reached_iff {reachedId : NodeId} :
    reachedId ∈ model.reached nodeId ↔
      (model.role? reachedId).isSome ∧ model.Reaches nodeId reachedId := by
  classical
  rw [reached, Finset.mem_filter, List.mem_toFinset]
  simp [role?]

/-- A followed edge leaves at least its own target behind. -/
theorem rank_lt_of_follows (acyclic : model.AcyclicFrom nodeId)
    (follows : Follows model nodeId sourceId)
    (declared : (model.role? nodeId).isSome) :
    model.rank sourceId < model.rank nodeId := by
  apply Finset.card_lt_card
  refine ⟨?_, ?_⟩
  · intro reachedId member
    rw [mem_reached_iff] at member ⊢
    exact ⟨member.1, .head follows member.2⟩
  · intro included
    have back : nodeId ∈ model.reached sourceId :=
      included (mem_reached_iff.mpr ⟨declared, .refl⟩)
    have cycle : Relation.TransGen (Follows model) nodeId nodeId :=
      .head' follows (mem_reached_iff.mp back).2
    exact acyclic nodeId .refl cycle

theorem card_declared_le (model : Model) :
    (model.roles.map Prod.fst).toFinset.card ≤ model.nodeCount := by
  calc
    (model.roles.map Prod.fst).toFinset.card
        ≤ (model.roles.map Prod.fst).length := List.toFinset_card_le _
    _ = model.nodeCount := List.length_map Prod.fst

theorem rank_le_nodeCount (model : Model) (nodeId : NodeId) :
    model.rank nodeId ≤ model.nodeCount := by
  classical
  calc
    model.rank nodeId ≤ (model.roles.map Prod.fst).toFinset.card :=
      Finset.card_filter_le _ _
    _ ≤ model.nodeCount := model.card_declared_le

theorem rank_pos (declared : (model.role? nodeId).isSome) :
    0 < model.rank nodeId :=
  Finset.card_pos.mpr ⟨nodeId, mem_reached_iff.mpr ⟨declared, .refl⟩⟩

end Rank

section Budget

variable {policy : PipePolicy} {model : Model} {nodeId : NodeId}

/-- Budgets that suffice for all nodes to be reached give the same walk. -/
theorem resolve_eq_of_rank_le (acyclic : model.AcyclicFrom nodeId)
    (declared : model.DeclaredFrom nodeId) {budget otherBudget : Nat}
    (enough : model.rank nodeId ≤ budget)
    (otherEnough : model.rank nodeId ≤ otherBudget) (consumerId : NodeId) :
    resolve policy model budget nodeId consumerId =
      resolve policy model otherBudget nodeId consumerId := by
  have nodeDeclared := declared nodeId .refl
  have positive := rank_pos nodeDeclared
  induction budget generalizing nodeId consumerId otherBudget with
  | zero => omega
  | succ budget ih =>
      cases otherBudget with
      | zero => omega
      | succ otherBudget =>
          rw [resolve_succ, resolve_succ]
          apply resolveStep_congr
          intro sourceId follows
          have fewer := rank_lt_of_follows acyclic follows nodeDeclared
          have sourceDeclared := declared.of_follows follows sourceId .refl
          exact ih (acyclic.of_follows follows) (declared.of_follows follows)
            (by omega) (by omega) nodeId sourceDeclared
            (rank_pos sourceDeclared)

/-- A sufficient budget is never used up. -/
theorem resolve_ne_cyclicFlow (acyclic : model.AcyclicFrom nodeId)
    (declared : model.DeclaredFrom nodeId) {budget : Nat}
    (enough : model.rank nodeId ≤ budget) (consumerId atId : NodeId) :
    (resolve policy model budget nodeId consumerId).outcome ≠
      .error (.cyclicFlow atId) := by
  have nodeDeclared := declared nodeId .refl
  have positive := rank_pos nodeDeclared
  induction budget generalizing nodeId consumerId with
  | zero => omega
  | succ budget ih =>
      rw [resolve_succ]
      intro exhausted
      rcases localFault_or_exists_of_resolveStep_eq_error exhausted with
        fault | ⟨sourceId, follows, sourceExhausted⟩
      · exact not_localFault_cyclicFlow fault
      · have fewer := rank_lt_of_follows acyclic follows nodeDeclared
        have sourceDeclared := declared.of_follows follows sourceId .refl
        exact ih (acyclic.of_follows follows) (declared.of_follows follows)
          (by omega) nodeId sourceDeclared (rank_pos sourceDeclared)
          sourceExhausted

/-- A walk fails because its budget is used up, or by a fault of a node that it
has reached. -/
theorem exists_localFault_of_resolve_eq_error {budget : Nat}
    {consumerId : NodeId} {error : CompileError}
    (failed : (resolve policy model budget nodeId consumerId).outcome =
      .error error) :
    (∃ exhaustedId, error = .cyclicFlow exhaustedId) ∨
      ∃ faultyId faultyConsumerId, model.Reaches nodeId faultyId ∧
        LocalFault policy model faultyId faultyConsumerId error := by
  induction budget generalizing nodeId consumerId with
  | zero =>
      cases failed
      exact .inl ⟨nodeId, rfl⟩
  | succ budget ih =>
      rw [resolve_succ] at failed
      rcases localFault_or_exists_of_resolveStep_eq_error failed with
        fault | ⟨sourceId, follows, sourceFailed⟩
      · exact .inr ⟨nodeId, consumerId, .refl, fault⟩
      · rcases ih sourceFailed with
          exhausted | ⟨faultyId, faultyConsumerId, reaches, fault⟩
        · exact .inl exhausted
        · exact .inr ⟨faultyId, faultyConsumerId, .head follows reaches, fault⟩

end Budget

end Model

end PipeGraph
