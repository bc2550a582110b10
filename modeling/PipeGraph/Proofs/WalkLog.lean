import PipeGraph.Proofs.Branches
import PipeGraph.Proofs.Events
import PipeGraph.Proofs.Violations

/-!
# The log of the walk

The walk reports every node that it visits, and right after it the pipe inputs
that it ignores there.  Without its trees the walk is nothing but its visits in
depth-first order, each looked at by itself: it reports what they report, and
fails where the first of them does.  Where it returns a tree, the visits are the
nodes of the tree in preorder.
-/

namespace PipeGraph

namespace Model

section Looks

variable {policy : PipePolicy} {model : Model} {visit : Visit}

end Looks

section Step

variable {policy : PipePolicy} {model : Model} {nodeId consumerId : NodeId}

end Step

section Run

variable {policy : PipePolicy} {model : Model}

end Run

section Trees

variable {policy : PipePolicy} {model : Model} {tree : InputTree}
  {nodeId : NodeId}

/-- The children of a tree stand at the inputs of its node, in the same
order. -/
theorem Layer.forall₂_children {below : InputTree → NodeId → Prop}
    (layer : Layer policy model below tree nodeId) :
    List.Forall₂ (fun child visit => below child.2 visit.nodeId)
      tree.children (model.inputs nodeId) := by
  cases layer with
  | data isData =>
      have noInputs : model.inputs nodeId = [] := by simp [inputs, isData]
      rw [noInputs]
      exact .nil
  | operation isOperation operands leftBelow rightBelow =>
      rw [inputs_operation isOperation operands]
      exact .cons leftBelow (.cons rightBelow .nil)
  | @command _ name switches input parameters isCommand _ inputBelow
      parametersBelow =>
      rw [inputs_command isCommand, InputTree.children]
      apply List.rel_append
      · rw [Incoming.pipeFrom_iff] at inputBelow
        generalize (Incoming.pipeSources (model.incoming nodeId)).head? =
          first at inputBelow ⊢
        cases inputBelow with
        | none => exact .nil
        | some treeBelow => exact .cons treeBelow .nil
      · rw [Incoming.parametersFrom_iff] at parametersBelow
        rw [List.forall₂_map_left_iff, List.forall₂_map_right_iff]
        exact parametersBelow.flip.imp fun _ _ found => found.2

/-- Walks from the children of a tree, each in step with its child, make up one
walk that is in step with all of them. -/
theorem exists_depthFirst_of_forall₂ {related : InputTree → Visit → Prop}
    {children : List (Option String × InputTree)} {pending : List Visit}
    (walks : List.Forall₂ (fun child visit => ∃ visits,
        DepthFirst model [visit] visits ∧
          List.Forall₂ related child.2.preorder visits) children pending) :
    ∃ visits, DepthFirst model pending visits ∧
      List.Forall₂ related (children.flatMap fun child => child.2.preorder)
        visits := by
  induction walks with
  | nil => exact ⟨[], .done, .nil⟩
  | cons walk _ ih =>
      obtain ⟨visits, first, firstRelated⟩ := walk
      obtain ⟨otherVisits, others, othersRelated⟩ := ih
      exact ⟨visits ++ otherVisits, first.append others,
        List.rel_append firstRelated othersRelated⟩

/-- A walk from an unfolded node visits, in preorder, the nodes that the parts
of its tree unfold. -/
theorem Unfolds.exists_depthFirst (unfolds : Unfolds policy model tree nodeId)
    (consumerId : NodeId) :
    ∃ visits, DepthFirst model [⟨nodeId, consumerId⟩] visits ∧
      List.Forall₂ (fun part visit => Unfolds policy model part visit.nodeId)
        tree.preorder visits := by
  induction heightEq : tree.height using Nat.strong_induction_on
    generalizing tree nodeId consumerId with
  | h height ih =>
      have layer : Layer policy model (fun lower sourceId =>
          lower.height < tree.height ∧ Unfolds policy model lower sourceId)
          tree nodeId :=
        unfolds.toLayer.mono fun _ _ isLower lowerUnfolds =>
          ⟨isLower, lowerUnfolds⟩
      have walks : List.Forall₂ (fun child visit => ∃ visits,
          DepthFirst model [visit] visits ∧
            List.Forall₂
              (fun part visit => Unfolds policy model part visit.nodeId)
              child.2.preorder visits) tree.children (model.inputs nodeId) :=
        layer.forall₂_children.imp fun child visit ⟨isLower, childUnfolds⟩ =>
          ih _ (heightEq ▸ isLower) childUnfolds visit.consumerId rfl
      obtain ⟨visits, walk, related⟩ := exists_depthFirst_of_forall₂ walks
      refine ⟨⟨nodeId, consumerId⟩ :: visits, .visit ?_, ?_⟩
      · rw [List.append_nil]
        exact walk
      · rw [InputTree.preorder_eq]
        exact .cons unfolds related

end Trees

end Model

end PipeGraph
