import PipeGraph.Compiler
import PipeGraph.Proofs.Termination

/-!
# What compiling comes down to

Without its log, compiling is a chain of three checks: a model can be built,
its result has one producer, and the walk from the producer returns a tree.
Everything else that compiling returns is computed from that tree.
-/

namespace PipeGraph

/-- All that compiling returns, for the tree that it extracts. -/
def InputTree.artifacts (tree : InputTree) : Artifacts :=
  ⟨tree, tree.normalize, tree.normalize.render⟩

/-- The only node that feeds the result. -/
def Model.producer? (model : Model) : Except CompileError NodeId :=
  match model.incoming model.resultId with
  | [] => .error .missingResultProducer
  | [root] => .ok root.source
  | several => .error (.ambiguousResultProducer several.length)

theorem Model.outcome_extract (policy : PipePolicy) (model : Model) :
    (model.extract policy).outcome =
      model.producer? >>= fun producerId =>
        (resolve policy model model.nodeCount producerId
          model.resultId).outcome := by
  unfold extract extractWithin producer?
  rcases model.incoming model.resultId with _ | ⟨first, _ | ⟨second, others⟩⟩
  · rfl
  · rfl
  · rfl

namespace Compiler

theorem outcome_artifacts (compiler : Compiler) (graph : Editor.Graph) :
    (compiler.artifacts graph).outcome =
      Model.build compiler.rules graph >>= fun model =>
        (model.extract compiler.pipePolicy).outcome >>= fun tree =>
          .ok tree.artifacts := by
  unfold artifacts model
  simp only [Logged.outcome_bind, Logged.outcome_emit,
    Logged.outcome_ofExcept]
  cases Model.build compiler.rules graph with
  | error error => rfl
  | ok model => rfl

theorem artifacts_eq_ok_iff {compiler : Compiler} {graph : Editor.Graph}
    {artifacts : Artifacts} :
    (compiler.artifacts graph).outcome = .ok artifacts ↔
      ∃ model, Model.build compiler.rules graph = .ok model ∧
        ∃ tree, (model.extract compiler.pipePolicy).outcome = .ok tree ∧
          tree.artifacts = artifacts := by
  simp only [outcome_artifacts, bind_eq_ok_iff, Except.ok.injEq]

end Compiler

/-- What the sample graph computes. -/
def sampleInput : InputTree :=
  .command "ls" (some (.data "1" .int))
    [("depth", .operation .add (.data "1" .int) (.data "1" .int))] ["--all"]

theorem artifacts_sampleGraph :
    (Compiler.artifacts ⟨Model.sampleRules, .firstWins⟩
      Model.sampleGraph).outcome = .ok sampleInput.artifacts := by
  have extracted : (Model.sampleModel.extract .firstWins).outcome =
      .ok sampleInput := rfl
  exact Compiler.artifacts_eq_ok_iff.mpr
    ⟨Model.sampleModel, Model.build_sampleGraph, sampleInput, extracted, rfl⟩

end PipeGraph
