import PipeGraph.Proofs.Artifacts
import PipeGraph.Proofs.Layout

/-!
# Which trees a graph can express

The tags of the two operands cannot be used as names of parameters: an edge
with such a tag into a command feeds its pipe.  This is the only limit of the
graph format.  No tree that a graph compiles to has a parameter with one of the
two names, and every other tree is what its drawing compiles to, whether or not
a second pipe edge would be tolerated.
-/

namespace PipeGraph

namespace InputTree

mutual

/-- The names of all parameters of all commands in a tree. -/
def parameterNames : InputTree → List String
  | command _ input parameters _ =>
      namesInInput input ++ namesInParameters parameters
  | data _ _ => []
  | operation _ left right => left.parameterNames ++ right.parameterNames

/-- The parameter names in an optional pipe input. -/
def namesInInput : Option InputTree → List String
  | none => []
  | some input => input.parameterNames

/-- The names of some parameters and those in their values. -/
def namesInParameters : List (String × InputTree) → List String
  | [] => []
  | (name, value) :: others =>
      name :: (value.parameterNames ++ namesInParameters others)

end

end InputTree

/-- None of the names is the tag of an operand. -/
def AvoidTags (names : List String) : Prop :=
  ∀ name ∈ names, name ≠ "A" ∧ name ≠ "B"

instance (names : List String) : Decidable (AvoidTags names) :=
  inferInstanceAs (Decidable (∀ name ∈ names, name ≠ "A" ∧ name ≠ "B"))

@[simp]
theorem avoidTags_nil : AvoidTags [] := nofun

@[simp]
theorem avoidTags_cons {name : String} {names : List String} :
    AvoidTags (name :: names) ↔
      (name ≠ "A" ∧ name ≠ "B") ∧ AvoidTags names :=
  List.forall_mem_cons

@[simp]
theorem avoidTags_append {names others : List String} :
    AvoidTags (names ++ others) ↔ AvoidTags names ∧ AvoidTags others :=
  List.forall_mem_append

/-- A tag is read as a name unless it is the tag of an operand. -/
theorem Handle.ofTag_eq_named_iff {tag name : String} :
    ofTag tag = named name ↔ tag = name ∧ name ≠ "A" ∧ name ≠ "B" := by
  unfold ofTag
  split
  · rename_i isLeft
    simp only [reduceCtorEq, false_iff]
    rintro ⟨rfl, notLeft, _⟩
    exact notLeft isLeft
  · rename_i notLeft
    split
    · rename_i isRight
      simp only [reduceCtorEq, false_iff]
      rintro ⟨rfl, _, notRight⟩
      exact notRight isRight
    · rename_i notRight
      rw [named.injEq]
      constructor
      · rintro rfl
        exact ⟨rfl, notLeft, notRight⟩
      · exact And.left

section Extracted

open InputTree

namespace Incoming

theorem PipeFrom.avoidTags {input : Option InputTree} {edges : List Incoming}
    (pipe : PipeFrom (fun lower _ => AvoidTags lower.parameterNames)
      input edges) :
    AvoidTags (namesInInput input) := by
  induction pipe with
  | absent => exact avoidTags_nil
  | first _ treeAvoids => exact treeAvoids
  | later _ _ ih => exact ih

/-- The names of parameters are read off the handles of edges. -/
theorem ParametersFrom.avoidTags {parameters : List (String × InputTree)}
    {edges : List Incoming}
    (collected : ParametersFrom (fun lower _ => AvoidTags lower.parameterNames)
      parameters edges)
    (tagged : ∀ edge ∈ edges, ∀ name, edge.handle = some (.named name) →
      name ≠ "A" ∧ name ≠ "B") :
    AvoidTags (namesInParameters parameters) := by
  induction collected with
  | absent => exact avoidTags_nil
  | named isNamed treeAvoids _ ih =>
      simp only [List.forall_mem_cons] at tagged
      simp only [namesInParameters, avoidTags_cons, avoidTags_append]
      exact ⟨tagged.1 _ isNamed, treeAvoids, ih tagged.2⟩
  | unnamed _ _ ih =>
      simp only [List.forall_mem_cons] at tagged
      exact ih tagged.2

end Incoming

namespace Model

variable {policy : PipePolicy} {model : Model} {tree : InputTree}
  {nodeId : NodeId}

/-- No handle has the tag of an operand as its name. -/
def HandlesAvoidTags (model : Model) : Prop :=
  ∀ nodeId, ∀ edge ∈ model.incoming nodeId, ∀ name,
    edge.handle = some (.named name) → name ≠ "A" ∧ name ≠ "B"

theorem IsModelOf.handlesAvoidTags {rules : Rules} {graph : Editor.Graph}
    (isModel : IsModelOf rules graph model) : model.HandlesAvoidTags := by
  intro nodeId edge member name isNamed
  rw [isModel.incoming_eq] at member
  obtain ⟨original, _, rfl⟩ := List.mem_map.mp member
  obtain ⟨tag, _, read⟩ := Option.map_eq_some_iff.mp isNamed
  exact (Handle.ofTag_eq_named_iff.mp read).2

theorem Layer.avoidTags (tagged : model.HandlesAvoidTags)
    (layer : Layer policy model
      (fun lower _ => AvoidTags lower.parameterNames) tree nodeId) :
    AvoidTags tree.parameterNames := by
  cases layer with
  | data _ => exact avoidTags_nil
  | operation _ _ leftAvoids rightAvoids =>
      exact avoidTags_append.mpr ⟨leftAvoids, rightAvoids⟩
  | command _ _ inputBelow parametersBelow =>
      exact avoidTags_append.mpr
        ⟨inputBelow.avoidTags, parametersBelow.avoidTags (tagged nodeId)⟩

theorem Unfolds.avoidTags (tagged : model.HandlesAvoidTags)
    (unfolds : Unfolds policy model tree nodeId) :
    AvoidTags tree.parameterNames := by
  -- a tree is higher than those that its layer stands on
  induction height : tree.height using Nat.strong_induction_on
    generalizing tree nodeId with
  | _ bound ih =>
      subst height
      refine Layer.avoidTags tagged (unfolds.toLayer.mono ?_)
      intro lower sourceId isLower lowerUnfolds
      exact ih lower.height isLower lowerUnfolds rfl

end Model

end Extracted

section Drawn

open InputTree

namespace Incoming

variable {below : InputTree → NodeId → Prop} {number : Nat}
  {parameters : List (String × InputTree)}

theorem ofInput_named {sourceId : NodeId} {name : String}
    (avoids : name ≠ "A" ∧ name ≠ "B") :
    (ofInput (sourceId, some name)).handle = some (.named name) :=
  congrArg some (Handle.ofTag_eq_named_iff.mpr ⟨rfl, avoids⟩)

theorem not_feedsPipe_of_mem_parameterRoots
    (avoids : AvoidTags (namesInParameters parameters)) {edge : Incoming}
    (member : edge ∈ (parameterRoots number parameters).map ofInput) :
    ¬ edge.FeedsPipe := by
  induction parameters generalizing number with
  | nil => simp [parameterRoots] at member
  | cons parameter others ih =>
      obtain ⟨name, value⟩ := parameter
      simp only [namesInParameters, avoidTags_cons, avoidTags_append] at avoids
      rcases List.mem_cons.mp member with rfl | later
      · exact fun feeds => feeds name (ofInput_named avoids.1)
      · exact ih avoids.2.2 later

/-- The edge for the pipe comes first, and no other edge feeds the pipe. -/
theorem countP_feedsPipe_le_one
    (avoids : AvoidTags (namesInParameters parameters))
    (input : Option InputTree) (inputNumber : Nat) :
    ((inputRoot inputNumber input ++
      parameterRoots number parameters).map ofInput).countP
        (fun edge => edge.FeedsPipe) ≤ 1 := by
  have noneLater : ((parameterRoots number parameters).map ofInput).countP
      (fun edge => edge.FeedsPipe) = 0 := by
    rw [List.countP_eq_zero]
    intro edge member
    simpa using not_feedsPipe_of_mem_parameterRoots avoids member
  have fromInput : ((inputRoot inputNumber input).map ofInput).length ≤ 1 := by
    cases input <;> simp [inputRoot]
  rw [List.map_append, List.countP_append, noneLater]
  exact Nat.le_trans List.countP_le_length fromInput

theorem feedsPipe_ofInput_none (sourceId : NodeId) :
    (ofInput (sourceId, none)).FeedsPipe := nofun

theorem pipeFrom_none (avoids : AvoidTags (namesInParameters parameters)) :
    PipeFrom below none ((parameterRoots number parameters).map ofInput) := by
  have named : ∀ edge ∈ (parameterRoots number parameters).map ofInput,
      ¬ edge.FeedsPipe :=
    fun _ => not_feedsPipe_of_mem_parameterRoots avoids
  generalize (parameterRoots number parameters).map ofInput = edges at named
  induction edges with
  | nil => exact .absent
  | cons edge edges ih =>
      simp only [List.forall_mem_cons] at named
      exact .later named.1 (ih named.2)

end Incoming

namespace Model

variable {policy : PipePolicy} {model : Model}

mutual

/-- Where a model shows the layout of a tree, the tree unfolds its root. -/
theorem unfolds_layout (number : Nat) (tree : InputTree)
    (avoids : AvoidTags tree.parameterNames)
    (shown : ∀ placed ∈ tree.layout number, model.Shows placed) :
    Unfolds policy model tree (strokes number) := by
  match tree with
  | .data text literalType =>
      simp only [layout, List.forall_mem_singleton] at shown
      exact .layer (.data shown.role)
  | .operation operator left right =>
      simp only [parameterNames, avoidTags_append] at avoids
      simp only [layout, List.forall_mem_cons, List.forall_mem_append] at shown
      obtain ⟨root, leftShown, rightShown⟩ := shown
      exact .layer (.operation root.role (.inl root.incoming)
        (unfolds_layout _ left avoids.1 leftShown)
        (unfolds_layout _ right avoids.2 rightShown))
  | .command name input parameters switches =>
      simp only [parameterNames, avoidTags_append] at avoids
      simp only [layout, List.forall_mem_cons, List.forall_mem_append] at shown
      obtain ⟨root, inputShown, parametersShown⟩ := shown
      have collected := parametersFrom_layoutParameters _ parameters avoids.2
        parametersShown
      refine .layer (.command root.role ?_ ?_ ?_)
      -- the edge for the pipe, if any, was drawn before those with a name
      · intro _
        rw [root.incoming]
        exact Incoming.countP_feedsPipe_le_one avoids.2 _ _
      · rw [root.incoming, List.map_append]
        match input with
        | none => exact Incoming.pipeFrom_none avoids.2
        | some input =>
            exact .first (Incoming.feedsPipe_ofInput_none _)
              (unfolds_layout _ input avoids.1 inputShown)
      · rw [root.incoming, List.map_append]
        match input with
        | none => exact collected
        | some input =>
            exact .unnamed (Incoming.feedsPipe_ofInput_none _) collected

theorem parametersFrom_layoutParameters (number : Nat)
    (parameters : List (String × InputTree))
    (avoids : AvoidTags (namesInParameters parameters))
    (shown : ∀ placed ∈ layoutParameters number parameters,
      model.Shows placed) :
    Incoming.ParametersFrom (Unfolds policy model) parameters
      ((parameterRoots number parameters).map Incoming.ofInput) := by
  match parameters with
  | [] => exact .absent
  | (name, value) :: others =>
      simp only [namesInParameters, avoidTags_cons, avoidTags_append] at avoids
      simp only [layoutParameters, List.forall_mem_append] at shown
      exact .named (Incoming.ofInput_named avoids.1)
        (unfolds_layout number value avoids.2.1 shown.1)
        (parametersFrom_layoutParameters _ others avoids.2.2 shown.2)

end

end Model

end Drawn

namespace Compiler

/-- The drawing of a tree compiles to the tree. -/
theorem artifacts_drawing {tree : InputTree}
    (avoids : AvoidTags tree.parameterNames) (policy : PipePolicy) :
    (artifacts { standard with pipePolicy := policy }
      (Placed.graph tree.drawing)).outcome = .ok tree.artifacts := by
  obtain ⟨model, built, resultEq, shown⟩ := tree.complete_drawing.exists_model
  obtain ⟨resultShown, treeShown⟩ := List.forall_mem_cons.mp shown
  refine artifacts_eq_ok_iff.mpr ⟨model, built, tree, ?_, rfl⟩
  refine Model.extract_eq_ok_iff.mpr
    ⟨Incoming.ofInput (strokes 0, none), ?_, ?_⟩
  · rw [resultEq]
    exact resultShown.incoming
  · rw [Model.resolve_nodeCount_eq_ok_iff]
    exact Model.unfolds_layout 0 tree avoids treeShown

theorem avoidTags_of_artifacts_eq_ok {compiler : Compiler}
    {graph : Editor.Graph} {result : Artifacts}
    (compiled : (compiler.artifacts graph).outcome = .ok result) :
    AvoidTags result.inputTree.parameterNames := by
  obtain ⟨model, built, tree, extracted, rfl⟩ :=
    artifacts_eq_ok_iff.mp compiled
  obtain ⟨producer, _, returned⟩ := Model.extract_eq_ok_iff.mp extracted
  exact (Model.unfolds_of_resolve_eq_ok returned).avoidTags
    (Model.build_eq_ok_iff.mp built).handlesAvoidTags

/-- The graphs express exactly the trees in which no command has a parameter
named like an operand: under either policy one graph compiles to such a tree,
and no graph compiles to any other tree. -/
theorem artifacts_express_exactly :
    (∀ tree : InputTree, AvoidTags tree.parameterNames →
      ∃ graph, ∀ policy, ∃ result,
        (artifacts { standard with pipePolicy := policy } graph).outcome =
          .ok result ∧ result.inputTree = tree) ∧
      ∀ compiler graph result,
        (artifacts compiler graph).outcome = .ok result →
          AvoidTags result.inputTree.parameterNames := by
  refine ⟨?_, fun _ _ _ => avoidTags_of_artifacts_eq_ok⟩
  intro tree avoids
  exact ⟨Placed.graph tree.drawing, fun policy =>
    ⟨tree.artifacts, artifacts_drawing avoids policy, rfl⟩⟩

end Compiler

/-- A tree with commands in the pipe and in the parameters of a command, a
parameter that is given twice, and the reserved id as a name. -/
def nestedInput : InputTree :=
  .command "each"
    (some (.operation .add (.command "get" none [("a", .data "" .string)] [])
      (.data "1" .int)))
    [("result", .data "A" .string), ("result", sampleInput)] ["B"]

theorem nestedInput_express_exactly :
    AvoidTags nestedInput.parameterNames ∧
      (∃ graph, ∀ policy, ∃ result,
        (Compiler.artifacts { Compiler.standard with pipePolicy := policy }
          graph).outcome = .ok result ∧ result.inputTree = nestedInput) ∧
      AvoidTags sampleInput.parameterNames := by
  have avoids : AvoidTags nestedInput.parameterNames := by decide
  exact ⟨avoids, Compiler.artifacts_express_exactly.1 nestedInput avoids,
    Compiler.artifacts_express_exactly.2 _ _ _ artifacts_sampleGraph⟩

end PipeGraph
