import PipeGraph.Proofs.Artifacts
import PipeGraph.Proofs.Defects
import PipeGraph.Proofs.Violations

/-!
# What a validator changes

A validator is asked about every literal, whether or not the result depends on
it, and it is asked while the nodes are declared, before anything is known about
the result or the edges.  It can only make compiling fail: with an error about
a literal that it refuses, which may come instead of an artifact and instead of
any other error.  Where it refuses nothing, it might as well not be there.
-/

namespace PipeGraph

namespace Rules

/-- The same type mappings with a given validator, or without one. -/
def validating (rules : Rules) (validator : Option LiteralValidator) : Rules :=
  { rules with validator := validator }

/-- A node holds a literal that a validator refuses. -/
structure HoldsInvalid (rules : Rules) (isValid : LiteralValidator)
    (node : Editor.Node) (text : String) (literalType : LiteralType) :
    Prop where
  isData : rules.classify node = .ok (.data text literalType)
  invalid : isValid text literalType = false

/-- The error that a validator gives rise to at a node of a list. -/
def RejectedAmong (rules : Rules) (isValid : LiteralValidator)
    (nodes : List Editor.Node) (error : CompileError) : Prop :=
  ∃ node ∈ nodes, ∃ text literalType,
    rules.HoldsInvalid isValid node text literalType ∧
      error = .invalidLiteral node.id text literalType

variable {rules : Rules} {isValid : LiteralValidator}

theorem checkLiteral_validating_none (nodeId : NodeId) (role : Role) :
    (rules.validating none).checkLiteral nodeId role = .ok () := by
  rw [checkLiteral_eq_ok_iff]
  rintro text literalType isValid _ installed
  cases installed

/-- A validator refuses a node or declares it as without the validator. -/
theorem stricter_declare {nodes : List Editor.Node} {node : Editor.Node}
    (member : node ∈ nodes) (declared : Declared) :
    Stricter (rules.RejectedAmong isValid nodes)
      ((rules.validating none).declare declared node)
      ((rules.validating (some isValid)).declare declared node) := by
  -- Roles and ids are looked at alike; the two differ in the literal only.
  refine Stricter.bind .same fun role named => ?_
  have classified : rules.classify node = .ok role :=
    mapError_eq_ok_iff.mp named
  refine Stricter.bind ?_ fun _ _ => .same
  rw [checkLiteral_validating_none]
  cases checked :
      (rules.validating (some isValid)).checkLiteral node.id role with
  | ok => exact .same
  | error error =>
      obtain ⟨text, literalType, rfl, ⟨_, installed, invalid⟩, rfl⟩ :=
        checkLiteral_eq_error_iff.mp checked
      cases installed
      exact .refused ⟨node, member, text, literalType, ⟨classified, invalid⟩,
        rfl⟩

/-- Nodes that can be declared without a validator can be declared with one
that refuses none of them. -/
theorem Sound.validating {nodes : List Editor.Node}
    (sound : (rules.validating none).Sound nodes)
    (noneInvalid : ∀ node ∈ nodes, ∀ text literalType,
      ¬ rules.HoldsInvalid isValid node text literalType) :
    (rules.validating (some isValid)).Sound nodes := by
  rintro before node after rfl (failed | ⟨isData, _, installed, invalid⟩ |
    isTaken)
  · exact sound before node after rfl (.unclassified failed)
  · cases installed
    exact noneInvalid node (by simp) _ _ ⟨isData, invalid⟩
  · exact sound before node after rfl (.repeated isTaken)

end Rules

namespace Model

variable {rules : Rules} {isValid : LiteralValidator} {graph : Editor.Graph}

theorem stricter_build :
    Stricter (rules.RejectedAmong isValid graph.nodes)
      (build (rules.validating none) graph)
      (build (rules.validating (some isValid)) graph) := by
  refine Stricter.bind ?_ fun _ _ => .same
  exact Stricter.foldlM (fun _ member => Rules.stricter_declare member) .nothing

/-- Of the nodes that hold a refused literal the first one is reported,
provided that there is nothing else wrong with the nodes. -/
theorem build_validating_eq_error {before after : List Editor.Node}
    {node : Editor.Node} {text : String} {literalType : LiteralType}
    (sound : (rules.validating none).Sound graph.nodes)
    (split : graph.nodes = before ++ node :: after)
    (noneEarlier : ∀ earlier ∈ before, ∀ text literalType,
      ¬ rules.HoldsInvalid isValid earlier text literalType)
    (invalid : rules.HoldsInvalid isValid node text literalType) :
    build (rules.validating (some isValid)) graph =
      .error (.invalidLiteral node.id text literalType) := by
  rw [split] at sound
  have soundBefore := sound.of_append.validating noneEarlier
  exact build_eq_error_iff.mpr (.node split soundBefore
    (.refused invalid.isData ⟨isValid, rfl, invalid.invalid⟩))

end Model

namespace Compiler

/-- How compiling ends with a given validator, or without one. -/
def outcomeUnder (compiler : Compiler) (validator : Option LiteralValidator)
    (graph : Editor.Graph) : Except CompileError Artifacts :=
  (artifacts { compiler with rules := compiler.rules.validating validator }
    graph).outcome

variable (compiler : Compiler) (isValid : LiteralValidator)
  (graph : Editor.Graph)

theorem stricter_outcomeUnder :
    Stricter (compiler.rules.RejectedAmong isValid graph.nodes)
      (compiler.outcomeUnder none graph)
      (compiler.outcomeUnder (some isValid) graph) := by
  rw [outcomeUnder, outcomeUnder, outcome_artifacts, outcome_artifacts]
  exact Model.stricter_build.bind fun _ _ => .same

/-- A validator changes the outcome only where it refuses a literal. -/
theorem outcomeUnder_eq_or_rejected :
    compiler.outcomeUnder (some isValid) graph =
        compiler.outcomeUnder none graph ∨
      ∃ node ∈ graph.nodes, ∃ text literalType,
        compiler.rules.HoldsInvalid isValid node text literalType ∧
        compiler.outcomeUnder (some isValid) graph =
          .error (.invalidLiteral node.id text literalType) := by
  rcases (compiler.stricter_outcomeUnder isValid graph).eq_or_exists with
    same | ⟨_, ⟨node, member, text, literalType, holds, rfl⟩, rejected⟩
  · exact .inl same
  · exact .inr ⟨node, member, text, literalType, holds, rejected⟩

/-- What compiles with a validator holds no literal that it refuses. -/
theorem valid_of_outcomeUnder_eq_ok {artifacts : Artifacts}
    (compiled : compiler.outcomeUnder (some isValid) graph = .ok artifacts)
    {node : Editor.Node} (member : node ∈ graph.nodes) {text : String}
    {literalType : LiteralType}
    (isData : compiler.rules.classify node = .ok (.data text literalType)) :
    isValid text literalType = true := by
  obtain ⟨model, built, _⟩ := artifacts_eq_ok_iff.mp compiled
  have wellFormed := (Model.build_eq_ok_iff.mp built).wellFormed
  exact wellFormed.literalsValid node member text literalType isValid isData rfl

theorem outcomeUnder_isOk_iff :
    (∃ artifacts,
        compiler.outcomeUnder (some isValid) graph = .ok artifacts) ↔
      (∃ artifacts, compiler.outcomeUnder none graph = .ok artifacts) ∧
        ∀ node ∈ graph.nodes, ∀ text literalType,
          compiler.rules.classify node = .ok (.data text literalType) →
            isValid text literalType = true := by
  rcases compiler.outcomeUnder_eq_or_rejected isValid graph with
    same | ⟨node, member, text, literalType, holds, rejected⟩
  · constructor
    · rintro ⟨artifacts, compiled⟩
      refine ⟨⟨artifacts, same ▸ compiled⟩, ?_⟩
      intro node member text literalType
      exact compiler.valid_of_outcomeUnder_eq_ok isValid graph compiled member
    · rintro ⟨compiled, _⟩
      rw [same]
      exact compiled
  · constructor
    · rintro ⟨artifacts, compiled⟩
      rw [rejected] at compiled
      cases compiled
    · rintro ⟨_, allValid⟩
      have valid := allValid node member text literalType holds.isData
      rw [holds.invalid] at valid
      cases valid

/-- Where the nodes, the result and the edges are as they should be, the first
literal that is refused decides, whatever extraction would have said. -/
theorem exists_first_rejected {model : Model}
    (built : Model.build (compiler.rules.validating none) graph = .ok model)
    (someInvalid : ∃ node ∈ graph.nodes, ∃ text literalType,
      compiler.rules.HoldsInvalid isValid node text literalType) :
    ∃ before node after text literalType,
      graph.nodes = before ++ node :: after ∧
      (∀ earlier ∈ before, ∀ text literalType,
        ¬ compiler.rules.HoldsInvalid isValid earlier text literalType) ∧
      compiler.rules.HoldsInvalid isValid node text literalType ∧
      compiler.outcomeUnder (some isValid) graph =
        .error (.invalidLiteral node.id text literalType) := by
  classical
  have found : (graph.nodes.find? fun node => ∃ text literalType,
      compiler.rules.HoldsInvalid isValid node text literalType).isSome := by
    simpa [List.find?_isSome] using someInvalid
  obtain ⟨node, first⟩ := Option.isSome_iff_exists.mp found
  rw [List.find?_eq_some_iff_append] at first
  simp only [decide_eq_true_eq, Bool.not_eq_true', decide_eq_false_iff_not,
    not_exists] at first
  obtain ⟨⟨text, literalType, holds⟩, before, after, split, noneEarlier⟩ :=
    first
  refine ⟨before, node, after, text, literalType, split, noneEarlier, holds, ?_⟩
  have rejected := Model.build_validating_eq_error
    (Model.sound_of_build built) split noneEarlier holds
  rw [outcomeUnder, outcome_artifacts, rejected]
  rfl

/-- A validator only rejects.  With it, compiling ends as without it or with an
error about a literal that it refuses; it ends well exactly where it does so
without the validator and no literal of the graph is refused; and if a model
can be built without the validator, the first refused literal is reported. -/
theorem artifacts_validator_only_rejects :
    (compiler.outcomeUnder (some isValid) graph =
        compiler.outcomeUnder none graph ∨
      ∃ node ∈ graph.nodes, ∃ text literalType,
        compiler.rules.HoldsInvalid isValid node text literalType ∧
        compiler.outcomeUnder (some isValid) graph =
          .error (.invalidLiteral node.id text literalType)) ∧
    ((∃ artifacts,
        compiler.outcomeUnder (some isValid) graph = .ok artifacts) ↔
      (∃ artifacts, compiler.outcomeUnder none graph = .ok artifacts) ∧
        ∀ node ∈ graph.nodes, ∀ text literalType,
          compiler.rules.classify node = .ok (.data text literalType) →
            isValid text literalType = true) ∧
    ∀ model,
      Model.build (compiler.rules.validating none) graph = .ok model →
      (∃ node ∈ graph.nodes, ∃ text literalType,
        compiler.rules.HoldsInvalid isValid node text literalType) →
      ∃ before node after text literalType,
        graph.nodes = before ++ node :: after ∧
        (∀ earlier ∈ before, ∀ text literalType,
          ¬ compiler.rules.HoldsInvalid isValid earlier text literalType) ∧
        compiler.rules.HoldsInvalid isValid node text literalType ∧
        compiler.outcomeUnder (some isValid) graph =
          .error (.invalidLiteral node.id text literalType) :=
  ⟨compiler.outcomeUnder_eq_or_rejected isValid graph,
    compiler.outcomeUnder_isOk_iff isValid graph,
    fun _ => compiler.exists_first_rejected isValid graph⟩

/-- The only literal of the rival graph is refused before its operators are
looked at. -/
theorem rivalGraph_validator_only_rejects :
    (Model.build Rules.plain Model.rivalGraph = .ok Model.rivalModel ∧
      standard.outcomeUnder none Model.rivalGraph =
        .error (.operatorHandles "pair" (.repeated .left))) ∧
    standard.outcomeUnder (some fun _ _ => false) Model.rivalGraph =
      .error (.invalidLiteral "one" "1" .int) := by
  refine ⟨⟨Model.build_rivalGraph, rfl⟩, ?_⟩
  have someInvalid : ∃ node ∈ Model.rivalGraph.nodes, ∃ text literalType,
      standard.rules.HoldsInvalid (fun _ _ => false) node text literalType :=
    ⟨_, .head _, "1", .int, rfl, rfl⟩
  obtain ⟨before, node, after, text, literalType, split, _, holds, rejected⟩ :=
    (artifacts_validator_only_rejects standard (fun _ _ => false)
      Model.rivalGraph).2.2 _ Model.build_rivalGraph someInvalid
  have member : node ∈ Model.rivalGraph.nodes := by simp [split]
  have isData := holds.isData
  simp only [Model.rivalGraph, List.mem_cons, List.not_mem_nil,
    or_false] at member
  rcases member with rfl | rfl | rfl | rfl | rfl
  · cases isData
    exact rejected
  · cases isData
  · cases isData
  · cases isData
  · cases isData

end Compiler

end PipeGraph
