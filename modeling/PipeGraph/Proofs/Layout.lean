import PipeGraph.Proofs.WellFormed
import PipeGraph.Tree.Input

/-!
# Laying out a tree as a graph

Every input tree can be drawn as a graph with one node for each of its own
nodes.  The nodes are numbered from the root down, so that the subtrees of a
node take up consecutive ranges of numbers, and their ids are rows of strokes,
which never spell the reserved id of the result.  The drawing keeps every node
together with the edges into it; as no id is used twice, the edges into a node
of the drawn graph are the ones that were kept with it.
-/

namespace PipeGraph

/-- The id of the node with a given number. -/
def strokes (number : Nat) : NodeId :=
  String.ofList (List.replicate (number + 1) '|')

theorem strokes_injective : Function.Injective strokes := by
  intro number other same
  have lengths := congrArg String.length same
  simpa [strokes] using lengths

theorem strokes_ne_resultType (number : Nat) : strokes number ≠ resultType := by
  intro same
  have member : 'r' ∈ (strokes number).toList := by
    rw [same]
    decide
  simp [strokes] at member

/-- The editor node that declares a role. -/
def Role.node (nodeId : NodeId) : Role → Editor.Node
  | .command name switches =>
      ⟨nodeId, some commandType, ⟨some name, none, none, none, some switches⟩⟩
  | .data text literalType =>
      ⟨nodeId, some dataType,
        ⟨none, some text, some literalType.name, none, none⟩⟩
  | .operation operator =>
      ⟨nodeId, some operatorType,
        ⟨none, none, none, some operator.token, none⟩⟩
  | .result => ⟨nodeId, some resultType, Editor.Payload.empty⟩

@[simp]
theorem Role.id_node (nodeId : NodeId) (role : Role) :
    (role.node nodeId).id = nodeId := by
  cases role <;> rfl

theorem Rules.nodeType_plain (node : Editor.Node) :
    plain.nodeType node = node.declaredType.getD "" := rfl

/-- A declared role is read back, unless the id is reserved for the result. -/
theorem Rules.classify_node {nodeId : NodeId} {role : Role}
    (free : nodeId = resultType → role = .result) :
    plain.classify (role.node nodeId) = .ok role := by
  by_cases isResult : role = .result
  · subst isResult
    simp [classify, nodeType_plain, Role.node]
  · have notReserved : nodeId ≠ "result" := fun same => isResult (free same)
    cases role with
    | result => exact (isResult rfl).elim
    | command name switches =>
        simp [classify, nodeType_plain, Role.node, notReserved, commandType,
          resultType, Editor.Payload.commandRole]
    | data text literalType =>
        simp [classify, nodeType_plain, Role.node, notReserved, commandType,
          dataType, resultType, Editor.Payload.dataRole]
    | operation operator =>
        simp [classify, nodeType_plain, Role.node, notReserved, commandType,
          dataType, operatorType, resultType, Editor.Payload.operatorRole]

/-- A node of a drawing with the sources and tags of the edges into it. -/
structure Placed where
  nodeId : NodeId
  role : Role
  inputs : List (NodeId × Option String)

namespace Placed

/-- The edges into a placed node. -/
def edges (placed : Placed) : List Editor.Edge :=
  placed.inputs.map fun input => ⟨input.1, placed.nodeId, input.2⟩

/-- The graph of all placed nodes. -/
def graph (drawing : List Placed) : Editor.Graph where
  nodes := drawing.map fun placed => placed.role.node placed.nodeId
  edges := drawing.flatMap edges

@[simp]
theorem ids_graph (drawing : List Placed) :
    (graph drawing).ids = drawing.map nodeId := by
  simp [graph, Editor.Graph.ids]

theorem target_of_mem_edges {placed : Placed} {edge : Editor.Edge}
    (member : edge ∈ placed.edges) : edge.target = placed.nodeId := by
  obtain ⟨input, _, rfl⟩ := List.mem_map.mp member
  rfl

/-- The edges into a node are those that were kept with it. -/
theorem filter_edges_graph {drawing : List Placed}
    (distinct : (drawing.map nodeId).Nodup) {placed : Placed}
    (member : placed ∈ drawing) :
    ((graph drawing).edges.filter fun edge =>
      edge.target = placed.nodeId) = placed.edges := by
  obtain ⟨before, after, rfl⟩ := List.append_of_mem member
  have elsewhere : ∀ other ∈ before ++ after, other.nodeId ≠ placed.nodeId := by
    intro other otherMember same
    rw [List.map_append, List.map_cons, List.nodup_middle,
      ← List.map_append, List.nodup_cons] at distinct
    exact distinct.1 (same ▸ List.mem_map_of_mem otherMember)
  have noneFrom {others : List Placed} (part : others ⊆ before ++ after) :
      ((others.flatMap edges).filter fun edge =>
        edge.target = placed.nodeId) = [] := by
    simp only [List.filter_eq_nil_iff, decide_eq_true_eq, List.mem_flatMap]
    rintro edge ⟨other, otherMember, edgeMember⟩
    rw [target_of_mem_edges edgeMember]
    exact elsewhere other (part otherMember)
  have allHere : (placed.edges.filter fun edge =>
      edge.target = placed.nodeId) = placed.edges := by
    simp only [List.filter_eq_self, decide_eq_true_eq]
    exact fun edge => target_of_mem_edges
  simp only [graph, List.flatMap_append, List.flatMap_cons,
    List.filter_append, allHere, noneFrom (List.subset_append_left _ _),
    noneFrom (List.subset_append_right _ _), List.nil_append, List.append_nil]

end Placed

/-- The edge from a source with a tag, as its target sees it. -/
def Incoming.ofInput (input : NodeId × Option String) : Incoming :=
  ⟨input.1, input.2.map Handle.ofTag⟩

/-- A model shows a placed node with its role and the edges into it. -/
structure Model.Shows (model : Model) (placed : Placed) : Prop where
  role : model.role? placed.nodeId = some placed.role
  incoming : model.incoming placed.nodeId =
    placed.inputs.map Incoming.ofInput

namespace Placed

/-- A drawing of nodes with distinct ids, one of them the result, in which
every edge starts at a node. -/
structure Complete (drawing : List Placed) (result : Placed) : Prop where
  distinct : (drawing.map nodeId).Nodup
  result_mem : result ∈ drawing
  result_role : result.role = .result
  result_unique : ∀ placed ∈ drawing, placed.role = .result → placed = result
  free : ∀ placed ∈ drawing, placed.nodeId = resultType → placed.role = .result
  joined : ∀ placed ∈ drawing, ∀ input ∈ placed.inputs,
    input.1 ∈ drawing.map nodeId

namespace Complete

variable {drawing : List Placed} {result placed : Placed}

theorem classify_eq (complete : Complete drawing result)
    (member : placed ∈ drawing) :
    Rules.plain.classify (placed.role.node placed.nodeId) = .ok placed.role :=
  Rules.classify_node (complete.free placed member)

theorem wellFormed (complete : Complete drawing result) :
    Model.WellFormed Rules.plain (graph drawing) where
  classified := by
    simp only [graph, List.forall_mem_map]
    exact fun placed member => ⟨placed.role, complete.classify_eq member⟩
  literalsValid _ _ _ _ _ _ installed := nomatch installed
  distinct := by
    rw [ids_graph]
    exact complete.distinct
  oneResult := by
    refine ⟨result.role.node result.nodeId,
      ⟨List.mem_map_of_mem complete.result_mem, ?_⟩, ?_⟩
    · rw [complete.classify_eq complete.result_mem, complete.result_role]
    · rintro node ⟨member, classified⟩
      obtain ⟨placed, placedMember, rfl⟩ := List.mem_map.mp member
      rw [complete.classify_eq placedMember] at classified
      rw [complete.result_unique placed placedMember (Except.ok.inj classified)]
  joined := by
    intro edge member
    obtain ⟨placed, placedMember, edgeMember⟩ := List.mem_flatMap.mp member
    rw [ids_graph, target_of_mem_edges edgeMember]
    obtain ⟨input, inputMember, rfl⟩ := List.mem_map.mp edgeMember
    exact ⟨complete.joined placed placedMember input inputMember,
      List.mem_map_of_mem placedMember⟩

/-- A complete drawing has a model, which shows all of it. -/
theorem exists_model (complete : Complete drawing result) :
    ∃ model, Model.build Rules.plain (graph drawing) = .ok model ∧
      model.resultId = result.nodeId ∧
      ∀ placed ∈ drawing, model.Shows placed := by
  obtain ⟨model, isModel⟩ := complete.wellFormed.exists_model
  refine ⟨model, Model.build_eq_ok_iff.mpr isModel, ?_, ?_⟩
  · obtain ⟨node, member, classified, resultEq⟩ := isModel.represents.result
    obtain ⟨placed, placedMember, rfl⟩ := List.mem_map.mp member
    rw [complete.classify_eq placedMember] at classified
    rw [resultEq, Role.id_node,
      complete.result_unique placed placedMember (Except.ok.inj classified)]
  · intro placed member
    constructor
    · obtain ⟨role, classified, found⟩ :=
        isModel.represents.role_node _ (List.mem_map_of_mem member)
      rw [complete.classify_eq member] at classified
      rw [← Role.id_node placed.nodeId placed.role, found,
        Except.ok.inj classified]
    · rw [isModel.incoming_eq, filter_edges_graph complete.distinct member,
        edges, List.map_map]
      rfl

end Complete

/-- A node of a layout is not the result, and all its edges start at nodes
with the given ids. -/
structure Inner (placed : Placed) (ids : List NodeId) : Prop where
  role_ne : placed.role ≠ .result
  source_mem : ∀ input ∈ placed.inputs, input.1 ∈ ids

end Placed

namespace InputTree

/-- The edge that feeds the pipe of a command, if it has an input. -/
def inputRoot (number : Nat) : Option InputTree → List (NodeId × Option String)
  | none => []
  | some _ => [(strokes number, none)]

/-- The edges for the parameters of a command, tagged with their names. -/
def parameterRoots (number : Nat) :
    List (String × InputTree) → List (NodeId × Option String)
  | [] => []
  | (name, value) :: others =>
      (strokes number, some name) :: parameterRoots (number + value.size) others

mutual

/-- The nodes of a tree, numbered from a given number on. -/
def layout (number : Nat) : InputTree → List Placed
  | command name input parameters switches =>
      ⟨strokes number, .command name switches,
          inputRoot (number + 1) input ++
            parameterRoots (number + 1 + inputSize input) parameters⟩ ::
        (layoutInput (number + 1) input ++
          layoutParameters (number + 1 + inputSize input) parameters)
  | data text literalType => [⟨strokes number, .data text literalType, []⟩]
  | operation operator left right =>
      ⟨strokes number, .operation operator,
          [(strokes (number + 1), some Operand.left.tag),
            (strokes (number + 1 + left.size), some Operand.right.tag)]⟩ ::
        (left.layout (number + 1) ++ right.layout (number + 1 + left.size))

/-- The nodes of an optional pipe input. -/
def layoutInput (number : Nat) : Option InputTree → List Placed
  | none => []
  | some input => input.layout number

/-- The nodes of all parameter values, one value after the other. -/
def layoutParameters (number : Nat) : List (String × InputTree) → List Placed
  | [] => []
  | (_, value) :: others =>
      value.layout number ++ layoutParameters (number + value.size) others

end

mutual

theorem ids_layout (number : Nat) (tree : InputTree) :
    (tree.layout number).map Placed.nodeId =
      (List.range' number tree.size).map strokes := by
  match tree with
  | command name input parameters switches =>
      simp only [layout, List.map_cons, List.map_append, ids_layoutInput,
        ids_layoutParameters, size, ← List.range'_append_1, List.range'_one]
      simp [Nat.add_assoc]
  | data text literalType => simp [layout, size]
  | operation operator left right =>
      simp only [layout, List.map_cons, List.map_append,
        ids_layout (number + 1) left, ids_layout (number + 1 + left.size) right,
        size, ← List.range'_append_1, List.range'_one]
      simp [Nat.add_assoc]

theorem ids_layoutInput (number : Nat) (input : Option InputTree) :
    (layoutInput number input).map Placed.nodeId =
      (List.range' number (inputSize input)).map strokes := by
  match input with
  | none => rfl
  | some input => exact ids_layout number input

theorem ids_layoutParameters (number : Nat)
    (parameters : List (String × InputTree)) :
    (layoutParameters number parameters).map Placed.nodeId =
      (List.range' number (parametersSize parameters)).map strokes := by
  match parameters with
  | [] => rfl
  | (name, value) :: others =>
      simp only [layoutParameters, List.map_append, ids_layout number value,
        ids_layoutParameters (number + value.size) others, parametersSize,
        ← List.range'_append_1]

end

theorem strokes_mem_ids_layout (number : Nat) (tree : InputTree) :
    strokes number ∈ (tree.layout number).map Placed.nodeId := by
  cases tree <;> simp [layout]

theorem source_mem_of_mem_inputRoot {number : Nat} {input : Option InputTree}
    {edge : NodeId × Option String} (member : edge ∈ inputRoot number input) :
    edge.1 ∈ (layoutInput number input).map Placed.nodeId := by
  cases input with
  | none => simp [inputRoot] at member
  | some input =>
      rw [List.mem_singleton.mp member]
      exact strokes_mem_ids_layout number input

theorem source_mem_of_mem_parameterRoots {number : Nat}
    {parameters : List (String × InputTree)} {edge : NodeId × Option String}
    (member : edge ∈ parameterRoots number parameters) :
    edge.1 ∈ (layoutParameters number parameters).map Placed.nodeId := by
  induction parameters generalizing number with
  | nil => simp [parameterRoots] at member
  | cons parameter others ih =>
      obtain ⟨name, value⟩ := parameter
      rw [layoutParameters, List.map_append, List.mem_append]
      rcases List.mem_cons.mp member with rfl | later
      · exact .inl (strokes_mem_ids_layout number value)
      · exact .inr (ih later)

mutual

theorem inner_layout {ids : List NodeId} (number : Nat) (tree : InputTree)
    (part : (tree.layout number).map Placed.nodeId ⊆ ids) :
    ∀ placed ∈ tree.layout number, placed.Inner ids := by
  match tree with
  | command name input parameters switches =>
      simp only [layout, List.map_cons, List.map_append, List.cons_subset,
        List.append_subset] at part
      obtain ⟨_, inputPart, parametersPart⟩ := part
      simp only [layout, List.forall_mem_cons, List.forall_mem_append]
      refine ⟨⟨nofun, ?_⟩, inner_layoutInput _ input inputPart,
        inner_layoutParameters _ parameters parametersPart⟩
      intro edge member
      rcases List.mem_append.mp member with fromInput | fromParameters
      · exact inputPart (source_mem_of_mem_inputRoot fromInput)
      · exact parametersPart (source_mem_of_mem_parameterRoots fromParameters)
  | data text literalType =>
      simp only [layout, List.forall_mem_singleton]
      exact ⟨nofun, nofun⟩
  | operation operator left right =>
      simp only [layout, List.map_cons, List.map_append, List.cons_subset,
        List.append_subset] at part
      obtain ⟨_, leftPart, rightPart⟩ := part
      simp only [layout, List.forall_mem_cons, List.forall_mem_append]
      refine ⟨⟨nofun, ?_⟩, inner_layout _ left leftPart,
        inner_layout _ right rightPart⟩
      simp only [List.forall_mem_cons]
      exact ⟨leftPart (strokes_mem_ids_layout _ left),
        rightPart (strokes_mem_ids_layout _ right), nofun⟩

theorem inner_layoutInput {ids : List NodeId} (number : Nat)
    (input : Option InputTree)
    (part : (layoutInput number input).map Placed.nodeId ⊆ ids) :
    ∀ placed ∈ layoutInput number input, placed.Inner ids := by
  match input with
  | none => nofun
  | some input => exact inner_layout number input part

theorem inner_layoutParameters {ids : List NodeId} (number : Nat)
    (parameters : List (String × InputTree))
    (part : (layoutParameters number parameters).map Placed.nodeId ⊆ ids) :
    ∀ placed ∈ layoutParameters number parameters, placed.Inner ids := by
  match parameters with
  | [] => nofun
  | (name, value) :: others =>
      simp only [layoutParameters, List.map_append,
        List.append_subset] at part
      simp only [layoutParameters, List.forall_mem_append]
      exact ⟨inner_layout number value part.1,
        inner_layoutParameters _ others part.2⟩

end

/-- The result node of a drawing, fed by the root of the tree. -/
def resultPlaced : Placed := ⟨resultType, .result, [(strokes 0, none)]⟩

/-- A tree and the result that it feeds. -/
def drawing (tree : InputTree) : List Placed := resultPlaced :: tree.layout 0

theorem complete_drawing (tree : InputTree) :
    Placed.Complete tree.drawing resultPlaced := by
  have inner := inner_layout 0 tree
    (List.subset_cons_self resultPlaced.nodeId _)
  have numbered : ∀ placed ∈ tree.layout 0, placed.nodeId ≠ resultType := by
    intro placed member same
    have idMember := List.mem_map_of_mem (f := Placed.nodeId) member
    rw [ids_layout, same] at idMember
    obtain ⟨number, _, spelled⟩ := List.mem_map.mp idMember
    exact strokes_ne_resultType number spelled
  refine ⟨?_, List.mem_cons_self, rfl, ?_, ?_, ?_⟩
  · rw [drawing, List.map_cons, List.nodup_cons]
    refine ⟨?_, ?_⟩
    · intro member
      obtain ⟨placed, placedMember, same⟩ := List.mem_map.mp member
      exact numbered placed placedMember same
    · rw [ids_layout]
      exact List.Nodup.map strokes_injective List.nodup_range'
  · refine List.forall_mem_cons.mpr ⟨fun _ => rfl, ?_⟩
    intro placed member isResult
    exact ((inner placed member).role_ne isResult).elim
  · refine List.forall_mem_cons.mpr ⟨fun _ => rfl, ?_⟩
    intro placed member same
    exact (numbered placed member same).elim
  · refine List.forall_mem_cons.mpr
      ⟨?_, fun placed member => (inner placed member).source_mem⟩
    refine List.forall_mem_singleton.mpr ?_
    exact List.mem_cons_of_mem _ (strokes_mem_ids_layout 0 tree)

end InputTree

end PipeGraph
