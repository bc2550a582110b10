import Mathlib.Algebra.BigOperators.Group.List.Basic
import Mathlib.Algebra.Ring.Nat
import PipeGraph.Proofs.Building

/-!
# Which graphs have a model

A well-formed graph is described without any order of checks, and so is a model
that represents it.  Building succeeds on exactly the well-formed graphs, and
what it returns represents them: no edge is lost, doubled or moved, and no node
takes the place of another.
-/

namespace PipeGraph

namespace Model

/-- A list of entries with distinct ids, one of which is for the only result
node, has that node's id as its only result id. -/
theorem resultIds_eq_singleton {rules : Rules} {nodes : List Editor.Node}
    {entries : List (NodeId × Role)}
    (admitted : List.Forall₂ rules.Admits nodes entries)
    (distinct : (nodes.map Editor.Node.id).Nodup) {node : Editor.Node}
    (member : node ∈ nodes) (classified : rules.classify node = .ok .result)
    (unique : ∀ other ∈ nodes, rules.classify other = .ok .result →
      other = node) :
    Declared.resultIdsOf entries = [node.id] := by
  rw [← List.perm_singleton]
  have keysDistinct : (Declared.resultIdsOf entries).Nodup :=
    (Rules.keys_nodup_of_admitted admitted distinct).sublist
      (List.filter_sublist.map Prod.fst)
  refine (List.perm_ext_iff_of_nodup keysDistinct (by simp)).mpr ?_
  intro nodeId
  rw [Declared.mem_resultIdsOf_iff, List.mem_singleton]
  constructor
  · intro declared
    obtain ⟨other, otherMember, otherAdmitted⟩ :=
      Rules.exists_node_of_admitted admitted declared
    rw [← unique other otherMember otherAdmitted.classified]
    exact otherAdmitted.id_eq
  · rintro rfl
    obtain ⟨⟨entryId, role⟩, entryMember, entryAdmitted⟩ :=
      Rules.exists_entry_of_admitted admitted member
    have same := entryAdmitted.classified
    rw [classified] at same
    cases same
    rw [← entryAdmitted.id_eq]
    exact entryMember

private theorem sum_indicator (ids : List NodeId) (target : NodeId) :
    (ids.map fun nodeId => if target = nodeId then 1 else 0).sum =
      ids.count target := by
  induction ids with
  | nil => rfl
  | cons nodeId ids ih =>
      rw [List.map_cons, List.sum_cons, ih, List.count_cons, add_comm]
      simp [eq_comm (a := nodeId)]

/-- Every edge goes into exactly one of the ids, if all targets are among
them and no id is listed twice. -/
theorem sum_incoming_length {edges : List Editor.Edge} {ids : List NodeId}
    (distinct : ids.Nodup) (joined : ∀ edge ∈ edges, edge.target ∈ ids) :
    (ids.map fun nodeId =>
      (edges.filter fun edge => edge.target = nodeId).length).sum =
        edges.length := by
  induction edges with
  | nil => simp
  | cons edge edges ih =>
      simp only [List.forall_mem_cons] at joined
      have oneTarget : ids.count edge.target = 1 :=
        List.count_eq_one_of_mem distinct joined.1
      have oneMore (nodeId : NodeId) :
          ((edge :: edges).filter fun edge => edge.target = nodeId).length =
            (if edge.target = nodeId then 1 else 0) +
              (edges.filter fun edge => edge.target = nodeId).length := by
        by_cases here : edge.target = nodeId <;> simp [here, add_comm]
      simp only [oneMore, List.sum_map_add, sum_indicator, oneTarget,
        ih joined.2, List.length_cons]
      omega

/-- A graph that can be compiled as far as its nodes and edges are concerned,
whatever the walk from its result may find. -/
structure WellFormed (rules : Rules) (graph : Editor.Graph) : Prop where
  classified : ∀ node ∈ graph.nodes, ∃ role, rules.classify node = .ok role
  literalsValid : ∀ node ∈ graph.nodes, ∀ text literalType isValid,
    rules.classify node = .ok (.data text literalType) →
      rules.validator = some isValid → isValid text literalType = true
  distinct : graph.ids.Nodup
  oneResult : ∃! node, node ∈ graph.nodes ∧ rules.classify node = .ok .result
  joined : ∀ edge ∈ graph.edges,
    edge.source ∈ graph.ids ∧ edge.target ∈ graph.ids

/-- A model that answers every question as the graph itself would. -/
structure Represents (rules : Rules) (graph : Editor.Graph)
    (model : Model) : Prop where
  role_node : ∀ node ∈ graph.nodes, ∃ role,
    rules.classify node = .ok role ∧ model.role? node.id = some role
  role_other : ∀ nodeId, nodeId ∉ graph.ids → model.role? nodeId = none
  incoming : ∀ nodeId, model.incoming nodeId =
    (graph.edges.filter fun edge => edge.target = nodeId).map
      Editor.Edge.incoming
  result : ∃ node ∈ graph.nodes,
    rules.classify node = .ok .result ∧ model.resultId = node.id
  nodeCount : model.nodeCount = graph.nodes.length
  edgeCount : model.edgeCount = graph.edges.length
  edgeCount_sum : model.edgeCount =
    (graph.ids.map fun nodeId => (model.incoming nodeId).length).sum

namespace IsModelOf

variable {rules : Rules} {graph : Editor.Graph} {model : Model}

theorem wellFormed (isModel : IsModelOf rules graph model) :
    WellFormed rules graph where
  classified node member := by
    obtain ⟨entry, _, admitted⟩ :=
      Rules.exists_entry_of_admitted isModel.admitted member
    exact ⟨entry.2, admitted.classified⟩
  literalsValid node member text literalType isValid classified installed := by
    obtain ⟨entry, _, admitted⟩ :=
      Rules.exists_entry_of_admitted isModel.admitted member
    have roleEq : entry.2 = .data text literalType := by
      have same := admitted.classified
      rw [classified] at same
      exact (Except.ok.inj same).symm
    exact admitted.accepted text literalType isValid roleEq installed
  distinct := isModel.distinct
  oneResult := isModel.result_unique
  joined := by
    rw [← isModel.keys_eq]
    exact isModel.joined

theorem represents (isModel : IsModelOf rules graph model) :
    Represents rules graph model where
  role_node node member := by
    obtain ⟨⟨entryId, role⟩, entryMember, admitted⟩ :=
      Rules.exists_entry_of_admitted isModel.admitted member
    refine ⟨role, admitted.classified, ?_⟩
    rw [← admitted.id_eq, isModel.role?_eq_some_iff]
    exact entryMember
  role_other _ := isModel.role?_eq_none_iff.mpr
  incoming := isModel.incoming_eq
  result := by
    obtain ⟨node, member, admitted⟩ :=
      Rules.exists_node_of_admitted isModel.admitted isModel.result_declared
    exact ⟨node, member, admitted.classified, admitted.id_eq⟩
  nodeCount := isModel.admitted.length_eq.symm
  edgeCount := isModel.edgeCount_eq
  edgeCount_sum := by
    have targets : ∀ edge ∈ graph.edges, edge.target ∈ graph.ids := by
      intro edge member
      rw [← isModel.keys_eq]
      exact (isModel.joined edge member).2
    have counted := sum_incoming_length isModel.distinct targets
    simp only [isModel.edgeCount_eq, isModel.incoming_eq, List.length_map,
      counted]

/-- A node has the role that it is classified with, and no other. -/
theorem role?_eq_some_iff_exists (isModel : IsModelOf rules graph model)
    {nodeId : NodeId} {role : Role} :
    model.role? nodeId = some role ↔
      ∃ node ∈ graph.nodes, node.id = nodeId ∧
        rules.classify node = .ok role := by
  constructor
  · exact isModel.exists_node_of_role?
  · rintro ⟨node, member, rfl, classified⟩
    obtain ⟨nodeRole, nodeClassified, hasRole⟩ :=
      isModel.represents.role_node node member
    rw [classified] at nodeClassified
    cases nodeClassified
    exact hasRole

end IsModelOf

theorem WellFormed.exists_admitted {rules : Rules} {graph : Editor.Graph}
    (wellFormed : WellFormed rules graph) :
    ∃ entries, List.Forall₂ rules.Admits graph.nodes entries := by
  have nodewise : ∀ node ∈ graph.nodes, ∃ entry, rules.Admits node entry := by
    intro node member
    obtain ⟨role, classified⟩ := wellFormed.classified node member
    refine ⟨(node.id, role), rfl, classified, ?_⟩
    rintro text literalType isValid rfl installed
    exact wellFormed.literalsValid node member text literalType isValid
      classified installed
  generalize graph.nodes = nodes at nodewise
  induction nodes with
  | nil => exact ⟨[], .nil⟩
  | cons node nodes ih =>
      simp only [List.forall_mem_cons] at nodewise
      obtain ⟨entry, admitted⟩ := nodewise.1
      obtain ⟨entries, admittedAll⟩ := ih nodewise.2
      exact ⟨entry :: entries, .cons admitted admittedAll⟩

theorem WellFormed.exists_model {rules : Rules} {graph : Editor.Graph}
    (wellFormed : WellFormed rules graph) :
    ∃ model, IsModelOf rules graph model := by
  obtain ⟨entries, admitted⟩ := wellFormed.exists_admitted
  obtain ⟨node, ⟨member, classified⟩, unique⟩ := wellFormed.oneResult
  refine ⟨⟨entries, .ofEdges (entries.map Prod.fst) graph.edges, node.id,
    graph.edges.length⟩, admitted, wellFormed.distinct, ?_, ?_, rfl, rfl⟩
  · exact resultIds_eq_singleton admitted wellFormed.distinct member classified
      fun other otherMember otherClassified =>
        unique other ⟨otherMember, otherClassified⟩
  · rw [Rules.keys_of_admitted admitted]
    exact wellFormed.joined

/-- Exactly the well-formed graphs have a model, and the model loses,
duplicates and reorders nothing. -/
theorem build_exact (rules : Rules) (graph : Editor.Graph) :
    ((∃ model, build rules graph = .ok model) ↔ WellFormed rules graph) ∧
      ∀ model, build rules graph = .ok model →
        Represents rules graph model := by
  simp only [build_eq_ok_iff]
  refine ⟨⟨?_, WellFormed.exists_model⟩, fun _ => IsModelOf.represents⟩
  rintro ⟨model, isModel⟩
  exact isModel.wellFormed

/-- Rules under which a host calls its literals by a name of its own and wants
none of them empty. -/
def sampleRules : Rules :=
  ⟨[("literal", "data")], some fun text _ => text ≠ ""⟩

/-- A graph with a shared literal, operands in reverse order, a second pipe
edge into a command, and cycles that only lead through edges which the walk
from the result never takes. -/
def sampleGraph : Editor.Graph where
  nodes :=
    [⟨"one", some "literal", ⟨none, some "1", some "int", none, none⟩⟩,
      ⟨"sum", some "operator", ⟨some "+", none, none, none, none⟩⟩,
      ⟨"list", some "command", ⟨some "ls", none, none, none, some ["--all"]⟩⟩,
      ⟨"loop", some "command", ⟨some "first", none, none, none, none⟩⟩,
      ⟨"out", some "result", Editor.Payload.empty⟩]
  edges :=
    [⟨"one", "sum", some "B"⟩, ⟨"list", "out", none⟩,
      ⟨"one", "list", none⟩, ⟨"loop", "list", none⟩,
      ⟨"one", "sum", some "A"⟩, ⟨"sum", "list", some "depth"⟩,
      ⟨"loop", "loop", none⟩, ⟨"list", "one", some "A"⟩]

/-- The model of the sample graph. -/
def sampleModel : Model where
  roles :=
    [("one", .data "1" .int), ("sum", .operation .add),
      ("list", .command "ls" ["--all"]), ("loop", .command "first" []),
      ("out", .result)]
  edges :=
    [("one", [⟨"list", some (.operand .left)⟩]),
      ("sum", [⟨"one", some (.operand .right)⟩,
        ⟨"one", some (.operand .left)⟩]),
      ("list", [⟨"one", none⟩, ⟨"loop", none⟩,
        ⟨"sum", some (.named "depth")⟩]),
      ("loop", [⟨"loop", none⟩]), ("out", [⟨"list", none⟩])]
  resultId := "out"
  edgeCount := 8

theorem build_sampleGraph : build sampleRules sampleGraph = .ok sampleModel :=
  rfl

theorem sampleGraph_exact :
    WellFormed sampleRules sampleGraph ∧
      Represents sampleRules sampleGraph sampleModel :=
  ⟨(build_exact sampleRules sampleGraph).1.mp ⟨sampleModel, build_sampleGraph⟩,
    (build_exact sampleRules sampleGraph).2 sampleModel build_sampleGraph⟩

end Model

end PipeGraph
