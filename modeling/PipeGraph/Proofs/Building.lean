import Mathlib.Data.List.Nodup
import PipeGraph.Graph.Build
import PipeGraph.Proofs.Outcome

/-!
# How a model is built

Building runs through the nodes and then through the edges, and stops at the
first defect.  This file says what one node adds to the declared nodes and what
one edge adds to the index of edges, by induction what all of them do, and turns
the run as a whole into a relation between a graph and its model.
-/

namespace PipeGraph

section Entries

variable {α : Type} {entries : List (NodeId × α)} {nodeId : NodeId} {value : α}

theorem lookup_isSome_iff_mem_keys :
    (entries.lookup nodeId).isSome = true ↔
      nodeId ∈ entries.map Prod.fst := by
  simp [List.lookup_isSome_iff]

theorem mem_of_lookup_eq_some (found : entries.lookup nodeId = some value) :
    (nodeId, value) ∈ entries := by
  obtain ⟨before, after, rfl, _⟩ := List.lookup_eq_some_iff.mp found
  simp

/-- A value is looked up by an id that no other entry has. -/
theorem lookup_eq_some_iff_mem (distinct : (entries.map Prod.fst).Nodup) :
    entries.lookup nodeId = some value ↔ (nodeId, value) ∈ entries := by
  induction entries with
  | nil => simp
  | cons entry entries ih =>
      simp only [List.map_cons, List.nodup_cons] at distinct
      rw [List.lookup_cons, List.mem_cons]
      by_cases here : nodeId = entry.1
      · subst here
        have noneLater : (entry.1, value) ∉ entries := by
          intro later
          exact distinct.1 (List.mem_map.mpr ⟨_, later, rfl⟩)
        simp [noneLater, Prod.ext_iff, eq_comm]
      · have notEntry : (nodeId, value) ≠ entry := by
          rintro rfl
          exact here rfl
        have notSame : (nodeId == entry.1) = false :=
          beq_eq_false_iff_ne.mpr here
        simp [notSame, notEntry, ih distinct.2]

end Entries

/-- The ids of the nodes of a graph, in order of declaration. -/
def Editor.Graph.ids (graph : Editor.Graph) : List NodeId :=
  graph.nodes.map Editor.Node.id

namespace EdgeIndex

variable {index : EdgeIndex} {ids : List NodeId} {edges : List Editor.Edge}
  {edge : Editor.Edge} {nodeId : NodeId}

/-- The index that has an entry for every one of some nodes, with the edges of a
list that lead there. -/
def ofEdges (ids : List NodeId) (edges : List Editor.Edge) : EdgeIndex :=
  ids.map fun nodeId => (nodeId,
    (edges.filter fun edge => edge.target = nodeId).map Editor.Edge.incoming)

theorem keys_ofEdges (ids : List NodeId) (edges : List Editor.Edge) :
    (ofEdges ids edges).map Prod.fst = ids := by
  simp [ofEdges, Function.comp_def]

theorem ofEdges_cons :
    ofEdges (nodeId :: ids) edges = (nodeId,
      (edges.filter fun edge => edge.target = nodeId).map
        Editor.Edge.incoming) :: ofEdges ids edges :=
  rfl

/-- An edge changes nothing for nodes that it does not lead to. -/
theorem ofEdges_concat_of_not_mem (notTarget : edge.target ∉ ids) :
    ofEdges ids (edges ++ [edge]) = ofEdges ids edges := by
  apply List.map_congr_left
  intro nodeId member
  have elsewhere : edge.target ≠ nodeId := by
    rintro rfl
    exact notTarget member
  simp [elsewhere]

theorem push?_eq_none_iff {target : NodeId} {added : Incoming} :
    push? target added index = none ↔ target ∉ index.map Prod.fst := by
  induction index with
  | nil => simp [push?]
  | cons entry index ih =>
      by_cases here : entry.1 = target
      · simp [push?, here]
      · simp only [push?, here, if_false, Option.map_eq_none_iff, ih,
          List.map_cons, List.mem_cons, not_or]
        exact ⟨fun later => ⟨Ne.symm here, later⟩, And.right⟩

/-- Putting an edge into the index adds and removes no entry. -/
theorem keys_of_push? {next : EdgeIndex} {target : NodeId} {added : Incoming}
    (pushed : push? target added index = some next) :
    next.map Prod.fst = index.map Prod.fst := by
  induction index generalizing next with
  | nil => cases pushed
  | cons entry index ih =>
      rw [push?] at pushed
      split at pushed
      · cases pushed
        rfl
      · obtain ⟨later, pushedLater, rfl⟩ := Option.map_eq_some_iff.mp pushed
        rw [List.map_cons, List.map_cons, ih pushedLater]

/-- Putting an edge into the index takes it up behind the edges that are
there. -/
theorem push?_ofEdges (distinct : ids.Nodup) (member : edge.target ∈ ids) :
    push? edge.target edge.incoming (ofEdges ids edges) =
      some (ofEdges ids (edges ++ [edge])) := by
  induction ids with
  | nil => cases member
  | cons nodeId ids ih =>
      rw [List.nodup_cons] at distinct
      by_cases here : nodeId = edge.target
      · -- The edge ends here, and no later entry is for the same node.
        subst here
        rw [ofEdges_cons, ofEdges_cons,
          ofEdges_concat_of_not_mem distinct.1]
        simp [push?]
      · have later : edge.target ∈ ids :=
          (List.mem_cons.mp member).resolve_left (Ne.symm here)
        rw [ofEdges_cons, ofEdges_cons, push?, if_neg here,
          ih distinct.2 later]
        simp [Ne.symm here]

theorem mem_edgesInto_iff {incoming : Incoming} :
    incoming ∈ index.edgesInto nodeId ↔
      ∃ edges, index.lookup nodeId = some edges ∧ incoming ∈ edges := by
  cases found : index.lookup nodeId <;> simp [edgesInto, found]

/-- The index is asked for the edges into a node and gives just these, if every
edge leads to a node that has an entry. -/
theorem edgesInto_ofEdges (targets : ∀ edge ∈ edges, edge.target ∈ ids) :
    (ofEdges ids edges).edgesInto nodeId =
      (edges.filter fun edge => edge.target = nodeId).map
        Editor.Edge.incoming := by
  unfold edgesInto
  by_cases declared : nodeId ∈ ids
  · rw [ofEdges, List.lookup_graph _ declared]
    rfl
  · have noEntry : (ofEdges ids edges).lookup nodeId = none := by
      rw [← Option.not_isSome_iff_eq_none, lookup_isSome_iff_mem_keys,
        keys_ofEdges]
      exact declared
    have noEdge : edges.filter (fun edge => edge.target = nodeId) = [] := by
      rw [List.filter_eq_nil_iff]
      intro edge member here
      rw [decide_eq_true_eq] at here
      exact declared (here ▸ targets edge member)
    rw [noEntry, noEdge]
    rfl

end EdgeIndex

namespace Declared

/-- The ids of the result nodes among some entries. -/
def resultIdsOf (entries : List (NodeId × Role)) : List NodeId :=
  (entries.filter fun entry => entry.2 = .result).map Prod.fst

/-- Everything that is known once nodes with the given entries are declared. -/
def ofEntries (entries : List (NodeId × Role)) : Declared where
  roles := entries
  edges := .ofEdges (entries.map Prod.fst) []
  resultIds := resultIdsOf entries

theorem add_ofEntries (entries : List (NodeId × Role)) (nodeId : NodeId)
    (role : Role) :
    (ofEntries entries).add nodeId role =
      ofEntries (entries ++ [(nodeId, role)]) := by
  by_cases isResult : role = .result <;>
    simp [add, ofEntries, EdgeIndex.ofEdges, resultIdsOf, isResult]

theorem mem_resultIdsOf_iff {entries : List (NodeId × Role)}
    {nodeId : NodeId} :
    nodeId ∈ resultIdsOf entries ↔ (nodeId, Role.result) ∈ entries := by
  simp [resultIdsOf]

end Declared

namespace Rules

/-- The validator, if there is one, has nothing against a role. -/
def Accepts (rules : Rules) (role : Role) : Prop :=
  ∀ text literalType isValid, role = .data text literalType →
    rules.validator = some isValid → isValid text literalType = true

/-- The entry that a node gets among the declared nodes. -/
structure Admits (rules : Rules) (node : Editor.Node)
    (entry : NodeId × Role) : Prop where
  id_eq : entry.1 = node.id
  classified : rules.classify node = .ok entry.2
  accepted : rules.Accepts entry.2

theorem checkLiteral_eq_ok_iff (rules : Rules) (nodeId : NodeId)
    (role : Role) (result : Unit) :
    rules.checkLiteral nodeId role = .ok result ↔ rules.Accepts role := by
  cases role with
  | data text literalType =>
      cases validator : rules.validator with
      | none => simp [checkLiteral, Accepts, validator]
      | some isValid =>
          by_cases valid : isValid text literalType = true <;>
            simp [checkLiteral, Accepts, validator, valid]
  | command name switches => simp [checkLiteral, Accepts]
  | operation operator => simp [checkLiteral, Accepts]
  | result => simp [checkLiteral, Accepts]

section Admitted

variable {rules : Rules} {nodes : List Editor.Node}
  {entries : List (NodeId × Role)}

theorem keys_of_admitted (admitted : List.Forall₂ rules.Admits nodes entries) :
    entries.map Prod.fst = nodes.map Editor.Node.id := by
  induction admitted with
  | nil => rfl
  | cons admitted _ ih => simp [admitted.id_eq, ih]

theorem keys_nodup_of_admitted
    (admitted : List.Forall₂ rules.Admits nodes entries)
    (distinct : (nodes.map Editor.Node.id).Nodup) :
    (entries.map Prod.fst).Nodup := by
  rw [keys_of_admitted admitted]
  exact distinct

theorem exists_entry_of_admitted
    (admitted : List.Forall₂ rules.Admits nodes entries)
    {node : Editor.Node} (member : node ∈ nodes) :
    ∃ entry ∈ entries, rules.Admits node entry :=
  exists_of_mem_forall₂ admitted member

theorem exists_node_of_admitted
    (admitted : List.Forall₂ rules.Admits nodes entries)
    {entry : NodeId × Role} (member : entry ∈ entries) :
    ∃ node ∈ nodes, rules.Admits node entry :=
  exists_of_mem_forall₂_right admitted member

end Admitted

/-- Declaring a node adds it behind the others, and works when the id is
new. -/
theorem declare_eq_ok_iff {rules : Rules} {node : Editor.Node}
    {declared next : Declared} :
    rules.declare declared node = .ok next ↔
      ∃ entry, rules.Admits node entry ∧
        node.id ∉ declared.roles.map Prod.fst ∧
        next = declared.add entry.1 entry.2 := by
  simp only [declare, bind_eq_ok_iff, mapError_eq_ok_iff,
    checkLiteral_eq_ok_iff, lookup_isSome_iff_mem_keys]
  constructor
  · rintro ⟨role, classified, _, accepted, finished⟩
    by_cases repeated : node.id ∈ declared.roles.map Prod.fst
    · simp [repeated, throw, throwThe, MonadExceptOf.throw, bind,
        Except.bind] at finished
    · have nextEq : declared.add node.id role = next := by
        simpa [repeated, pure, Except.pure, bind, Except.bind] using finished
      exact ⟨(node.id, role), ⟨rfl, classified, accepted⟩, repeated,
        nextEq.symm⟩
  · rintro ⟨⟨nodeId, role⟩, ⟨rfl, classified, accepted⟩, fresh, rfl⟩
    refine ⟨role, classified, (), accepted, ?_⟩
    simp [fresh, pure, Except.pure]

/-- Declaring all nodes of a list adds their entries in the same order, and
works when all ids are new and distinct.  All along, what is known is what
follows from the entries. -/
theorem declareAll_ofEntries_eq_ok_iff {rules : Rules}
    {nodes : List Editor.Node} {earlier : List (NodeId × Role)}
    {final : Declared} :
    nodes.foldlM rules.declare (.ofEntries earlier) = .ok final ↔
      ∃ entries, final = .ofEntries (earlier ++ entries) ∧
        List.Forall₂ rules.Admits nodes entries ∧
        (nodes.map Editor.Node.id).Nodup ∧
        ∀ node ∈ nodes, node.id ∉ earlier.map Prod.fst := by
  induction nodes generalizing earlier with
  | nil => simp [pure, Except.pure, eq_comm]
  | cons node nodes ih =>
      simp only [List.foldlM_cons, bind_eq_ok_iff, declare_eq_ok_iff]
      constructor
      · rintro ⟨_, ⟨entry, admitted, fresh, rfl⟩, ran⟩
        rw [Declared.add_ofEntries, ih] at ran
        obtain ⟨entries, rfl, admittedAll, distinct, allFresh⟩ := ran
        refine ⟨entry :: entries, by simp, .cons admitted admittedAll, ?_, ?_⟩
        · -- no later node may take the id that was just declared
          refine List.nodup_cons.mpr ⟨?_, distinct⟩
          rintro member
          obtain ⟨other, otherMember, sameId⟩ := List.mem_map.mp member
          have otherFresh := allFresh other otherMember
          simp [admitted.id_eq, sameId] at otherFresh
        · intro other otherMember
          rcases List.mem_cons.mp otherMember with rfl | later
          · exact fresh
          · have otherFresh := allFresh other later
            simp only [List.map_append, List.mem_append, not_or] at otherFresh
            exact otherFresh.1
      · rintro ⟨entries, rfl, admittedAll, distinct, allFresh⟩
        obtain ⟨entry, others, admitted, admittedOthers, rfl⟩ :=
          List.forall₂_cons_left_iff.mp admittedAll
        simp only [List.map_cons, List.nodup_cons] at distinct
        refine ⟨_, ⟨entry, admitted, allFresh node (by simp), rfl⟩, ?_⟩
        rw [Declared.add_ofEntries, ih]
        refine ⟨others, by simp, admittedOthers, distinct.2, ?_⟩
        intro other otherMember
        have notNode : other.id ≠ node.id := by
          rintro sameId
          exact distinct.1 (List.mem_map.mpr ⟨other, otherMember, sameId⟩)
        have notDeclared := allFresh other (by simp [otherMember])
        simp only [List.map_append, List.map_cons, List.map_nil,
          List.mem_append, List.mem_singleton, not_or]
        exact ⟨notDeclared, by rw [admitted.id_eq]; exact notNode⟩

theorem declareAll_eq_ok_iff {rules : Rules} {nodes : List Editor.Node}
    {final : Declared} :
    nodes.foldlM rules.declare .nothing = .ok final ↔
      ∃ entries, final = .ofEntries entries ∧
        List.Forall₂ rules.Admits nodes entries ∧
        (nodes.map Editor.Node.id).Nodup := by
  have started : Declared.nothing = .ofEntries [] := rfl
  simp [started, declareAll_ofEntries_eq_ok_iff]

end Rules

namespace Model

theorem resultId?_eq_ok_iff {resultIds : List NodeId} {resultId : NodeId} :
    resultId? resultIds = .ok resultId ↔ resultIds = [resultId] := by
  unfold resultId?
  split
  · simp
  · simp
  · rename_i several _
    simpa using several resultId

section Links

variable {roles : List (NodeId × Role)} {edges before : List Editor.Edge}

/-- An edge is taken up if both its ends are declared. -/
theorem link_ofEdges_eq_ok_iff (distinct : (roles.map Prod.fst).Nodup)
    (edge : Editor.Edge) (next : EdgeIndex) :
    link roles (.ofEdges (roles.map Prod.fst) before) edge = .ok next ↔
      (edge.source ∈ roles.map Prod.fst ∧
        edge.target ∈ roles.map Prod.fst) ∧
      next = .ofEdges (roles.map Prod.fst) (before ++ [edge]) := by
  simp only [link, ← Option.not_isSome_iff_eq_none, Option.isNone_iff_eq_none,
    lookup_isSome_iff_mem_keys]
  by_cases sourceDeclared : edge.source ∈ roles.map Prod.fst
  · by_cases targetDeclared : edge.target ∈ roles.map Prod.fst
    · rw [EdgeIndex.push?_ofEdges distinct targetDeclared]
      simp [sourceDeclared, targetDeclared, eq_comm]
    · have notPushed : EdgeIndex.push? edge.target edge.incoming
          (.ofEdges (roles.map Prod.fst) before) = none := by
        rw [EdgeIndex.push?_eq_none_iff, EdgeIndex.keys_ofEdges]
        exact targetDeclared
      simp [notPushed, sourceDeclared, targetDeclared]
  · simp [sourceDeclared]

/-- While the edges of a list are put into the index, it holds those that have
had their turn. -/
theorem linkAll_eq_ok_iff (distinct : (roles.map Prod.fst).Nodup)
    {final : EdgeIndex} :
    edges.foldlM (link roles) (.ofEdges (roles.map Prod.fst) before) =
        .ok final ↔
      (∀ edge ∈ edges, edge.source ∈ roles.map Prod.fst ∧
        edge.target ∈ roles.map Prod.fst) ∧
      final = .ofEdges (roles.map Prod.fst) (before ++ edges) := by
  induction edges generalizing before with
  | nil => simp [pure, Except.pure, eq_comm]
  | cons edge edges ih =>
      simp only [List.foldlM_cons, bind_eq_ok_iff,
        link_ofEdges_eq_ok_iff distinct, List.forall_mem_cons]
      constructor
      · rintro ⟨_, ⟨joined, rfl⟩, ran⟩
        obtain ⟨allJoined, rfl⟩ := ih.mp ran
        exact ⟨⟨joined, allJoined⟩, by simp⟩
      · rintro ⟨⟨joined, allJoined⟩, rfl⟩
        exact ⟨_, ⟨joined, rfl⟩, ih.mpr ⟨allJoined, by simp⟩⟩

end Links

/-- What a graph and its model have to do with each other, check by check. -/
structure IsModelOf (rules : Rules) (graph : Editor.Graph)
    (model : Model) : Prop where
  admitted : List.Forall₂ rules.Admits graph.nodes model.roles
  distinct : graph.ids.Nodup
  resultIds_eq : Declared.resultIdsOf model.roles = [model.resultId]
  joined : ∀ edge ∈ graph.edges,
    edge.source ∈ model.roles.map Prod.fst ∧
      edge.target ∈ model.roles.map Prod.fst
  edges_eq : model.edges =
    .ofEdges (model.roles.map Prod.fst) graph.edges
  edgeCount_eq : model.edgeCount = graph.edges.length

theorem build_eq_ok_iff {rules : Rules} {graph : Editor.Graph}
    {model : Model} :
    build rules graph = .ok model ↔ IsModelOf rules graph model := by
  simp only [build, bind_eq_ok_iff, Rules.declareAll_eq_ok_iff,
    resultId?_eq_ok_iff]
  constructor
  · rintro ⟨_, ⟨roles, rfl, admitted, distinct⟩, resultId, oneResult,
      edges, linked, finished⟩
    have keysDistinct := Rules.keys_nodup_of_admitted admitted distinct
    obtain ⟨joined, rfl⟩ := (linkAll_eq_ok_iff keysDistinct).mp linked
    cases finished
    exact ⟨admitted, distinct, oneResult, joined, rfl, rfl⟩
  · rintro ⟨admitted, distinct, oneResult, joined, edgesEq, countEq⟩
    have keysDistinct := Rules.keys_nodup_of_admitted admitted distinct
    refine ⟨_, ⟨model.roles, rfl, admitted, distinct⟩, model.resultId,
      oneResult, model.edges,
      (linkAll_eq_ok_iff keysDistinct).mpr ⟨joined, edgesEq⟩, ?_⟩
    rw [← countEq]
    rfl

namespace IsModelOf

variable {rules : Rules} {graph : Editor.Graph} {model : Model}

/-- The declared ids are the ids of the graph, in the same order. -/
theorem keys_eq (isModel : IsModelOf rules graph model) :
    model.roles.map Prod.fst = graph.ids :=
  Rules.keys_of_admitted isModel.admitted

theorem mem_ids_of_mem_roles (isModel : IsModelOf rules graph model)
    {entry : NodeId × Role} (member : entry ∈ model.roles) :
    entry.1 ∈ graph.ids := by
  rw [← isModel.keys_eq]
  exact List.mem_map.mpr ⟨entry, member, rfl⟩

theorem role?_eq_some_iff (isModel : IsModelOf rules graph model)
    {nodeId : NodeId} {role : Role} :
    model.role? nodeId = some role ↔ (nodeId, role) ∈ model.roles :=
  lookup_eq_some_iff_mem
    (Rules.keys_nodup_of_admitted isModel.admitted isModel.distinct)

theorem exists_node_of_role? (isModel : IsModelOf rules graph model)
    {nodeId : NodeId} {role : Role}
    (hasRole : model.role? nodeId = some role) :
    ∃ node ∈ graph.nodes, node.id = nodeId ∧
      rules.classify node = .ok role := by
  obtain ⟨node, member, admitted⟩ := Rules.exists_node_of_admitted
    isModel.admitted (isModel.role?_eq_some_iff.mp hasRole)
  exact ⟨node, member, admitted.id_eq.symm, admitted.classified⟩

theorem role?_eq_none_iff (isModel : IsModelOf rules graph model)
    {nodeId : NodeId} :
    model.role? nodeId = none ↔ nodeId ∉ graph.ids := by
  rw [← isModel.keys_eq, ← lookup_isSome_iff_mem_keys,
    Option.not_isSome_iff_eq_none]
  rfl

/-- The edges into a node are those that the graph draws there. -/
theorem incoming_eq (isModel : IsModelOf rules graph model)
    (nodeId : NodeId) :
    model.incoming nodeId =
      (graph.edges.filter fun edge => edge.target = nodeId).map
        Editor.Edge.incoming := by
  rw [incoming, isModel.edges_eq]
  exact EdgeIndex.edgesInto_ofEdges fun edge member =>
    (isModel.joined edge member).2

theorem filter_incoming (isModel : IsModelOf rules graph model)
    (counts : Incoming → Bool) (nodeId : NodeId) :
    (model.incoming nodeId).filter counts =
      (graph.edges.filter fun edge =>
        edge.target = nodeId ∧ counts edge.incoming).map
          Editor.Edge.incoming := by
  rw [isModel.incoming_eq, List.filter_map, List.filter_filter]
  congr 2
  funext edge
  simp [Bool.and_comm]

theorem result_declared (isModel : IsModelOf rules graph model) :
    (model.resultId, Role.result) ∈ model.roles := by
  rw [← Declared.mem_resultIdsOf_iff, isModel.resultIds_eq]
  simp

theorem role?_resultId (isModel : IsModelOf rules graph model) :
    model.role? model.resultId = some .result :=
  isModel.role?_eq_some_iff.mpr isModel.result_declared

theorem eq_resultId_of_role? (isModel : IsModelOf rules graph model)
    {nodeId : NodeId} (isResult : model.role? nodeId = some .result) :
    nodeId = model.resultId := by
  rw [isModel.role?_eq_some_iff, ← Declared.mem_resultIdsOf_iff,
    isModel.resultIds_eq] at isResult
  exact List.mem_singleton.mp isResult

/-- The result node of the model is the only node of the graph that
classifies as one. -/
theorem result_unique (isModel : IsModelOf rules graph model) :
    ∃! node, node ∈ graph.nodes ∧ rules.classify node = .ok .result := by
  obtain ⟨node, member, admitted⟩ :=
    Rules.exists_node_of_admitted isModel.admitted isModel.result_declared
  refine ⟨node, ⟨member, admitted.classified⟩, ?_⟩
  rintro other ⟨otherMember, otherClassified⟩
  obtain ⟨⟨otherId, role⟩, entryMember, otherAdmitted⟩ :=
    Rules.exists_entry_of_admitted isModel.admitted otherMember
  have roleEq : role = .result := by
    have same := otherAdmitted.classified
    rw [otherClassified] at same
    exact (Except.ok.inj same).symm
  have otherResult : otherId ∈ Declared.resultIdsOf model.roles := by
    rw [Declared.mem_resultIdsOf_iff, ← roleEq]
    exact entryMember
  rw [isModel.resultIds_eq, List.mem_singleton] at otherResult
  apply List.inj_on_of_nodup_map isModel.distinct otherMember member
  rw [← otherAdmitted.id_eq, ← admitted.id_eq]
  exact otherResult

end IsModelOf

end Model

end PipeGraph
