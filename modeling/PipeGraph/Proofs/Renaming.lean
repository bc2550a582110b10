import Mathlib.Data.Set.Function
import Mathlib.Logic.Equiv.Basic
import PipeGraph.Proofs.Simulation
import PipeGraph.Proofs.Violations

/-!
# Names of nodes

The ids of nodes serve to tell nodes apart, and one of them is reserved for the
result; apart from that they mean nothing.  A graph whose ids are replaced by
others, equal ones by equal ones and different ones by different ones, has the
same model under the new names and compiles to the same artifacts.  If it does
not compile, then it fails with the same error under the new names.
-/

namespace PipeGraph

section Names

variable (newName : NodeId → NodeId)

namespace Editor

def Node.rename (node : Node) : Node :=
  { node with id := newName node.id }

def Edge.rename (edge : Edge) : Edge :=
  { edge with source := newName edge.source, target := newName edge.target }

/-- A graph under new names. -/
def Graph.rename (graph : Graph) : Graph where
  nodes := graph.nodes.map (Node.rename newName)
  edges := graph.edges.map (Edge.rename newName)

end Editor

def Incoming.rename (edge : Incoming) : Incoming :=
  { edge with source := newName edge.source }

/-- Entries for nodes under new names, with the values converted. -/
def renameEntries {α : Type} (convert : α → α)
    (entries : List (NodeId × α)) : List (NodeId × α) :=
  entries.map fun entry => (newName entry.1, convert entry.2)

def EdgeIndex.rename (index : EdgeIndex) : EdgeIndex :=
  renameEntries newName (List.map (Incoming.rename newName)) index

/-- The declared nodes under new names. -/
def Declared.rename (declared : Declared) : Declared where
  roles := renameEntries newName id declared.roles
  edges := declared.edges.rename newName
  resultIds := declared.resultIds.map newName

def Model.rename (model : Model) : Model where
  roles := renameEntries newName id model.roles
  edges := model.edges.rename newName
  resultId := newName model.resultId
  edgeCount := model.edgeCount

def OperandSources.rename (sources : OperandSources) : OperandSources :=
  ⟨sources.left.map newName, sources.right.map newName⟩

def ReferenceFault.rename : ReferenceFault → ReferenceFault
  | repeatedNode nodeId => repeatedNode (newName nodeId)
  | noResult => noResult
  | severalResults count => severalResults count
  | undeclaredEnd source target missing =>
      undeclaredEnd (newName source) (newName target) (newName missing)
  | unknownNode nodeId consumerId =>
      unknownNode (newName nodeId) (newName consumerId)
  | stated message => stated message

def HandleFault.rename : HandleFault → HandleFault
  | named source tag => named (newName source) tag
  | missing source => missing (newName source)
  | repeated slot => repeated slot
  | incomplete => incomplete
  | stated message => stated message

namespace CompileError

/-- An error under new names of the nodes that it mentions. -/
def rename : CompileError → CompileError
  | unreadable detail => unreadable detail
  | malformedReference fault => malformedReference (fault.rename newName)
  | unrecognizedRole nodeId fault => unrecognizedRole (newName nodeId) fault
  | missingResultProducer => missingResultProducer
  | ambiguousResultProducer count => ambiguousResultProducer count
  | resultAsInput consumerId => resultAsInput (newName consumerId)
  | operatorArity nodeId count => operatorArity (newName nodeId) count
  | operatorHandles nodeId fault =>
      operatorHandles (newName nodeId) (fault.rename newName)
  | invalidLiteral nodeId text literalType =>
      invalidLiteral (newName nodeId) text literalType
  | ambiguousPipeInput nodeId count =>
      ambiguousPipeInput (newName nodeId) count
  | cyclicFlow nodeId => cyclicFlow (newName nodeId)

/-- The node that an error is reported for. -/
def nodeId? : CompileError → Option NodeId
  | unrecognizedRole nodeId _ | resultAsInput nodeId
  | operatorArity nodeId _ | operatorHandles nodeId _
  | invalidLiteral nodeId _ _ | ambiguousPipeInput nodeId _
  | cyclicFlow nodeId => some nodeId
  | unreadable _ | malformedReference _ | missingResultProducer
  | ambiguousResultProducer _ => none

/-- The number of edges that an error reports. -/
def count? : CompileError → Option Nat
  | ambiguousResultProducer count | operatorArity _ count
  | ambiguousPipeInput _ count => some count
  | unreadable _ | malformedReference _ | unrecognizedRole _ _
  | missingResultProducer | resultAsInput _ | operatorHandles _ _
  | invalidLiteral _ _ _ | cyclicFlow _ => none

theorem kind_rename (error : CompileError) :
    (error.rename newName).kind = error.kind := by
  cases error <;> rfl

theorem nodeId?_rename (error : CompileError) :
    (error.rename newName).nodeId? = error.nodeId?.map newName := by
  cases error <;> rfl

theorem count?_rename (error : CompileError) :
    (error.rename newName).count? = error.count? := by
  cases error <;> rfl

/-- The second error is the first one under new names. -/
def Renamed (error other : CompileError) : Prop :=
  other = error.rename newName

end CompileError

end Names

namespace Editor.Graph

/-- All ids that occur in a graph, at nodes and at ends of edges. -/
def mentioned (graph : Graph) : List NodeId :=
  graph.ids ++ graph.edges.flatMap fun edge => [edge.source, edge.target]

/-- New names that keep the ids of a graph apart, and the reserved one
reserved. -/
structure KeepsApart (graph : Graph) (newName : NodeId → NodeId) : Prop where
  injective : Set.InjOn newName {nodeId | nodeId ∈ graph.mentioned}
  reserved : ∀ nodeId ∈ graph.mentioned,
    newName nodeId = resultType ↔ nodeId = resultType

theorem mentioned_of_mem_ids {graph : Graph} {nodeId : NodeId}
    (member : nodeId ∈ graph.ids) : nodeId ∈ graph.mentioned :=
  List.mem_append_left _ member

theorem mentioned_of_mem_nodes {graph : Graph} {node : Node}
    (member : node ∈ graph.nodes) : node.id ∈ graph.mentioned :=
  mentioned_of_mem_ids (List.mem_map.mpr ⟨node, member, rfl⟩)

theorem mentioned_of_mem_edges {graph : Graph} {edge : Edge}
    (member : edge ∈ graph.edges) :
    edge.source ∈ graph.mentioned ∧ edge.target ∈ graph.mentioned := by
  have ends : ∀ nodeId ∈ [edge.source, edge.target],
      nodeId ∈ graph.mentioned := by
    intro nodeId atEnd
    exact List.mem_append_right _ (List.mem_flatMap.mpr ⟨edge, member, atEnd⟩)
  exact ⟨ends _ (by simp), ends _ (by simp)⟩

end Editor.Graph

section Lists

variable {newName : NodeId → NodeId}

/-- A node is looked up under its new name, if no other node with an entry has
got the same name. -/
theorem lookup_renameEntries {α : Type} {convert : α → α} {ids : List NodeId}
    (injective : Set.InjOn newName {nodeId | nodeId ∈ ids})
    {entries : List (NodeId × α)}
    (keys : ∀ nodeId ∈ entries.map Prod.fst, nodeId ∈ ids)
    {nodeId : NodeId} (member : nodeId ∈ ids) :
    (renameEntries newName convert entries).lookup (newName nodeId) =
      (entries.lookup nodeId).map convert := by
  induction entries with
  | nil => rfl
  | cons entry entries ih =>
      simp only [List.map_cons, List.forall_mem_cons] at keys
      have sameTest : (newName nodeId == newName entry.1) =
          (nodeId == entry.1) := by
        rw [Bool.eq_iff_iff, beq_iff_eq, beq_iff_eq]
        exact injective.eq_iff member keys.1
      rw [renameEntries, List.map_cons, List.lookup_cons, List.lookup_cons,
        sameTest]
      cases nodeId == entry.1 with
      | true => rfl
      | false => exact ih keys.2

namespace EdgeIndex

variable {ids : List NodeId} (injective : Set.InjOn newName {id | id ∈ ids})
  {index : EdgeIndex} (keys : ∀ nodeId ∈ index.map Prod.fst, nodeId ∈ ids)

include injective keys

/-- An edge is put into the renamed index as into the index itself. -/
theorem push?_rename {target : NodeId} (member : target ∈ ids)
    (edge : Incoming) :
    (index.rename newName).push? (newName target) (edge.rename newName) =
      (index.push? target edge).map (EdgeIndex.rename newName) := by
  induction index with
  | nil => rfl
  | cons entry index ih =>
      simp only [List.map_cons, List.forall_mem_cons] at keys
      have sameTest : newName entry.1 = newName target ↔ entry.1 = target :=
        injective.eq_iff keys.1 member
      have unfolded : EdgeIndex.rename newName (entry :: index) =
          (newName entry.1, entry.2.map (Incoming.rename newName)) ::
            EdgeIndex.rename newName index := rfl
      rw [unfolded, push?, push?]
      simp only [sameTest]
      split
      · simp [EdgeIndex.rename, renameEntries]
      · rw [ih keys.2, Option.map_map, Option.map_map]
        rfl

theorem edgesInto_rename {nodeId : NodeId} (member : nodeId ∈ ids) :
    (index.rename newName).edgesInto (newName nodeId) =
      (index.edgesInto nodeId).map (Incoming.rename newName) := by
  rw [edgesInto, EdgeIndex.rename, lookup_renameEntries injective keys member,
    edgesInto]
  cases index.lookup nodeId <;> rfl

end EdgeIndex

theorem Declared.add_rename (newName : NodeId → NodeId) (declared : Declared)
    (nodeId : NodeId) (role : Role) :
    (declared.rename newName).add (newName nodeId) role =
      (declared.add nodeId role).rename newName := by
  by_cases isResult : role = .result <;>
    simp [add, Declared.rename, EdgeIndex.rename, renameEntries, isResult]

namespace Incoming

theorem pipeSources_rename (edges : List Incoming) :
    pipeSources (edges.map (rename newName)) =
      (pipeSources edges).map newName := by
  simp only [pipeSources, List.filter_map, List.map_map]
  rfl

theorem parameterSources_rename (edges : List Incoming) :
    parameterSources (edges.map (rename newName)) =
      (parameterSources edges).map fun parameter =>
        (parameter.1, newName parameter.2) := by
  simp only [parameterSources, List.filterMap_map, List.map_filterMap]
  apply List.filterMap_congr
  intro edge _
  rw [Option.map_map]
  rfl

end Incoming

end Lists

namespace OperandSources

variable {newName : NodeId → NodeId}

theorem corresponds_assign (sources : OperandSources) (edge : Incoming) :
    Corresponds (fun fault other => other = HandleFault.rename newName fault)
      (fun next other => other = OperandSources.rename newName next)
      (sources.assign edge)
      ((sources.rename newName).assign (edge.rename newName)) := by
  obtain ⟨left, right⟩ := sources
  obtain ⟨sourceId, handle⟩ := edge
  rcases handle with _ | (_ | _) | tag
  · exact .error rfl
  · cases left with
    | none => exact .ok rfl
    | some leftId => exact .error rfl
  · cases right with
    | none => exact .ok rfl
    | some rightId => exact .error rfl
  · exact .error rfl

theorem corresponds_ofEdges (edges : List Incoming) :
    Corresponds (fun fault other => other = HandleFault.rename newName fault)
      (fun operands other =>
        other = (newName operands.1, newName operands.2))
      (ofEdges edges) (ofEdges (edges.map (Incoming.rename newName))) := by
  unfold ofEdges
  rw [List.foldlM_map]
  have assigned : Corresponds
      (fun fault other => other = HandleFault.rename newName fault)
      (fun next other => other = OperandSources.rename newName next)
      (edges.foldlM assign unassigned)
      (edges.foldlM (fun sources edge =>
        sources.assign (edge.rename newName)) unassigned) := by
    refine Corresponds.foldlM ?_ rfl
    rintro edge _ sources _ rfl
    exact corresponds_assign sources edge
  refine assigned.bind ?_
  rintro ⟨left, right⟩ _ rfl
  cases left with
  | none => exact .error rfl
  | some leftId =>
      cases right with
      | none => exact .error rfl
      | some rightId => exact .ok rfl

end OperandSources

section Build

variable {graph : Editor.Graph} {newName : NodeId → NodeId}
  (apart : graph.KeepsApart newName) (rules : Rules)

include apart

theorem Rules.classify_rename {node : Editor.Node}
    (member : node ∈ graph.nodes) :
    rules.classify (node.rename newName) = rules.classify node := by
  have reserved : (node.rename newName).id = resultType ↔
      node.id = resultType :=
    apart.reserved _ (Editor.Graph.mentioned_of_mem_nodes member)
  simp only [classify, reserved]
  rfl

omit apart in
theorem Rules.corresponds_checkLiteral (nodeId : NodeId) (role : Role) :
    Corresponds (CompileError.Renamed newName) Eq
      (rules.checkLiteral nodeId role)
      (rules.checkLiteral (newName nodeId) role) := by
  cases role with
  | data text literalType =>
      simp only [checkLiteral]
      cases rules.validator with
      | none => exact .ok rfl
      | some isValid =>
          by_cases valid : isValid text literalType = true
          · simp only [valid, if_true]
            exact .ok rfl
          · simp only [valid]
            exact .error rfl
  | command name switches => exact .ok rfl
  | operation operator => exact .ok rfl
  | result => exact .ok rfl

theorem Rules.corresponds_declare {node : Editor.Node}
    (member : node ∈ graph.nodes) {declared : Declared}
    (keys : ∀ nodeId ∈ declared.roles.map Prod.fst,
      nodeId ∈ graph.mentioned) :
    Corresponds (CompileError.Renamed newName)
      (fun next other => (∀ nodeId ∈ next.roles.map Prod.fst,
          nodeId ∈ graph.mentioned) ∧ other = next.rename newName)
      (rules.declare declared node)
      (rules.declare (declared.rename newName) (node.rename newName)) := by
  have nodeMentioned := Editor.Graph.mentioned_of_mem_nodes member
  have classified : Corresponds (CompileError.Renamed newName) Eq
      ((rules.classify node).mapError (.unrecognizedRole node.id))
      ((rules.classify (node.rename newName)).mapError
        (.unrecognizedRole (newName node.id))) := by
    rw [rules.classify_rename apart member]
    refine (Corresponds.refl (fun _ => rfl) _).mapError ?_
    rintro fault _ rfl
    rfl
  have sameLookup : (declared.rename newName).roles.lookup (newName node.id) =
      (declared.roles.lookup node.id).map id :=
    lookup_renameEntries apart.injective keys nodeMentioned
  unfold declare
  refine classified.bind ?_
  rintro role _ rfl
  refine (rules.corresponds_checkLiteral node.id role).bind ?_
  rintro _ _ rfl
  simp only [Editor.Node.rename, sameLookup, Option.isSome_map]
  split
  · exact .error rfl
  · refine .ok ⟨?_, declared.add_rename newName node.id role⟩
    simp only [Declared.add, List.map_append, List.mem_append]
    rintro nodeId (earlier | here)
    · exact keys nodeId earlier
    · rw [List.mem_singleton.mp here]
      exact nodeMentioned

theorem Model.corresponds_link {roles : List (NodeId × Role)}
    (keys : ∀ nodeId ∈ roles.map Prod.fst, nodeId ∈ graph.mentioned)
    {index : EdgeIndex} (sameKeys : index.map Prod.fst = roles.map Prod.fst)
    {edge : Editor.Edge} (member : edge ∈ graph.edges) :
    Corresponds (CompileError.Renamed newName)
      (fun next other => next.map Prod.fst = roles.map Prod.fst ∧
        other = next.rename newName)
      (link roles index edge)
      (link (renameEntries newName id roles) (index.rename newName)
        (edge.rename newName)) := by
  obtain ⟨sourceMentioned, targetMentioned⟩ :=
    Editor.Graph.mentioned_of_mem_edges member
  have sourceLookup :
      (renameEntries newName id roles).lookup (newName edge.source) =
        (roles.lookup edge.source).map id :=
    lookup_renameEntries apart.injective keys sourceMentioned
  have pushed := EdgeIndex.push?_rename apart.injective
    (by rw [sameKeys]; exact keys) targetMentioned edge.incoming
  have sameEdge : (edge.rename newName).incoming =
      edge.incoming.rename newName := rfl
  simp only [link, sameEdge]
  simp only [Editor.Edge.rename, sourceLookup, Option.isNone_map, pushed]
  split
  · exact .error rfl
  · cases next : index.push? edge.target edge.incoming with
    | none => exact .error rfl
    | some next =>
        exact .ok ⟨(EdgeIndex.keys_of_push? ‹_›).trans sameKeys, rfl⟩

omit apart in
theorem Model.corresponds_resultId? (resultIds : List NodeId) :
    Corresponds (CompileError.Renamed newName)
      (fun resultId other => other = newName resultId)
      (resultId? resultIds) (resultId? (resultIds.map newName)) := by
  rcases resultIds with _ | ⟨first, _ | ⟨second, others⟩⟩
  · exact .error rfl
  · exact .ok rfl
  · refine .error ?_
    simp [CompileError.Renamed, CompileError.rename, ReferenceFault.rename]

theorem Rules.corresponds_declareAll :
    Corresponds (CompileError.Renamed newName)
      (fun declared other => (∀ nodeId ∈ declared.roles.map Prod.fst,
          nodeId ∈ graph.mentioned) ∧ other = declared.rename newName)
      (graph.nodes.foldlM rules.declare .nothing)
      ((graph.rename newName).nodes.foldlM rules.declare .nothing) := by
  -- The fold carries along that every key is an id of the graph: only among
  -- those do the new names stay apart, so only there do lookups agree.
  rw [Editor.Graph.rename, List.foldlM_map]
  refine Corresponds.foldlM ?_ ⟨by simp [Declared.nothing], rfl⟩
  rintro node member declared _ ⟨keys, rfl⟩
  exact rules.corresponds_declare apart member keys

/-- A renamed graph has the model of the graph under new names, or fails under
new names. -/
theorem Model.corresponds_build_rename :
    Corresponds (CompileError.Renamed newName)
      (fun model other => other = model.rename newName)
      (build rules graph) (build rules (graph.rename newName)) := by
  unfold build
  refine (rules.corresponds_declareAll apart).with_outcomes.bind ?_
  rintro declared _ ⟨ran, _, keys, rfl⟩
  have sameKeys : declared.edges.map Prod.fst =
      declared.roles.map Prod.fst := by
    obtain ⟨entries, rfl, _⟩ := Rules.declareAll_eq_ok_iff.mp ran
    exact EdgeIndex.keys_ofEdges _ _
  refine (corresponds_resultId? declared.resultIds).bind ?_
  rintro resultId _ rfl
  have linked : Corresponds (CompileError.Renamed newName)
      (fun index other =>
        index.map Prod.fst = declared.roles.map Prod.fst ∧
          other = index.rename newName)
      (graph.edges.foldlM (link declared.roles) declared.edges)
      ((graph.rename newName).edges.foldlM
        (link (declared.rename newName).roles)
        (declared.rename newName).edges) := by
    rw [Editor.Graph.rename, List.foldlM_map]
    refine Corresponds.foldlM ?_ ⟨sameKeys, rfl⟩
    rintro edge member index _ ⟨indexKeys, rfl⟩
    exact corresponds_link apart keys indexKeys member
  refine linked.bind ?_
  rintro index _ ⟨_, rfl⟩
  refine .ok ?_
  simp [Model.rename, Declared.rename, Editor.Graph.rename]

end Build

namespace Model

variable {rules : Rules} {graph : Editor.Graph} {model : Model}
  {newName : NodeId → NodeId} (apart : graph.KeepsApart newName)
  (isModel : IsModelOf rules graph model)

/-- Every node is paired with the node that has its new name. -/
def NewNames (graph : Editor.Graph) (newName : NodeId → NodeId)
    (nodeId otherId : NodeId) : Prop :=
  nodeId ∈ graph.mentioned ∧ otherId = newName nodeId

include isModel

theorem mentioned_of_mem_incoming (nodeId : NodeId) {edge : Incoming}
    (member : edge ∈ model.incoming nodeId) :
    edge.source ∈ graph.mentioned := by
  rw [isModel.incoming_eq] at member
  obtain ⟨drawn, drawnMember, rfl⟩ := List.mem_map.mp member
  exact (Editor.Graph.mentioned_of_mem_edges
    (List.mem_of_mem_filter drawnMember)).1

theorem mentioned_of_follows {nodeId sourceId : NodeId}
    (follows : Follows model nodeId sourceId) :
    sourceId ∈ graph.mentioned := by
  obtain ⟨edge, member, rfl⟩ := follows.exists_mem
  exact mentioned_of_mem_incoming isModel nodeId member

theorem keys_mentioned :
    ∀ nodeId ∈ model.roles.map Prod.fst, nodeId ∈ graph.mentioned := by
  rw [isModel.keys_eq]
  intro nodeId member
  exact Editor.Graph.mentioned_of_mem_ids member

theorem resultId_mentioned : model.resultId ∈ graph.mentioned :=
  Editor.Graph.mentioned_of_mem_ids
    (isModel.mem_ids_of_mem_roles isModel.result_declared)

include apart

theorem role?_rename {nodeId : NodeId} (member : nodeId ∈ graph.mentioned) :
    (model.rename newName).role? (newName nodeId) = model.role? nodeId := by
  have sameLookup : (model.rename newName).role? (newName nodeId) =
      (model.role? nodeId).map id :=
    lookup_renameEntries apart.injective (keys_mentioned isModel) member
  rw [sameLookup, Option.map_id, id]

theorem incoming_rename {nodeId : NodeId}
    (member : nodeId ∈ graph.mentioned) :
    (model.rename newName).incoming (newName nodeId) =
      (model.incoming nodeId).map (Incoming.rename newName) := by
  refine EdgeIndex.edgesInto_rename apart.injective ?_ member
  rw [isModel.edges_eq, EdgeIndex.keys_ofEdges]
  exact keys_mentioned isModel

theorem corresponds_operandSources_rename {nodeId : NodeId}
    (member : nodeId ∈ graph.mentioned) :
    Corresponds (CompileError.Renamed newName)
      (fun operands other =>
        other = (newName operands.1, newName operands.2))
      (model.operandSources nodeId)
      ((model.rename newName).operandSources (newName nodeId)) := by
  simp only [operandSources, incoming_rename apart isModel member,
    List.length_map]
  split
  · refine (OperandSources.corresponds_ofEdges _).mapError ?_
    rintro fault _ rfl
    rfl
  · exact .error rfl

/-- A model and the model under new names are walked side by side. -/
theorem simulation_rename (policy : PipePolicy) :
    Simulation (CompileError.Renamed newName) (NewNames graph newName)
      policy policy model (model.rename newName) where
  role_eq := by
    rintro nodeId _ ⟨member, rfl⟩
    exact role?_rename apart isModel member
  cyclicFlow := by
    rintro nodeId _ ⟨_, rfl⟩
    rfl
  unknownNode := by
    rintro nodeId _ consumerId _ ⟨_, rfl⟩ ⟨_, rfl⟩
    rfl
  resultAsInput := by
    rintro consumerId _ ⟨_, rfl⟩
    rfl
  operands := by
    rintro nodeId _ operator ⟨member, rfl⟩ isOperation
    refine (corresponds_operandSources_rename apart isModel
      member).with_outcomes.mono ?_
    rintro ⟨leftId, rightId⟩ _ ⟨sources, _, rfl⟩
    have fed := operandSources_eq_ok_iff.mp sources
    exact ⟨⟨mentioned_of_follows isModel (.left isOperation fed), rfl⟩,
      ⟨mentioned_of_follows isModel (.right isOperation fed), rfl⟩⟩
  pipeCheck := by
    rintro nodeId _ name switches ⟨member, rfl⟩ _
    rw [incoming_rename apart isModel member,
      Incoming.pipeSources_rename]
    simp only [checkPipe, List.length_map]
    split
    · exact .ok trivial
    · cases policy with
      | firstWins => exact .ok trivial
      | strict => exact .error rfl
  pipe := by
    rintro nodeId _ name switches ⟨member, rfl⟩ isCommand
    rw [incoming_rename apart isModel member,
      Incoming.pipeSources_rename, List.head?_map]
    cases first : (Incoming.pipeSources (model.incoming nodeId)).head? with
    | none => exact .none
    | some sourceId =>
        have follows := follows_of_head?_pipeSources isCommand first
        exact .some ⟨mentioned_of_follows isModel follows, rfl⟩
  parameters := by
    rintro nodeId _ name switches ⟨member, rfl⟩ isCommand
    rw [incoming_rename apart isModel member,
      Incoming.parameterSources_rename, List.forall₂_map_right_iff,
      List.forall₂_same]
    intro parameter parameterMember
    have follows := follows_of_mem_parameterSources isCommand parameterMember
    exact ⟨rfl, mentioned_of_follows isModel follows, rfl⟩

theorem corresponds_producer?_rename :
    Corresponds (CompileError.Renamed newName) (NewNames graph newName)
      model.producer? (model.rename newName).producer? := by
  have renamedEdges := incoming_rename apart isModel
    (resultId_mentioned isModel)
  unfold producer?
  rw [show (model.rename newName).resultId = newName model.resultId from rfl,
    renamedEdges]
  rcases edges : model.incoming model.resultId with
    _ | ⟨first, _ | ⟨second, others⟩⟩
  · exact .error rfl
  · have firstMentioned : first.source ∈ graph.mentioned := by
      apply mentioned_of_mem_incoming isModel model.resultId
      rw [edges]
      exact .head _
    exact .ok ⟨firstMentioned, rfl⟩
  · refine .error ?_
    simp [CompileError.Renamed, CompileError.rename]

end Model

/-- Compiling a graph under new names gives the same artifacts, or the same
error under new names: of the same kind, for the node with the new name, and
with the same count. -/
theorem Compiler.artifacts_rename (compiler : Compiler)
    (graph : Editor.Graph) (newName : NodeId → NodeId)
    (apart : graph.KeepsApart newName) :
    (∃ artifacts,
      (compiler.artifacts graph).outcome = .ok artifacts ∧
      (compiler.artifacts (graph.rename newName)).outcome = .ok artifacts) ∨
    ∃ error renamedError,
      (compiler.artifacts graph).outcome = .error error ∧
      (compiler.artifacts (graph.rename newName)).outcome =
        .error renamedError ∧
      renamedError = error.rename newName ∧
      renamedError.kind = error.kind ∧
      renamedError.nodeId? = error.nodeId?.map newName ∧
      renamedError.count? = error.count? := by
  have same : Corresponds (CompileError.Renamed newName) Eq
      (compiler.artifacts graph).outcome
      (compiler.artifacts (graph.rename newName)).outcome := by
    rw [outcome_artifacts, outcome_artifacts]
    refine (Model.corresponds_build_rename apart
      compiler.rules).with_outcomes.bind ?_
    rintro model _ ⟨built, _, rfl⟩
    have isModel := Model.build_eq_ok_iff.mp built
    have simulation := Model.simulation_rename apart isModel
      compiler.pipePolicy
    have sameCount : (model.rename newName).nodeCount = model.nodeCount :=
      List.length_map _
    refine (simulation.corresponds_extract sameCount
      ⟨Model.resultId_mentioned isModel, rfl⟩
      (Model.corresponds_producer?_rename apart isModel)).bind ?_
    rintro tree _ rfl
    exact .ok rfl
  rcases same.ok_or_error with returned | failed
  · exact .inl returned
  · obtain ⟨error, _, first, second, rfl⟩ := failed
    exact .inr ⟨error, _, first, second, rfl, error.kind_rename newName,
      error.nodeId?_rename newName, error.count?_rename newName⟩

/-- The two faulty operators of the rival graph exchange their names. -/
def exchangedName : NodeId → NodeId := Equiv.swap "pair" "lone"

theorem rivalGraph_keepsApart :
    Model.rivalGraph.KeepsApart exchangedName where
  injective := (Equiv.swap "pair" "lone").injective.injOn
  reserved nodeId _ := by
    have fixed : Equiv.swap "pair" "lone" "result" = "result" :=
      Equiv.swap_apply_of_ne_of_ne (by decide) (by decide)
    rw [exchangedName, Equiv.swap_apply_eq_iff, resultType, fixed]

theorem rivalGraph_artifacts_rename :
    Model.rivalGraph.KeepsApart exchangedName ∧
    (Compiler.standard.artifacts
        (Model.rivalGraph.rename exchangedName)).outcome =
      .error (.operatorHandles "lone" (.repeated .left)) := by
  refine ⟨rivalGraph_keepsApart, ?_⟩
  have failed : (Compiler.standard.artifacts Model.rivalGraph).outcome =
      .error (.operatorHandles "pair" (.repeated .left)) := rfl
  rcases Compiler.artifacts_rename Compiler.standard Model.rivalGraph
    exchangedName rivalGraph_keepsApart with
    ⟨artifacts, returned, _⟩ | ⟨error, _, first, second, rfl, _⟩
  · rw [failed] at returned
    cases returned
  · rw [failed] at first
    cases first
    exact second

end PipeGraph
