import PipeGraph.Editor.Reader
import PipeGraph.Proofs.JsonReading
import PipeGraph.Proofs.RecordReaders

/-!
# The JSON form of editor graphs

The four kinds of records that make up an editor graph, each as a list of
slots.  A graph is read from a text exactly when the text writes a document in
which that graph is found.
-/

namespace PipeGraph

open Json

namespace Editor

namespace Payload

def slots (payload : Payload) : List Slot :=
  [.optional ["label"] false IsText payload.label,
    .optional ["value"] false IsText payload.value,
    .optional ["literal_type", "literalType"] true IsText payload.literalType,
    .optional ["operator"] false IsText payload.operator,
    .optional ["switches"] true (IsListOf IsText) payload.switches]

/-- A document in which a payload is found. -/
def ReadFrom (payload : Payload) (document : Document) : Prop :=
  RecordReading payload.slots document

theorem aligned_slots (payload : Payload) :
    Aligned 0
      [labelField, valueField, literalTypeField, operatorField, switchesField]
      payload.slots :=
  .cons rfl rfl And.left <| .cons rfl rfl And.left <| .cons rfl rfl And.left <|
    .cons rfl rfl And.left <| .cons rfl rfl And.left .nil

theorem reads : Reads read? ReadFrom := by
  intro depth document payload
  rw [ReadFrom, payload.aligned_slots.recordReading_iff depth]
  simp only [read?, Option.bind_eq_bind, Option.bind_eq_some_iff,
    guard_eq_some_iff, optional?_eq_some_iff reads_text not_isText_null,
    optional?_eq_some_iff reads_text.listOf not_isListOf_null, slots,
    List.zip_cons_cons, List.zip_nil_right, List.forall_mem_cons]
  constructor
  · rintro ⟨record, isRecord, _, fits, label, isLabel, value, isValue,
      literalType, isType, operator, isOperator, switches, isSwitches,
      returned⟩
    cases returned
    exact ⟨record, isRecord, fits, isLabel, isValue, isType, isOperator,
      isSwitches, List.forall_mem_nil _⟩
  · rintro ⟨record, isRecord, fits, isLabel, isValue, isType, isOperator,
      isSwitches, -⟩
    exact ⟨record, isRecord, (), fits, _, isLabel, _, isValue, _, isType,
      _, isOperator, _, isSwitches, rfl⟩

end Payload

namespace Node

/-- The slots of a node, for some way of giving its payload. -/
def slots (payloadGiven : Payload → Document → Prop) (node : Node) :
    List Slot :=
  [.required ["id"] IsText node.id,
    .optional ["type"] true IsText node.declaredType,
    .defaulted ["data"] Payload.empty payloadGiven node.payload]

/-- A document in which a node is found. -/
def ReadFrom (node : Node) (document : Document) : Prop :=
  RecordReading (node.slots Payload.ReadFrom) document

theorem aligned_slots (payloadGiven : Payload → Document → Prop)
    (node : Node) :
    Aligned 0 [idField, typeField, payloadField] (node.slots payloadGiven) :=
  .cons rfl rfl False.elim <| .cons rfl rfl And.left <|
    .cons rfl rfl (fun _ => rfl) .nil

theorem reads : Reads read? ReadFrom := by
  intro depth document node
  rw [ReadFrom, (node.aligned_slots _).recordReading_iff depth]
  simp only [read?, Option.bind_eq_bind, Option.bind_eq_some_iff,
    guard_eq_some_iff, required?_eq_some_iff reads_text,
    optional?_eq_some_iff reads_text not_isText_null,
    defaulted?_eq_some_iff Payload.reads, slots, List.zip_cons_cons,
    List.zip_nil_right, List.forall_mem_cons]
  constructor
  · rintro ⟨record, isRecord, _, fits, id, isId, declaredType, isType,
      payload, isPayload, returned⟩
    cases returned
    exact ⟨record, isRecord, fits, isId, isType, isPayload,
      List.forall_mem_nil _⟩
  · rintro ⟨record, isRecord, fits, isId, isType, isPayload, -⟩
    exact ⟨record, isRecord, (), fits, _, isId, _, isType, _, isPayload, rfl⟩

end Node

namespace Edge

def slots (edge : Edge) : List Slot :=
  [.required ["source"] IsText edge.source,
    .required ["target"] IsText edge.target,
    .optional ["target_handle", "targetHandle"] true IsText edge.handle]

/-- A document in which an edge is found. -/
def ReadFrom (edge : Edge) (document : Document) : Prop :=
  RecordReading edge.slots document

theorem aligned_slots (edge : Edge) :
    Aligned 0 [sourceField, targetField, handleField] edge.slots :=
  .cons rfl rfl False.elim <| .cons rfl rfl False.elim <|
    .cons rfl rfl And.left .nil

theorem reads : Reads read? ReadFrom := by
  intro depth document edge
  rw [ReadFrom, edge.aligned_slots.recordReading_iff depth]
  simp only [read?, Option.bind_eq_bind, Option.bind_eq_some_iff,
    guard_eq_some_iff, required?_eq_some_iff reads_text,
    optional?_eq_some_iff reads_text not_isText_null, slots,
    List.zip_cons_cons, List.zip_nil_right, List.forall_mem_cons]
  constructor
  · rintro ⟨record, isRecord, _, fits, producer, isProducer, consumer,
      isConsumer, handle, isHandle, returned⟩
    cases returned
    exact ⟨record, isRecord, fits, isProducer, isConsumer, isHandle,
      List.forall_mem_nil _⟩
  · rintro ⟨record, isRecord, fits, isProducer, isConsumer, isHandle, -⟩
    exact ⟨record, isRecord, (), fits, _, isProducer, _, isConsumer, _,
      isHandle, rfl⟩

end Edge

namespace Graph

/-- The slots of a graph, for some ways of giving its nodes and edges. -/
def slots (nodeGiven : Node → Document → Prop)
    (edgeGiven : Edge → Document → Prop) (graph : Graph) : List Slot :=
  [.required ["nodes"] (IsListOf nodeGiven) graph.nodes,
    .required ["edges"] (IsListOf edgeGiven) graph.edges]

/-- A document in which a graph is found. -/
def ReadFrom (graph : Graph) (document : Document) : Prop :=
  RecordReading (graph.slots Node.ReadFrom Edge.ReadFrom) document

theorem aligned_slots (nodeGiven : Node → Document → Prop)
    (edgeGiven : Edge → Document → Prop) (graph : Graph) :
    Aligned 0 [nodesField, edgesField] (graph.slots nodeGiven edgeGiven) :=
  .cons rfl rfl False.elim <| .cons rfl rfl False.elim .nil

theorem reads : Reads read? ReadFrom := by
  intro depth document graph
  rw [ReadFrom, (graph.aligned_slots _ _).recordReading_iff depth]
  simp only [read?, Option.bind_eq_bind, Option.bind_eq_some_iff,
    guard_eq_some_iff, required?_eq_some_iff Node.reads.listOf,
    required?_eq_some_iff Edge.reads.listOf, slots, List.zip_cons_cons,
    List.zip_nil_right, List.forall_mem_cons]
  constructor
  · rintro ⟨record, isRecord, _, fits, nodes, areNodes, edges, areEdges,
      returned⟩
    cases returned
    exact ⟨record, isRecord, fits, areNodes, areEdges, List.forall_mem_nil _⟩
  · rintro ⟨record, isRecord, fits, areNodes, areEdges, -⟩
    exact ⟨record, isRecord, (), fits, _, areNodes, _, areEdges, rfl⟩

/-- A graph is read from the texts that write a document in which it is
found. -/
theorem parse?_eq_some_iff {text : String} {graph : Graph} :
    parse? text = some graph ↔
      ∃ document, Padded document text.toList ∧ graph.ReadFrom document := by
  simp only [parse?, Place.parse?, Option.bind_eq_some_iff,
    Option.map_eq_some_iff, Document.parse?_eq_some_iff]
  constructor
  · rintro ⟨_, ⟨document, padded, rfl⟩, found⟩
    exact ⟨document, padded, (reads 0 document graph).mp found⟩
  · rintro ⟨document, padded, found⟩
    exact ⟨_, ⟨document, padded, rfl⟩, (reads 0 document graph).mpr found⟩

end Graph

end Editor

end PipeGraph
