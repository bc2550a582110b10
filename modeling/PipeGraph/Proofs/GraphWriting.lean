import PipeGraph.Proofs.GraphForm

/-!
# Writing editor graphs

All the ways to write an editor graph as JSON: every record as an object or as
an array, with fields in any order, under either name, left out or null where
they have no value, and among members of any other name.  However it was
written, the graph is read back.
-/

namespace PipeGraph

open Json

namespace Editor

namespace Payload

/-- A document written for a payload. -/
def Writing (payload : Payload) (document : Document) : Prop :=
  RecordWriting payload.slots document

theorem apart_slots (payload : Payload) :
    (payload.slots.map Slot.names).Pairwise List.Disjoint := by
  simp [slots, Slot.optional]

theorem readFrom_of_writing (payload : Payload) (document : Document)
    (writing : payload.Writing document) : payload.ReadFrom document :=
  writing.reading payload.apart_slots

end Payload

namespace Node

/-- A document written for a node. -/
def Writing (node : Node) (document : Document) : Prop :=
  RecordWriting (node.slots Payload.Writing) document

theorem apart_slots (payloadGiven : Payload → Document → Prop) (node : Node) :
    ((node.slots payloadGiven).map Slot.names).Pairwise List.Disjoint := by
  simp [slots, Slot.required, Slot.optional, Slot.defaulted]

theorem readFrom_of_writing (node : Node) (document : Document)
    (writing : node.Writing document) : node.ReadFrom document := by
  refine (writing.reading (node.apart_slots _)).mono ?_
  exact .cons (.refl _) <| .cons (.refl _) <|
    .cons ⟨rfl, Payload.readFrom_of_writing _, fun same => same,
      fun same => same⟩ .nil

end Node

namespace Edge

/-- A document written for an edge. -/
def Writing (edge : Edge) (document : Document) : Prop :=
  RecordWriting edge.slots document

theorem apart_slots (edge : Edge) :
    (edge.slots.map Slot.names).Pairwise List.Disjoint := by
  simp [slots, Slot.required, Slot.optional]

theorem readFrom_of_writing (edge : Edge) (document : Document)
    (writing : edge.Writing document) : edge.ReadFrom document :=
  writing.reading edge.apart_slots

end Edge

namespace Graph

/-- A document written for a graph. -/
def Writing (graph : Graph) (document : Document) : Prop :=
  RecordWriting (graph.slots Node.Writing Edge.Writing) document

theorem apart_slots (nodeGiven : Node → Document → Prop)
    (edgeGiven : Edge → Document → Prop) (graph : Graph) :
    ((graph.slots nodeGiven edgeGiven).map Slot.names).Pairwise
      List.Disjoint := by
  simp [slots, Slot.required]

theorem readFrom_of_writing (graph : Graph) (document : Document)
    (writing : graph.Writing document) : graph.ReadFrom document := by
  refine (writing.reading (graph.apart_slots _ _)).mono ?_
  exact .cons
      ⟨rfl, fun _ isList => isList.mono Node.readFrom_of_writing, id, id⟩ <|
    .cons
      ⟨rfl, fun _ isList => isList.mono Edge.readFrom_of_writing, id, id⟩ .nil

/-- However a graph is written, it is what its text is read as. -/
theorem parse?_of_writing {graph : Graph} {document : Document}
    {text : String} (writing : graph.Writing document)
    (written : Padded document text.toList) : parse? text = some graph :=
  parse?_eq_some_iff.mpr
    ⟨document, written, graph.readFrom_of_writing document writing⟩

end Graph

section Sample

/-- A text with one plain unit for each character. -/
def plainly (text : String) : List StringUnit :=
  text.toList.map StringUnit.character

theorem denotes_plainly (text : String) :
    Denotes (plainly text) text.toList := by
  rw [plainly]
  induction text.toList with
  | nil => exact .nil
  | cons character characters ih => exact .character character ih

theorem isText_plainly (text : String) :
    IsText text (.string (plainly text)) :=
  ⟨_, rfl, denotes_plainly text⟩

def mixedGraph : Graph :=
  ⟨[⟨"a", none, ⟨some "ls", none, none, none, none⟩⟩,
      ⟨"b", some "result", Payload.empty⟩],
    [⟨"a", "b", none⟩]⟩

/-- Objects and arrays, an escaped key, a null under a second name and a
repeated member that no reader looks at. -/
def mixedText : String :=
  "\x7b\"edges\": [[\"a\", \"b\"]], \"x\": [1e999, \"\\ud800\"], \"x\": null,
  \"nodes\": [\x7b\"data\": \x7b\"literalType\": null, \"label\": \"ls\"\x7d,
  \"\\u0069d\": \"a\"\x7d, [\"b\", \"result\"]]\x7d"

def mixedPayload : Document :=
  .object [(plainly "literalType", .null),
    (plainly "label", .string (plainly "ls"))]

def mixedNode : Document :=
  .object [(plainly "data", mixedPayload),
    ([.code 0x69, .character 'd'], .string (plainly "a"))]

def mixedNodes : Document :=
  .array [mixedNode,
    .array [.string (plainly "b"), .string (plainly "result")]]

def mixedEdges : Document :=
  .array [.array [.string (plainly "a"), .string (plainly "b")]]

def mixedUnknown : Document :=
  .array [.number ⟨false, [1], [], some (false, [9, 9, 9])⟩,
    .string [.code 0xD800]]

def mixedDocument : Document :=
  .object [(plainly "edges", mixedEdges), (plainly "x", mixedUnknown),
    (plainly "x", .null), (plainly "nodes", mixedNodes)]

theorem writing_mixedPayload :
    Payload.Writing ⟨some "ls", none, none, none, none⟩ mixedPayload := by
  refine @RecordWriting.object _ _ _
    [("label", .string (plainly "ls")), ("literalType", .null)] []
    (.cons ⟨denotes_plainly "literalType", rfl⟩ <|
      .cons ⟨denotes_plainly "label", rfl⟩ .nil)
    (List.Perm.swap _ _ _) ?_ (List.forall_mem_nil _)
  exact .give (by decide) (.inr ⟨"ls", rfl, isText_plainly "ls"⟩) <|
    .skip rfl <| .give (by decide) (.inl ⟨rfl, rfl⟩) <|
      .skip rfl <| .skip rfl .nil

theorem writing_mixedNode :
    Node.Writing ⟨"a", none, ⟨some "ls", none, none, none, none⟩⟩
      mixedNode := by
  refine @RecordWriting.object _ _ _
    [("id", .string (plainly "a")), ("data", mixedPayload)] []
    (.cons ⟨denotes_plainly "data", rfl⟩ <| .cons ⟨?_, rfl⟩ .nil)
    (List.Perm.swap _ _ _) ?_ (List.forall_mem_nil _)
  · exact .code (.inl (by decide)) (.character 'd' .nil)
  · exact .give (by decide) (isText_plainly "a") <| .skip rfl <|
      .give (by decide) writing_mixedPayload .nil

theorem writing_mixedNodes :
    IsListOf Node.Writing mixedGraph.nodes mixedNodes := by
  refine ⟨_, rfl, .cons writing_mixedNode <| .cons (.array ?_) .nil⟩
  refine .give (isText_plainly "b") <|
    .give (.inr ⟨"result", rfl, isText_plainly "result"⟩) <| .ended ?_
  exact List.forall_mem_singleton.mpr rfl

theorem writing_mixedEdges :
    IsListOf Edge.Writing mixedGraph.edges mixedEdges := by
  refine ⟨_, rfl, .cons (.array ?_) .nil⟩
  refine .give (isText_plainly "a") <| .give (isText_plainly "b") <| .ended ?_
  exact List.forall_mem_singleton.mpr ⟨rfl, rfl⟩

theorem writing_mixedDocument : mixedGraph.Writing mixedDocument := by
  refine @RecordWriting.object _ _ _
    [("nodes", mixedNodes), ("edges", mixedEdges)]
    [("x", mixedUnknown), ("x", .null)]
    (.cons ⟨denotes_plainly "edges", rfl⟩ <|
      .cons ⟨denotes_plainly "x", rfl⟩ <| .cons ⟨denotes_plainly "x", rfl⟩ <|
        .cons ⟨denotes_plainly "nodes", rfl⟩ .nil)
    (List.perm_append_singleton _ [_, _, _]) ?_ ?_
  · exact .give (by decide) writing_mixedNodes <|
      .give (by decide) writing_mixedEdges .nil
  · simp [Graph.slots, Slot.required]

theorem parse?_mixedText :
    mixedGraph.Writing mixedDocument ∧
      Padded mixedDocument mixedText.toList ∧
        Graph.parse? mixedText = some mixedGraph := by
  have written : Padded mixedDocument mixedText.toList :=
    Document.parse?_eq_some_iff.mp (by decide +kernel)
  exact ⟨writing_mixedDocument, written,
    Graph.parse?_of_writing writing_mixedDocument written⟩

end Sample

end Editor

end PipeGraph
