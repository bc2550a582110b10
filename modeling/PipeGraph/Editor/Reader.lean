import PipeGraph.Editor.Graph
import PipeGraph.Json.Record

/-!
# Reading editor graphs

The JSON form of an editor graph: every part is a record, with a second name
for the two fields that editors spell in two ways.
-/

namespace PipeGraph

open Json

namespace Editor

variable {source : Type} [Source source]

namespace Payload

/-- The field of the label. -/
def labelField : Field := ⟨0, ["label"], false⟩

/-- The field of the literal text. -/
def valueField : Field := ⟨1, ["value"], false⟩

/-- The field of the literal type. -/
def literalTypeField : Field := ⟨2, ["literal_type", "literalType"], true⟩

/-- The field of the operator token. -/
def operatorField : Field := ⟨3, ["operator"], false⟩

/-- The field of the switches. -/
def switchesField : Field := ⟨4, ["switches"], true⟩

/-- The payload that a record describes. -/
def read? (input : source) : Option Payload := do
  let record ← Record.of? input
  guard (record.fits 5)
  let label ← record.optional? labelField Source.text?
  let value ← record.optional? valueField Source.text?
  let literalType ← record.optional? literalTypeField Source.text?
  let operator ← record.optional? operatorField Source.text?
  let switches ← record.optional? switchesField (listOf? Source.text?)
  return ⟨label, value, literalType, operator, switches⟩

end Payload

namespace Node

/-- The field of the node's id. -/
def idField : Field := ⟨0, ["id"], false⟩

/-- The field of the declared type. -/
def typeField : Field := ⟨1, ["type"], true⟩

/-- The field of the payload. -/
def payloadField : Field := ⟨2, ["data"], true⟩

/-- The node that a record describes. -/
def read? (input : source) : Option Node := do
  let record ← Record.of? input
  guard (record.fits 3)
  let id ← record.required? idField Source.text?
  let declaredType ← record.optional? typeField Source.text?
  let payload ← record.defaulted? payloadField Payload.empty Payload.read?
  return ⟨id, declaredType, payload⟩

end Node

namespace Edge

/-- The field of the producing node. -/
def sourceField : Field := ⟨0, ["source"], false⟩

/-- The field of the consuming node. -/
def targetField : Field := ⟨1, ["target"], false⟩

/-- The field of the handle at the consuming node. -/
def handleField : Field := ⟨2, ["target_handle", "targetHandle"], true⟩

/-- The edge that a record describes. -/
def read? (input : source) : Option Edge := do
  let record ← Record.of? input
  guard (record.fits 3)
  let producer ← record.required? sourceField Source.text?
  let consumer ← record.required? targetField Source.text?
  let handle ← record.optional? handleField Source.text?
  return ⟨producer, consumer, handle⟩

end Edge

namespace Graph

/-- The field of the nodes. -/
def nodesField : Field := ⟨0, ["nodes"], false⟩

/-- The field of the edges. -/
def edgesField : Field := ⟨1, ["edges"], false⟩

/-- The graph that a record describes. -/
def read? (input : source) : Option Graph := do
  let record ← Record.of? input
  guard (record.fits 2)
  let nodes ← record.required? nodesField (listOf? Node.read?)
  let edges ← record.required? edgesField (listOf? Edge.read?)
  return ⟨nodes, edges⟩

/-- The graph that a JSON text describes. -/
def parse? (text : String) : Option Graph :=
  (Place.parse? text).bind read?

end Graph

end Editor

end PipeGraph
