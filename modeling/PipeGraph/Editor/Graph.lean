/-!
# Editor graphs

The graph that a node editor exports, before anything about it has been
checked: nodes with a declared type and a payload, and edges that name their
two ends.
-/

namespace PipeGraph

namespace Editor

/-- What a node carries besides its type.  Which fields matter depends on the
type. -/
structure Payload where
  /-- The name of a command, and the text shown for any other node. -/
  label : Option String
  /-- The raw text of a literal. -/
  value : Option String
  literalType : Option String
  /-- The token of an operator. -/
  operator : Option String
  /-- The switches of a command, as declared in its signature. -/
  switches : Option (List String)
  deriving DecidableEq, Repr

/-- The payload of a node that carries nothing. -/
def Payload.empty : Payload := ⟨none, none, none, none, none⟩

/-- A node of the editor. -/
structure Node where
  id : String
  declaredType : Option String
  payload : Payload
  deriving DecidableEq, Repr

/-- An edge from the node that produces a value to the one that uses it. -/
structure Edge where
  source : String
  target : String
  handle : Option String
  deriving DecidableEq, Repr

/-- A graph as the editor exports it. -/
structure Graph where
  nodes : List Node
  edges : List Edge
  deriving DecidableEq, Repr

end Editor

end PipeGraph
