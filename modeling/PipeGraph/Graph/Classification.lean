import PipeGraph.Editor.Graph
import PipeGraph.Error

/-!
# Classification

The rules by which editor nodes get their roles.  A node declares a type; type
mappings let a host use type names of its own for the four canonical ones.  A
node is the result node by its type or by its id.
-/

namespace PipeGraph

/-- Decides whether a text is a valid literal of a type. -/
abbrev LiteralValidator := String → LiteralType → Bool

/-- How editor graphs are checked. -/
structure Rules where
  /-- Pairs of a host's type name and the canonical name that it stands for.
  Of several pairs for one name the last counts. -/
  typeMappings : List (String × String)
  validator : Option LiteralValidator

namespace Rules

/-- No mappings and no validator. -/
def plain : Rules := ⟨[], none⟩

/-- Add a type mapping, which wins over earlier ones. -/
def withTypeMapping (userType canonicalType : String) (rules : Rules) :
    Rules :=
  { rules with
    typeMappings := rules.typeMappings ++ [(userType, canonicalType)] }

/-- The canonical name of a declared type. -/
def canonicalType (rules : Rules) (declared : String) : String :=
  (rules.typeMappings.reverse.lookup declared).getD declared

/-- The canonical name of a node's type; a missing type counts as an empty
name. -/
def nodeType (rules : Rules) (node : Editor.Node) : String :=
  rules.canonicalType (node.declaredType.getD "")

end Rules

/-- The canonical type name of commands. -/
def commandType : String := "command"

/-- The canonical type name of literals. -/
def dataType : String := "data"

/-- The canonical type name of operators. -/
def operatorType : String := "operator"

/-- The canonical type name of the result node, which is also its reserved
id. -/
def resultType : String := "result"

namespace Editor.Payload

/-- The role of a command node. -/
def commandRole (payload : Payload) : Except RoleFault Role :=
  match payload.label with
  | none => .error .noLabel
  | some name => .ok (.command name (payload.switches.getD []))

/-- The role of a data node. -/
def dataRole (payload : Payload) : Except RoleFault Role :=
  match payload.value, payload.literalType with
  | none, _ => .error .noValue
  | some _, none => .error .noLiteralType
  | some text, some name =>
      match LiteralType.ofName? name with
      | none => .error (.unknownLiteralType name)
      | some literalType => .ok (.data text literalType)

/-- The role of an operator node, whose token may also stand in its label. -/
def operatorRole (payload : Payload) : Except RoleFault Role :=
  match payload.operator.or payload.label with
  | none => .error .noOperator
  | some token =>
      match Operator.ofToken? token with
      | none => .error (.unknownOperator token)
      | some operator => .ok (.operation operator)

end Editor.Payload

/-- The role of an editor node. -/
def Rules.classify (rules : Rules) (node : Editor.Node) :
    Except RoleFault Role :=
  let canonical := rules.nodeType node
  if node.id = resultType ∨ canonical = resultType then .ok .result
  else if canonical = commandType then node.payload.commandRole
  else if canonical = dataType then node.payload.dataRole
  else if canonical = operatorType then node.payload.operatorRole
  else .error (.unknownType canonical)

end PipeGraph
