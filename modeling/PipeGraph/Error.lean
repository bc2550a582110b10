import PipeGraph.Graph.Role

/-!
# Errors

Why a graph cannot be compiled, a catalog cannot be read or a foreign graph
cannot be converted.  Every error is the cause of a failure; its wording stands
in one function for each type.
-/

namespace PipeGraph

/-- A defect in how the parts of a graph refer to one another. -/
inductive ReferenceFault where
  | repeatedNode (nodeId : NodeId)
  | noResult
  | severalResults (count : Nat)
  | undeclaredEnd (source target missing : NodeId)
  | unknownNode (nodeId consumerId : NodeId)
  /-- A defect that a host found, in its own words. -/
  | stated (message : String)
  deriving DecidableEq, Repr

/-- The wording of a defect of reference. -/
def ReferenceFault.message : ReferenceFault → String
  | repeatedNode nodeId =>
      "node id '" ++ nodeId ++ "' is declared more than once"
  | noResult => "graph has no result node"
  | severalResults count =>
      "graph has " ++ toString count ++ " result nodes, expected 1"
  | undeclaredEnd source target missing =>
      "edge '" ++ source ++ "' -> '" ++ target ++
        "' references undeclared node '" ++ missing ++ "'"
  | unknownNode nodeId consumerId =>
      "node '" ++ nodeId ++ "' required by '" ++ consumerId ++
        "' is not in the graph"
  | stated message => message

/-- Why a node has no role. -/
inductive RoleFault where
  | noLabel
  | noValue
  | noLiteralType
  | unknownLiteralType (name : String)
  | noOperator
  | unknownOperator (token : String)
  | unknownType (name : String)
  /-- A reason that a host found, in its own words. -/
  | stated (message : String)
  deriving DecidableEq, Repr

/-- The wording of the reason why a node has no role. -/
def RoleFault.message : RoleFault → String
  | noLabel => "command node has no label"
  | noValue => "data node has no value"
  | noLiteralType => "data node has no literal type"
  | unknownLiteralType name => "unknown literal type '" ++ name ++ "'"
  | noOperator => "operator node has no operator"
  | unknownOperator token => "unknown operator '" ++ token ++ "'"
  | unknownType name => "unknown node type '" ++ name ++ "'"
  | stated message => message

/-- A defect in the handles of an operator's two incoming edges. -/
inductive HandleFault where
  | named (source : NodeId) (tag : String)
  | missing (source : NodeId)
  | repeated (slot : Operand)
  | incomplete
  /-- A defect that a host found, in its own words. -/
  | stated (message : String)
  deriving DecidableEq, Repr

/-- The wording of a defect of handles. -/
def HandleFault.message : HandleFault → String
  | named source tag =>
      "edge from '" ++ source ++ "' has handle '" ++ tag ++
        "', expected 'A' or 'B'"
  | missing source =>
      "edge from '" ++ source ++ "' has no handle, expected 'A' or 'B'"
  | repeated slot => "handle '" ++ slot.tag ++ "' is connected more than once"
  | incomplete => "both 'A' and 'B' must be connected"
  | stated message => message

/-- A text followed by the detail that a reader gives, if it gives one. -/
def withDetail (text : String) : Option String → String
  | none => text
  | some detail => text ++ " " ++ detail

/-- Why a graph cannot be compiled. -/
inductive CompileError where
  | unreadable (detail : Option String)
  | malformedReference (fault : ReferenceFault)
  | unrecognizedRole (nodeId : NodeId) (fault : RoleFault)
  | missingResultProducer
  | ambiguousResultProducer (count : Nat)
  | resultAsInput (consumerId : NodeId)
  | operatorArity (nodeId : NodeId) (count : Nat)
  | operatorHandles (nodeId : NodeId) (fault : HandleFault)
  | invalidLiteral (nodeId : NodeId) (text : String) (literalType : LiteralType)
  | ambiguousPipeInput (nodeId : NodeId) (count : Nat)
  | cyclicFlow (nodeId : NodeId)
  deriving DecidableEq, Repr

/-- The kinds of compile errors, for hosts that tell them apart. -/
inductive ErrorKind where
  | unreadable
  | malformedReference
  | unrecognizedRole
  | missingResultProducer
  | ambiguousResultProducer
  | resultAsInput
  | operatorArity
  | operatorHandles
  | invalidLiteral
  | ambiguousPipeInput
  | cyclicFlow
  deriving DecidableEq, Repr

/-- The name under which a kind of error is reported. -/
def ErrorKind.name : ErrorKind → String
  | unreadable => "JsonParseError"
  | malformedReference => "MalformedGraphReference"
  | unrecognizedRole => "UnrecognizedNodeRole"
  | missingResultProducer => "MissingResultProducer"
  | ambiguousResultProducer => "AmbiguousResultProducer"
  | resultAsInput => "NonTerminalResultEncountered"
  | operatorArity => "OperatorArityViolation"
  | operatorHandles => "OperatorHandleViolation"
  | invalidLiteral => "InvalidLiteral"
  | ambiguousPipeInput => "AmbiguousPipeInput"
  | cyclicFlow => "CyclicFlow"

/-- Who is expected to mend an error: the user who drew the graph, or the
editor, which handed over a graph that breaks its own guarantees. -/
inductive ErrorCategory where
  | userCorrectable
  | internal
  deriving DecidableEq, Repr

namespace ErrorCategory

/-- The name of a category in log lines. -/
def name : ErrorCategory → String
  | userCorrectable => "UserCorrectable"
  | internal => "Internal"

/-- The name of a category in structured errors. -/
def key : ErrorCategory → String
  | userCorrectable => "user_correctable"
  | internal => "internal"

end ErrorCategory

/-- Who is expected to mend an error of a given kind. -/
def ErrorKind.category : ErrorKind → ErrorCategory
  | unreadable | missingResultProducer | ambiguousResultProducer
  | invalidLiteral | ambiguousPipeInput | cyclicFlow => .userCorrectable
  | malformedReference | unrecognizedRole | resultAsInput | operatorArity
  | operatorHandles => .internal

/-- The view of an error that hosts receive. -/
structure StructuredError where
  kind : ErrorKind
  category : ErrorCategory
  message : String
  deriving DecidableEq, Repr

namespace CompileError

/-- The kind of an error. -/
def kind : CompileError → ErrorKind
  | unreadable _ => .unreadable
  | malformedReference _ => .malformedReference
  | unrecognizedRole _ _ => .unrecognizedRole
  | missingResultProducer => .missingResultProducer
  | ambiguousResultProducer _ => .ambiguousResultProducer
  | resultAsInput _ => .resultAsInput
  | operatorArity _ _ => .operatorArity
  | operatorHandles _ _ => .operatorHandles
  | invalidLiteral _ _ _ => .invalidLiteral
  | ambiguousPipeInput _ _ => .ambiguousPipeInput
  | cyclicFlow _ => .cyclicFlow

/-- Who is expected to mend an error. -/
def category (error : CompileError) : ErrorCategory := error.kind.category

/-- Whether the user can mend an error. -/
def isUserCorrectable (error : CompileError) : Bool :=
  error.category == .userCorrectable

/-- The wording of an error. -/
def message : CompileError → String
  | unreadable detail => withDetail "Failed to parse graph JSON:" detail
  | malformedReference fault =>
      "Malformed graph reference: " ++ fault.message
  | unrecognizedRole nodeId fault =>
      "Node '" ++ nodeId ++ "' has an unrecognized role: " ++ fault.message
  | missingResultProducer => "No node is connected to the result node"
  | ambiguousResultProducer count =>
      "Too many nodes are connected to the result node (" ++ toString count ++
        " found, expected 1)"
  | resultAsInput consumerId =>
      "Result node is used as an input of node '" ++ consumerId ++ "'"
  | operatorArity nodeId count =>
      "Operator node '" ++ nodeId ++
        "' requires exactly 2 inputs, but received " ++ toString count
  | operatorHandles nodeId fault =>
      "Operator node '" ++ nodeId ++ "' has invalid input handles: " ++
        fault.message
  | invalidLiteral nodeId text literalType =>
      "Data node '" ++ nodeId ++ "' holds '" ++ text ++
        "', which is not a valid " ++ literalType.name ++ " literal"
  | ambiguousPipeInput nodeId count =>
      "Command node '" ++ nodeId ++ "' has " ++ toString count ++
        " pipe inputs, but at most one is allowed"
  | cyclicFlow nodeId => "Node '" ++ nodeId ++ "' depends on its own output"

/-- The view of an error that hosts receive. -/
def structured (error : CompileError) : StructuredError :=
  ⟨error.kind, error.category, error.message⟩

end CompileError

/-- Why a command catalog cannot be read. -/
structure CatalogError where
  detail : Option String
  deriving DecidableEq, Repr

/-- The wording of a catalog error. -/
def CatalogError.message (error : CatalogError) : String :=
  withDetail "Failed to parse command catalog JSON:" error.detail

/-- Why a graph in a foreign format cannot be converted into an editor graph. -/
structure ConversionError where
  detail : String
  deriving DecidableEq, Repr

/-- The wording of a conversion error. -/
def ConversionError.message (error : ConversionError) : String :=
  "Invalid custom graph data: " ++ error.detail

end PipeGraph
