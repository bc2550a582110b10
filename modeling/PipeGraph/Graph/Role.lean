import PipeGraph.Literal
import PipeGraph.Operator

/-!
# Handles and roles

A handle says which input of its target an edge feeds.  A role says what a node
does: run a command, hold a literal, apply an operator, or receive the result.
-/

namespace PipeGraph

/-- The identity of a node within its graph. -/
abbrev NodeId := String

/-- One of the two inputs of an operator. -/
inductive Operand where
  | left
  | right
  deriving DecidableEq, Repr

/-- The tag of an operand at an edge. -/
def Operand.tag : Operand → String
  | .left => "A"
  | .right => "B"

/-- The input of its target that an edge feeds: an operand of an operator, or
an input known by name, which is a parameter when the target is a command. -/
inductive Handle where
  | operand (slot : Operand)
  | named (tag : String)
  deriving DecidableEq, Repr

namespace Handle

/-- The handle that a tag stands for. -/
def ofTag (tag : String) : Handle :=
  if tag = Operand.left.tag then operand .left
  else if tag = Operand.right.tag then operand .right
  else named tag

/-- The tag of a handle. -/
def tag : Handle → String
  | operand slot => slot.tag
  | named tag => tag

@[simp]
theorem tag_ofTag (tag : String) : (ofTag tag).tag = tag := by
  unfold ofTag
  split
  · simp_all [Handle.tag]
  · split <;> simp_all [Handle.tag]

end Handle

/-- What a node of a graph does. -/
inductive Role where
  | command (name : String) (switches : List String)
  | data (text : String) (literalType : LiteralType)
  | operation (operator : Operator)
  | result
  deriving DecidableEq, Repr

/-- The short name of a role. -/
def Role.kindName : Role → String
  | .command _ _ => "command"
  | .data _ _ => "data"
  | .operation _ => "operator"
  | .result => "result"

end PipeGraph
