/-!
# Literal types

A data node holds raw text together with the type that governs how the shell
reads that text.  The text itself is never interpreted here; the type is known
by its name only.
-/

namespace PipeGraph

/-- The value category of a literal. -/
inductive LiteralType where
  | int
  | float
  | string
  | duration
  | filesize
  | boolean
  | datetime
  deriving DecidableEq, Repr

namespace LiteralType

/-- Every literal type, in the order in which they are listed to users. -/
def all : List LiteralType :=
  [int, float, string, duration, filesize, boolean, datetime]

/-- The name under which graphs and messages mention a literal type. -/
def name : LiteralType → String
  | int => "int"
  | float => "float"
  | string => "string"
  | duration => "duration"
  | filesize => "filesize"
  | boolean => "boolean"
  | datetime => "datetime"

/-- The literal type of a given name, when there is one. -/
def ofName? (name : String) : Option LiteralType :=
  all.find? fun literalType => literalType.name == name

theorem mem_all (literalType : LiteralType) : literalType ∈ all := by
  cases literalType <;> simp [all]

/-- No two literal types share a name. -/
@[simp]
theorem ofName?_name (literalType : LiteralType) :
    ofName? literalType.name = some literalType := by
  cases literalType <;> decide

end LiteralType

end PipeGraph
