import PipeGraph.Json.Document

/-!
# JSON values

A value is what is kept of a document: numbers are 64-bit integers or doubles,
strings are texts, and an object holds every key once, in the order of the
keys' code points.  Doubles are held by their IEEE 754 bits, so that equality
of values is equality of what was kept.
-/

namespace PipeGraph

namespace Json

/-- A kept JSON value. -/
inductive Value where
  | null
  | bool (value : Bool)
  | int (value : Int)
  | double (bits : UInt64)
  | string (text : String)
  | array (items : List Value)
  | object (members : List (String × Value))

namespace Value

instance : Inhabited Value where
  default := null

/-- Put a member into a list of members sorted by key, in place of an earlier
member of the same key. -/
def insertMember (key : String) (value : Value) :
    List (String × Value) → List (String × Value)
  | [] => [(key, value)]
  | (other, held) :: rest =>
      if key < other then (key, value) :: (other, held) :: rest
      else if key = other then (key, value) :: rest
      else (other, held) :: insertMember key value rest

/-- The object with the given members, of which the last of each key counts. -/
def ofMembers (members : List (String × Value)) : Value :=
  object (members.foldl
    (fun sorted (key, value) => insertMember key value sorted) [])

end Value

end Json

end PipeGraph
