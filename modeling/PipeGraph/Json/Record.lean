import PipeGraph.Json.Keep

/-!
# Records

A record is a JSON object that gives its fields by name, or a JSON array that
gives them by position.  An object may hold members of other names, which are
skipped, but none of its known names twice.  An array may not be longer than
the record, and it may be shorter only by fields that may be left off.

Records are read from two sources: from a place in a text, where everything
that is not asked for stays unread, and from a value that has already been
kept.
-/

namespace PipeGraph

namespace Json

/-- What a record reader asks of the JSON that it reads. -/
class Source (source : Type) where
  isNull : source → Bool
  text? : source → Option String
  items? : source → Option (List source)
  members? : source → Option (List (String × source))
  value? : source → Option Value

/-- A document within a text, with the number of arrays and objects around
it. -/
structure Place where
  depth : Nat
  document : Document

namespace Place

/-- Whether the place holds a null. -/
def isNull (place : Place) : Bool :=
  match place.document with
  | .null => true
  | _ => false

/-- The text of a string. -/
def text? (place : Place) : Option String :=
  match place.document with
  | .string units => StringUnit.text? units
  | _ => none

/-- A place one level further inside. -/
def inside (place : Place) (document : Document) : Place :=
  ⟨place.depth + 1, document⟩

/-- The items of an array. -/
def items? (place : Place) : Option (List Place) :=
  match place.document with
  | .array items => some (items.map place.inside)
  | _ => none

/-- The members of an object, whose keys all have to denote texts. -/
def members? (place : Place) : Option (List (String × Place)) :=
  match place.document with
  | .object members =>
      members.mapM fun (key, document) =>
        (StringUnit.text? key).map fun name => (name, place.inside document)
  | _ => none

/-- The value of the whole place. -/
def value? (place : Place) : Option Value :=
  place.document.keep? (nestingLimit - place.depth)

/-- The outermost place of a text. -/
def parse? (text : String) : Option Place :=
  (Document.parse? text).map (Place.mk 0)

instance : Source Place where
  isNull := isNull
  text? := text?
  items? := items?
  members? := members?
  value? := value?

end Place

namespace Value

/-- Whether the value is null. -/
def isNull : Value → Bool
  | null => true
  | _ => false

/-- The text of a string. -/
def text? : Value → Option String
  | string text => some text
  | _ => none

/-- The items of an array. -/
def items? : Value → Option (List Value)
  | array items => some items
  | _ => none

/-- The members of an object. -/
def members? : Value → Option (List (String × Value))
  | object members => some members
  | _ => none

instance : Source Value where
  isNull := isNull
  text? := text?
  items? := items?
  members? := members?
  value? := some

end Value

variable {source : Type} [Source source] {result : Type}

/-- The items of an array, each read in the same way. -/
def listOf? (read : source → Option result) (input : source) :
    Option (List result) :=
  (Source.items? input).bind fun items => items.mapM read

/-- A field of a record: its position in an array, the names under which an
object may give it, and whether an array may end before it. -/
structure Field where
  position : Nat
  names : List String
  mayBeLeftOff : Bool

/-- The fields of a record as they are given, before they are read. -/
inductive Record (source : Type) where
  | byName (members : List (String × source))
  | byPosition (items : List source)

namespace Record

/-- The record that an object or an array gives. -/
def of? (input : source) : Option (Record source) :=
  match Source.members? input with
  | some members => some (byName members)
  | none => (Source.items? input).map byPosition

/-- Whether the record gives no more than `count` fields by position. -/
def fits (count : Nat) : Record source → Bool
  | byName _ => true
  | byPosition items => items.length ≤ count

/-- What is given for a field: nothing, or the one thing given for it.  Fails
where an object gives the field twice or an array wrongly ends before it. -/
def given? (field : Field) : Record source → Option (Option source)
  | byName members =>
      match members.filter fun (name, _) => field.names.contains name with
      | [] => some none
      | [(_, found)] => some (some found)
      | _ => none
  | byPosition items =>
      match items[field.position]? with
      | some found => some (some found)
      | none => if field.mayBeLeftOff then some none else none

/-- A field that has to be given. -/
def required? (record : Record source) (field : Field)
    (read : source → Option result) : Option result := do
  match ← record.given? field with
  | none => none
  | some found => read found

/-- A field that may be missing or null. -/
def optional? (record : Record source) (field : Field)
    (read : source → Option result) : Option (Option result) := do
  match ← record.given? field with
  | none => some none
  | some found =>
      if Source.isNull found then some none else (read found).map some

/-- A field that has a default when it is missing. -/
def defaulted? (record : Record source) (field : Field) (default : result)
    (read : source → Option result) : Option result := do
  match ← record.given? field with
  | none => some default
  | some found => read found

end Record

end Json

end PipeGraph
