import PipeGraph.Json.Number
import PipeGraph.Json.Parser

/-!
# Keeping a document as a value

A document can be kept when its strings denote texts, its numerals are not too
large, and its arrays and objects are not nested too deeply.
-/

namespace PipeGraph

namespace Json

/-- How many arrays and objects may enclose one another in what is kept,
counted from the start of the text. -/
def nestingLimit : Nat := 127

namespace Document

mutual

/-- The value of a document that may open at most `room` nested arrays and
objects. -/
def keep? (room : Nat) : Document → Option Value
  | null => some .null
  | bool value => some (.bool value)
  | number numeral => numeral.value?
  | string units => (StringUnit.text? units).map .string
  | array items =>
      match room with
      | 0 => none
      | room + 1 => (keepItems? room items).map .array
  | object members =>
      match room with
      | 0 => none
      | room + 1 => (keepMembers? room members).map Value.ofMembers

/-- The values of all items of an array. -/
def keepItems? (room : Nat) : List Document → Option (List Value)
  | [] => some []
  | item :: others => do
      let value ← item.keep? room
      let values ← keepItems? room others
      return value :: values

/-- The members of an object with their keys as texts. -/
def keepMembers? (room : Nat) :
    List (List StringUnit × Document) → Option (List (String × Value))
  | [] => some []
  | (key, member) :: others => do
      let name ← StringUnit.text? key
      let value ← member.keep? room
      let values ← keepMembers? room others
      return (name, value) :: values

end

end Document

/-- The value that a whole text writes. -/
def Value.parse? (text : String) : Option Value := do
  let document ← Document.parse? text
  document.keep? nestingLimit

end Json

end PipeGraph
