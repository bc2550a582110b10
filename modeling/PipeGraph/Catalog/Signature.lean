import PipeGraph.Json.Record
import PipeGraph.Text.Part

/-!
# Command signatures

A command as the shell describes it: its name and category, and the types that
it accepts and produces.  Parameter declarations are kept as they come.
-/

namespace PipeGraph

open Json

/-- A type that a command accepts, with the type that it then produces. -/
structure TypeSignature where
  input : String
  output : String
  deriving DecidableEq, Repr

/-- The signature of a command. -/
structure Signature where
  name : String
  category : String
  commandType : String
  description : String
  params : Value
  inputOutput : List TypeSignature
  searchTerms : String

variable {source : Type} [Source source]

namespace TypeSignature

/-- The field of the accepted type. -/
def inputField : Field := ⟨0, ["input"], false⟩

/-- The field of the produced type. -/
def outputField : Field := ⟨1, ["output"], false⟩

/-- The types that a record describes. -/
def read? (input : source) : Option TypeSignature := do
  let record ← Record.of? input
  guard (record.fits 2)
  let accepted ← record.required? inputField Source.text?
  let produced ← record.required? outputField Source.text?
  return ⟨accepted, produced⟩

/-- The JSON value of a pair of types. -/
def toValue (types : TypeSignature) : Value :=
  .ofMembers [("input", .string types.input), ("output", .string types.output)]

end TypeSignature

namespace Signature

/-- The field of the name. -/
def nameField : Field := ⟨0, ["name"], false⟩

/-- The field of the category. -/
def categoryField : Field := ⟨1, ["category"], false⟩

/-- The field of the command type. -/
def commandTypeField : Field := ⟨2, ["command_type"], false⟩

/-- The field of the description. -/
def descriptionField : Field := ⟨3, ["description"], true⟩

/-- The field of the parameter declarations. -/
def paramsField : Field := ⟨4, ["params"], true⟩

/-- The field of the accepted and produced types. -/
def inputOutputField : Field := ⟨5, ["input_output"], true⟩

/-- The field of the search terms. -/
def searchTermsField : Field := ⟨6, ["search_terms"], true⟩

/-- The signature that a record describes. -/
def read? (input : source) : Option Signature := do
  let record ← Record.of? input
  guard (record.fits 7)
  let name ← record.required? nameField Source.text?
  let category ← record.required? categoryField Source.text?
  let commandType ← record.required? commandTypeField Source.text?
  let description ← record.defaulted? descriptionField "" Source.text?
  let params ← record.defaulted? paramsField .null Source.value?
  let inputOutput ←
    record.defaulted? inputOutputField [] (listOf? TypeSignature.read?)
  let searchTerms ← record.defaulted? searchTermsField "" Source.text?
  return ⟨name, category, commandType, description, params, inputOutput,
    searchTerms⟩

/-- The JSON value of a signature. -/
def toValue (signature : Signature) : Value :=
  .ofMembers
    [("name", .string signature.name),
      ("category", .string signature.category),
      ("command_type", .string signature.commandType),
      ("description", .string signature.description),
      ("params", signature.params),
      ("input_output",
        .array (signature.inputOutput.map TypeSignature.toValue)),
      ("search_terms", .string signature.searchTerms)]

/-- Whether a filter selects the command: its name or its category contains
the filter, which is so for every command when the filter is empty. -/
def matchesFilter (filter : String) (signature : Signature) : Bool :=
  filter.isEmpty || Text.contains filter.toList signature.name.toList ||
    Text.contains filter.toList signature.category.toList

/-- Whether the command takes input from a pipe in one of its uses. -/
def hasInput (signature : Signature) : Bool :=
  signature.inputOutput.any fun types => types.input != "nothing"

end Signature

/-- The signatures that an array of records describes. -/
def readSignatures? (input : source) : Option (List Signature) :=
  listOf? Signature.read? input

end PipeGraph
