import PipeGraph.Json.Complaints
import PipeGraph.Json.Record
import PipeGraph.Log.Logged

/-!
# Script engines

Scripts are run by an engine outside the library.  It answers every script with
the JSON text of a value, with an error, or by saying that the value cannot be
shown; hosts show the outcome of that answer.  What a host wants of an engine is
written as a dialogue, and to hold it with an engine leaves behind the scripts
that the engine received.
-/

namespace PipeGraph

open Json

/-- The answer of an engine to one script. -/
inductive EngineAnswer where
  | success (valueJson : String)
  | failure (errorJson : String)
  | undisplayable
  deriving DecidableEq, Repr

/-- What a host shows after running a script. -/
inductive Outcome where
  | value (value : Value)
  | failed (text : String)

namespace EngineAnswer

/-- The field that tells the answers apart. -/
def typeField : Field := ⟨0, ["type"], false⟩

/-- The field of the value of a successful script. -/
def valueField : Field := ⟨1, ["value_json"], false⟩

/-- The field of the error of a failed script. -/
def errorField : Field := ⟨1, ["error_json"], false⟩

/-- The answer that a record describes.  All of the record is kept while it is
read, also the fields that do not matter. -/
def read? {source : Type} [Source source] (input : source) :
    Option EngineAnswer := do
  let _ ← Source.value? input
  let record ← Record.of? input
  let type ← record.required? typeField Source.text?
  if type = "success" then do
    guard (record.fits 2)
    (record.required? valueField Source.text?).map success
  else if type = "failure" then do
    guard (record.fits 2)
    (record.required? errorField Source.text?).map failure
  else if type = "serialize_failure" then do
    guard (record.fits 1)
    return undisplayable
  else none

/-- The answer that a JSON text describes. -/
def parse? (text : String) : Option EngineAnswer :=
  (Place.parse? text).bind read?

/-- The JSON value of an answer. -/
def toValue : EngineAnswer → Value
  | success valueJson =>
      .ofMembers
        [("type", .string "success"), ("value_json", .string valueJson)]
  | failure errorJson =>
      .ofMembers
        [("type", .string "failure"), ("error_json", .string errorJson)]
  | undisplayable => .ofMembers [("type", .string "serialize_failure")]

/-- What to show for an answer. -/
def outcome (answer : EngineAnswer) (complaints : Complaints := .silent) :
    Outcome :=
  match answer with
  | success valueJson =>
      match Value.parse? valueJson with
      | some value => .value value
      | none => .failed (withDetail "Engine returned invalid JSON:"
          (complaints.value valueJson))
  | failure errorJson => .failed errorJson
  | undisplayable =>
      .failed "Computation succeeded, but the result value cannot be displayed"

/-- What to show for an answer, with a failure reported in the log. -/
def reported {ε : Type} (complaints : Complaints) (answer : EngineAnswer) :
    Logged ε Outcome := do
  match answer with
  | failure errorJson => Logged.emit (.scriptFailed errorJson)
  | _ => pure ()
  return answer.outcome complaints

end EngineAnswer

/-- A script engine, known by how it answers. -/
structure Engine where
  answer : String → EngineAnswer

/-- A result that took some scripts to find, in the order in which the engine
received them. -/
structure Consulted (α : Type) where
  scripts : List String
  result : α

/-- A computation that has scripts run and goes on with the answers. -/
inductive Dialogue (α : Type) where
  | done (result : α)
  | ask (script : String) (next : EngineAnswer → Dialogue α)

namespace Dialogue

variable {α β ε : Type}

/-- Go on with the result of a dialogue. -/
def andThen (next : α → Dialogue β) : Dialogue α → Dialogue β
  | done result => next result
  | ask script rest => ask script fun answer => (rest answer).andThen next

instance : Monad Dialogue where
  pure := done
  bind dialogue next := dialogue.andThen next

/-- Hold a dialogue with an engine. -/
def consult (engine : Engine) : Dialogue α → Consulted α
  | done result => ⟨[], result⟩
  | ask script next =>
      let rest := (next (engine.answer script)).consult engine
      ⟨script :: rest.scripts, rest.result⟩

/-- Have one script run. -/
def execute (script : String) : Dialogue EngineAnswer := ask script done

/-- Have a script run and find out what to show. -/
def run (script : String) (complaints : Complaints) :
    Dialogue (Logged ε Outcome) := do
  let answer ← execute script
  return answer.reported complaints

end Dialogue

/-- Run a script and find out what to show. -/
def Engine.run {ε : Type} (engine : Engine) (script : String)
    (complaints : Complaints := .silent) : Consulted (Logged ε Outcome) :=
  (Dialogue.run script complaints).consult engine

end PipeGraph
