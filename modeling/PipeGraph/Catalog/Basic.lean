import PipeGraph.Catalog.Signature
import PipeGraph.Engine

/-!
# Command catalogs

A catalog lists the commands that an editor offers.  It is read from JSON text,
or asked of an engine with a text to fall back on.
-/

namespace PipeGraph

open Json

/-- The script that lists the commands worth offering. -/
def catalogQuery : String :=
  "help commands | where command_type == built-in" ++
    " | where category != core | where category != \"debug\""

/-- The commands that an editor offers, in order. -/
structure Catalog where
  commands : List Signature

namespace Catalog

/-- Read a catalog from JSON text. -/
def fromJson (text : String) (complaints : Complaints := .silent) :
    Logged CatalogError Catalog :=
  match (Place.parse? text).bind readSignatures? with
  | none => Logged.fail ⟨complaints.catalog text⟩
  | some commands => do
      Logged.emit (.catalogLoaded commands.length)
      return ⟨commands⟩

/-- Say why the engine's answer is of no use, and read the fallback. -/
def fallBack (complaints : Complaints) (reason fallback : String) :
    Logged CatalogError Catalog := do
  Logged.emit (.catalogFallback reason)
  fromJson fallback complaints

/-- The catalog that an engine's outcome gives, or else the fallback. -/
def ofOutcome (complaints : Complaints) (fallback : String) :
    Outcome → Logged CatalogError Catalog
  | .failed text => fallBack complaints text fallback
  | .value value =>
      match readSignatures? value with
      | none =>
          fallBack complaints
            (withDetail "engine returned an invalid command list:"
              (complaints.commands value))
            fallback
      | some commands => do
          Logged.emit (.catalogLoadedFromEngine commands.length)
          return ⟨commands⟩

/-- Ask for the commands of an engine, with a text to fall back on when it fails
or answers with anything but a list of commands. -/
def inquiry (complaints : Complaints) (fallback : String) :
    Dialogue (Logged CatalogError Catalog) := do
  let ran ← Dialogue.run catalogQuery complaints
  return ran >>= ofOutcome complaints fallback

/-- The catalog of an engine, or else the fallback. -/
def fromEngine (engine : Engine) (fallback : String)
    (complaints : Complaints := .silent) :
    Consulted (Logged CatalogError Catalog) :=
  (inquiry complaints fallback).consult engine

/-- The first command of a given name. -/
def get? (catalog : Catalog) (name : String) : Option Signature :=
  catalog.commands.find? fun command => command.name == name

/-- The commands that a filter selects, in the order of the catalog. -/
def filter (catalog : Catalog) (filter : String) : List Signature :=
  catalog.commands.filter (Signature.matchesFilter filter)

/-- The number of commands. -/
def size (catalog : Catalog) : Nat := catalog.commands.length

/-- Whether there are no commands. -/
def isEmpty (catalog : Catalog) : Bool := catalog.commands.isEmpty

end Catalog

end PipeGraph
