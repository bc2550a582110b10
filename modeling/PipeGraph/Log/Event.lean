import PipeGraph.Error
import PipeGraph.Text.Quoted
import PipeGraph.Text.Terminal

/-!
# Log events

Everything that the library reports while it works, as data.  An event has a
level and a target, and is written as one log line.
-/

namespace PipeGraph

/-- How much an event matters, from most to least. -/
inductive LogLevel where
  | warn
  | info
  | debug
  | trace
  deriving DecidableEq, Repr

namespace LogLevel

/-- The name of a level in log lines. -/
def name : LogLevel → String
  | warn => "WARN"
  | info => "INFO"
  | debug => "DEBUG"
  | trace => "TRACE"

/-- How far a level lies below the most important one. -/
def rank : LogLevel → Nat
  | warn => 0
  | info => 1
  | debug => 2
  | trace => 3

end LogLevel

/-- Something that happened, worth a line in the log. -/
inductive Event where
  | compilationStarted (nodes edges : Nat)
  | modelBuilt (nodes edges : Nat) (resultId : NodeId)
  | resolving (nodeId : NodeId) (kindName : String)
  | pipeInputsIgnored (nodeId : NodeId) (command : String) (ignored : Nat)
  | treeExtracted (size : Nat)
  | compilationSucceeded (bytes : Nat)
  | compilationFailed (error : CompileError)
  | scriptFailed (error : String)
  | catalogLoaded (commands : Nat)
  | catalogLoadedFromEngine (commands : Nat)
  | catalogFallback (reason : String)
  | commandNotInCatalog (nodeId : NodeId) (command : String)
  | graphCompiled
  deriving DecidableEq, Repr

namespace Event

/-- The level of an event. -/
def level : Event → LogLevel
  | compilationStarted _ _ | compilationSucceeded _ | graphCompiled => .info
  | modelBuilt _ _ _ | treeExtracted _ | catalogLoaded _
  | catalogLoadedFromEngine _ => .debug
  | resolving _ _ => .trace
  | pipeInputsIgnored _ _ _ | compilationFailed _ | scriptFailed _
  | catalogFallback _ | commandNotInCatalog _ _ => .warn

/-- The part of the program that an event comes from. -/
def target : Event → String
  | compilationStarted _ _ | treeExtracted _ | compilationSucceeded _
  | compilationFailed _ => "nuflow::compiler"
  | modelBuilt _ _ _ => "nuflow::graph::builder"
  | resolving _ _ | pipeInputsIgnored _ _ _ => "nuflow::compiler::extractor"
  | scriptFailed _ => "nuflow::engine"
  | catalogLoaded _ | catalogLoadedFromEngine _ | catalogFallback _ =>
      "nuflow::catalog"
  | commandNotInCatalog _ _ | graphCompiled => "nuflow_cli"

/-- What an event says in words. -/
def wording : Event → String
  | compilationStarted _ _ => "starting graph compilation"
  | modelBuilt _ _ _ => "graph model built"
  | resolving _ _ => "resolving node"
  | pipeInputsIgnored _ _ _ =>
      "command has several pipe inputs, only the first is used"
  | treeExtracted _ => "input tree extracted"
  | compilationSucceeded _ => "compilation successful"
  | compilationFailed error => "compilation failed: " ++ error.message
  | scriptFailed _ => "script execution failed"
  | catalogLoaded _ => "command catalog loaded"
  | catalogLoadedFromEngine _ => "command catalog loaded from engine"
  | catalogFallback _ => "falling back to the bundled command catalog"
  | commandNotInCatalog _ _ => "command is not in the catalog"
  | graphCompiled => "graph compiled"

/-- The named details of an event, each as it is written. -/
def fields : Event → List (String × String)
  | compilationStarted nodes edges =>
      [("nodes", toString nodes), ("edges", toString edges)]
  | modelBuilt nodes edges resultId =>
      [("nodes", toString nodes), ("edges", toString edges),
        ("result", resultId)]
  | resolving nodeId kindName =>
      [("node", Text.quoted nodeId), ("role", Text.quoted kindName)]
  | pipeInputsIgnored nodeId command ignored =>
      [("node", Text.quoted nodeId), ("command", Text.quoted command),
        ("ignored", toString ignored)]
  | treeExtracted size => [("size", toString size)]
  | compilationSucceeded bytes => [("bytes", toString bytes)]
  | compilationFailed error =>
      [("kind", error.kind.name), ("category", error.category.name)]
  | scriptFailed error => [("error", error)]
  | catalogLoaded commands | catalogLoadedFromEngine commands =>
      [("commands", toString commands)]
  | catalogFallback reason => [("reason", reason)]
  | commandNotInCatalog nodeId command =>
      [("node", nodeId), ("command", Text.quoted command)]
  | graphCompiled => []

/-- The wording of an event, safe to show on a terminal, and then its fields. -/
def message (event : Event) : String :=
  Text.terminalSafe event.wording ++
    String.join (event.fields.map fun (name, value) =>
      " " ++ name ++ "=" ++ value)

/-- The log line of an event. -/
def line (event : Event) : String :=
  event.level.name ++ " " ++ event.target ++ ": " ++ event.message

end Event

end PipeGraph
