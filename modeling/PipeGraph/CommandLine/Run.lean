import PipeGraph.Catalog.Basic
import PipeGraph.CommandLine.Options
import PipeGraph.Compiler
import PipeGraph.Json.Quoted

/-!
# Running the command line

A run reads a graph, checks its commands against a catalog if one is given,
compiles the graph and prints what was asked for.  It is a function of the
arguments and of what can be read, and ends in a report of everything that is
written.
-/

namespace PipeGraph

namespace CommandLine

/-- Why a file or the standard input cannot be read as text. -/
inductive ReadFault where
  | notFound
  | isDirectory
  | notText
  | other (message : String)
  deriving DecidableEq, Repr

/-- The wording of a failure to read. -/
def ReadFault.message : ReadFault → String
  | notFound => "No such file or directory (os error 2)"
  | isDirectory => "Is a directory (os error 21)"
  | notText => "stream did not contain valid UTF-8"
  | other message => message

/-- What a run can read. -/
structure Surroundings where
  standardInput : Except ReadFault ByteArray
  file : String → Except ReadFault ByteArray

/-- Why a run fails. -/
inductive Failure where
  | plain (message : String)
  | structured (error : StructuredError)
  deriving DecidableEq, Repr

/-- The text that some bytes encode. -/
def decodeText (bytes : ByteArray) : Except ReadFault String :=
  match String.fromUTF8? bytes with
  | some text => .ok text
  | none => .error .notText

/-- The text of the graph that the options name. -/
def Surroundings.graphText (surroundings : Surroundings)
    (path : Option String) : Except ReadFault String := do
  let bytes ←
    match path with
    | none | some "-" => surroundings.standardInput
    | some path => surroundings.file path
  decodeText bytes

/-- The text of a file. -/
def Surroundings.fileText (surroundings : Surroundings) (path : String) :
    Except ReadFault String := do
  let bytes ← surroundings.file path
  decodeText bytes

/-- The compiler that the options ask for. -/
def Options.compiler (options : Options) : Compiler :=
  ⟨⟨options.typeMappings, none⟩,
    if options.strictPipes then .strict else .firstWins⟩

/-- The name of a command node that is not in a catalog. -/
def missingCommand? (rules : Rules) (catalog : Catalog) (node : Editor.Node) :
    Option String :=
  if rules.nodeType node = commandType then
    node.payload.label.filter fun name => (catalog.get? name).isNone
  else none

/-- The events that report the command nodes that are not in a catalog. -/
def missingCommands (rules : Rules) (catalog : Catalog)
    (graph : Editor.Graph) : List Event :=
  graph.nodes.filterMap fun node =>
    (missingCommand? rules catalog node).map (.commandNotInCatalog node.id)

/-- Check the commands of a graph against the catalog in a file. -/
def checkCatalog (complaints : Json.Complaints) (surroundings : Surroundings)
    (rules : Rules) (graph : Editor.Graph) (path : String) :
    Logged Failure Unit := do
  let text ← Logged.ofExcept <| (surroundings.fileText path).mapError
    fun fault => .plain
      ("Failed to read catalog file '" ++ path ++ "': " ++ fault.message)
  let catalog ← (Catalog.fromJson text complaints).mapError
    fun error => .plain error.message
  let _ ← Logged.traverse Logged.emit (missingCommands rules catalog graph)

/-- What is printed of the artifacts of a compilation. -/
def Emission.output : Emission → Artifacts → String
  | .source, artifacts => artifacts.source ++ "\n"
  | .inputTree, artifacts => artifacts.inputTree.draw
  | .syntaxTree, artifacts => artifacts.syntaxTree.draw

/-- Compile what the options name and find the text to print. -/
def compileRequest (complaints : Json.Complaints)
    (surroundings : Surroundings) (options : Options) :
    Logged Failure String := do
  let text ← Logged.ofExcept <|
    (surroundings.graphText options.graphPath).mapError
      fun fault => .plain ("Failed to read graph: " ++ fault.message)
  let graph ← Logged.ofExcept <|
    (Compiler.readGraph text complaints).mapError
      fun error => .structured error.structured
  let _ ← Logged.traverseOption
    (checkCatalog complaints surroundings options.compiler.rules graph)
    options.catalogPath
  let artifacts ← (options.compiler.artifacts graph).mapError
    fun error => .structured error.structured
  Logged.emit .graphCompiled
  return options.emission.output artifacts

/-- Everything that a run leaves behind. -/
structure Report where
  exitCode : Nat
  output : String
  log : List Event
  failure : Option Failure

/-- Whether an event is shown at a given verbosity. -/
def isShown (verbosity : Nat) (event : Event) : Bool :=
  event.level.rank ≤ verbosity

/-- The report of a compilation. -/
def report (verbosity : Nat) (computation : Logged Failure String) : Report :=
  let log := computation.events.filter (isShown verbosity)
  match computation.outcome with
  | .ok output => ⟨0, output, log, none⟩
  | .error failure => ⟨1, "", log, some failure⟩

/-- The name and version that the program prints. -/
def versionLine : String := "nuflow 0.1.0\n"

/-- The summary of the options that the program prints. -/
def helpText : String :=
  "Compiles a visual dataflow graph into Nushell source\n\n" ++
  "Usage: nuflow-cli [OPTIONS] [GRAPH_PATH]\n\n" ++
  "  -e, --emit <EMIT>          source, input-tree or syntax-tree\n" ++
  "  -t, --type-map <A=B>       map a custom node type to a canonical one\n" ++
  "      --strict-pipes         reject commands with several pipe inputs\n" ++
  "  -c, --catalog <CATALOG>    report commands missing from a catalog\n" ++
  "  -v, --verbose              increase log verbosity\n" ++
  "  -h, --help                 print help\n" ++
  "  -V, --version              print version\n"

/-- Run the command line. -/
def run (arguments : List String) (surroundings : Surroundings)
    (complaints : Json.Complaints := .silent) : Report :=
  match Request.ofArguments arguments with
  | .error fault => ⟨2, "", [], some (.plain fault.message)⟩
  | .ok .version => ⟨0, versionLine, [], none⟩
  | .ok .help => ⟨0, helpText, [], none⟩
  | .ok (.compile options) =>
      report options.verbosity
        (compileRequest complaints surroundings options)

/-- A structured error as one line of JSON. -/
def structuredLine (error : StructuredError) : String :=
  "\x7b\"kind\":" ++ Json.quoted error.kind.name ++
    ",\"category\":" ++ Json.quoted error.category.key ++
    ",\"message\":" ++ Json.quoted error.message ++ "\x7d"

/-- What a failure puts on the error stream. -/
def Failure.text : Failure → String
  | plain message => "\nError: " ++ message ++ "\n"
  | structured error => structuredLine error ++ "\n"

/-- What a run puts on the error stream. -/
def Report.errorText (report : Report) : String :=
  String.join (report.log.map fun event => event.line ++ "\n") ++
    (report.failure.map Failure.text).getD ""

end CommandLine

end PipeGraph
