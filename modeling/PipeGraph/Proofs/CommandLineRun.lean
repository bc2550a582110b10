import PipeGraph.CommandLine.Run
import PipeGraph.Proofs.MappingArguments

/-!
# What a run of the command line reports

A run reports what the library makes of the graph.  Three things can go wrong,
and they are looked at in a fixed order: the graph text, the catalog, and the
graph itself.  Nothing is printed unless all is well.
-/

namespace PipeGraph

namespace Logged

variable {ε₁ ε₂ α : Type}

@[simp]
theorem outcome_mapError (convert : ε₁ → ε₂) (computation : Logged ε₁ α) :
    (computation.mapError convert).outcome =
      computation.outcome.mapError convert :=
  rfl

end Logged

namespace CommandLine

/-- The compiler that a program would set up for the options, mapping by
mapping. -/
def Options.assembled (options : Options) : Compiler where
  rules := options.typeMappings.foldl
    (fun rules (userType, canonicalType) =>
      rules.withTypeMapping userType canonicalType) Rules.plain
  pipePolicy := if options.strictPipes then .strict else .firstWins

/-- The report of a run that fails. -/
structure Report.FailsWith (report : Report) (failure : Failure) : Prop where
  exitCode : report.exitCode = 1
  output : report.output = ""
  failure : report.failure = some failure

/-- The report of a run that prints a text. -/
structure Report.Prints (report : Report) (output : String) : Prop where
  exitCode : report.exitCode = 0
  output : report.output = output
  failure : report.failure = none

/-- A catalog that cannot be read or makes no sense. -/
inductive CatalogUnavailable (complaints : Json.Complaints)
    (surroundings : Surroundings) (path : String) : Prop
  | unreadable {fault : ReadFault} :
      surroundings.fileText path = .error fault →
        CatalogUnavailable complaints surroundings path
  | invalid {text : String} {error : CatalogError} :
      surroundings.fileText path = .ok text →
        (Catalog.fromJson text complaints).outcome = .error error →
          CatalogUnavailable complaints surroundings path

theorem foldl_withTypeMapping (mappings : List (String × String))
    (rules : Rules) :
    mappings.foldl (fun rules (userType, canonicalType) =>
        rules.withTypeMapping userType canonicalType) rules =
      ⟨rules.typeMappings ++ mappings, rules.validator⟩ := by
  induction mappings generalizing rules with
  | nil => simp
  | cons mapping mappings ih =>
      rw [List.foldl_cons, ih]
      simp [Rules.withTypeMapping]

theorem Options.compiler_eq_assembled (options : Options) :
    options.compiler = options.assembled := by
  rw [Options.assembled, foldl_withTypeMapping]
  rfl

section Reports

variable {verbosity : Nat} {computation : Logged Failure String}

theorem report_failsWith {failure : Failure}
    (failed : computation.outcome = .error failure) :
    (report verbosity computation).FailsWith failure := by
  rw [report, failed]
  exact ⟨rfl, rfl, rfl⟩

theorem report_prints {output : String}
    (succeeded : computation.outcome = .ok output) :
    (report verbosity computation).Prints output := by
  rw [report, succeeded]
  exact ⟨rfl, rfl, rfl⟩

end Reports

section Catalog

variable {complaints : Json.Complaints} {surroundings : Surroundings}
  {path : String}

theorem outcome_traverse_emit {ε : Type} (events : List Event) :
    (Logged.traverse Logged.emit events : Logged ε (List Unit)).outcome =
      .ok (events.map fun _ => ()) := by
  rw [Logged.outcome_traverse_eq_ok_iff, List.forall₂_map_right_iff]
  exact List.forall₂_same.mpr fun _ _ => rfl

theorem outcome_checkCatalog (surroundings : Surroundings) (rules : Rules)
    (graph : Editor.Graph) (path : String) :
    (checkCatalog complaints surroundings rules graph path).outcome =
      (surroundings.fileText path).mapError (fun fault => Failure.plain
          ("Failed to read catalog file '" ++ path ++ "': " ++
            fault.message)) >>= fun text =>
        (Catalog.fromJson text complaints).outcome.mapError
            (fun error => Failure.plain error.message) >>= fun _ =>
          .ok () := by
  simp only [checkCatalog, Logged.outcome_bind, Logged.outcome_ofExcept,
    Logged.outcome_mapError, outcome_traverse_emit]
  rfl

/-- A catalog that is of no use is a plain failure. -/
theorem checkCatalog_of_unavailable (rules : Rules) (graph : Editor.Graph)
    (unavailable : CatalogUnavailable complaints surroundings path) :
    ∃ message,
      (checkCatalog complaints surroundings rules graph path).outcome =
        .error (.plain message) := by
  rw [outcome_checkCatalog]
  cases unavailable with
  | unreadable isFault =>
      rw [isFault]
      exact ⟨_, rfl⟩
  | invalid isText failed =>
      rw [isText, Except.mapError, ok_bind, failed]
      exact ⟨_, rfl⟩

/-- Commands that are missing from a catalog are only reported. -/
theorem checkCatalog_of_available (rules : Rules) (graph : Editor.Graph)
    (available : ¬ CatalogUnavailable complaints surroundings path) :
    (checkCatalog complaints surroundings rules graph path).outcome =
      .ok () := by
  rw [outcome_checkCatalog]
  cases isText : surroundings.fileText path with
  | error fault => exact absurd (.unreadable isText) available
  | ok text =>
      rw [Except.mapError, ok_bind]
      cases loaded : (Catalog.fromJson text complaints).outcome with
      | error error => exact absurd (.invalid isText loaded) available
      | ok catalog => rfl

end Catalog

section Requests

variable {complaints : Json.Complaints} {surroundings : Surroundings}
  {options : Options} {text : String} {graph : Editor.Graph}

/-- What a request comes down to once the graph text is read. -/
theorem outcome_compileRequest
    (readable : surroundings.graphText options.graphPath = .ok text) :
    (compileRequest complaints surroundings options).outcome =
      (Compiler.readGraph text complaints).mapError
          (fun error => Failure.structured error.structured) >>= fun graph =>
        (Logged.traverseOption
          (checkCatalog complaints surroundings options.assembled.rules graph)
          options.catalogPath).outcome >>= fun _ =>
            (options.assembled.artifacts graph).outcome.mapError
                (fun error => Failure.structured error.structured) >>=
              fun artifacts => .ok (options.emission.output artifacts) := by
  simp only [compileRequest, Logged.outcome_bind, Logged.outcome_ofExcept,
    Logged.outcome_mapError, Logged.outcome_emit, readable,
    options.compiler_eq_assembled]
  rfl

theorem outcome_compileRequest_of_unreadable
    (readable : surroundings.graphText options.graphPath = .ok text)
    (notGraph : Editor.Graph.parse? text = none) :
    (compileRequest complaints surroundings options).outcome =
      .error (.structured
        (CompileError.unreadable (complaints.graph text)).structured) := by
  rw [outcome_compileRequest readable, Compiler.readGraph, notGraph]
  rfl

theorem outcome_compileRequest_of_graph
    (readable : surroundings.graphText options.graphPath = .ok text)
    (isGraph : Editor.Graph.parse? text = some graph) :
    (compileRequest complaints surroundings options).outcome =
      (Logged.traverseOption
        (checkCatalog complaints surroundings options.assembled.rules graph)
        options.catalogPath).outcome >>= fun _ =>
          (options.assembled.artifacts graph).outcome.mapError
              (fun error => Failure.structured error.structured) >>=
            fun artifacts => .ok (options.emission.output artifacts) := by
  rw [outcome_compileRequest readable, Compiler.readGraph, isGraph]
  rfl

theorem outcome_compileRequest_of_unavailable
    (readable : surroundings.graphText options.graphPath = .ok text)
    (isGraph : Editor.Graph.parse? text = some graph) {path : String}
    (isPath : options.catalogPath = some path)
    (unavailable : CatalogUnavailable complaints surroundings path) :
    ∃ message, (compileRequest complaints surroundings options).outcome =
      .error (.plain message) := by
  obtain ⟨message, failed⟩ := checkCatalog_of_unavailable
    options.assembled.rules graph unavailable
  refine ⟨message, ?_⟩
  rw [outcome_compileRequest_of_graph readable isGraph, isPath,
    Logged.traverseOption, Logged.outcome_bind, failed]
  rfl

theorem outcome_compileRequest_of_available
    (readable : surroundings.graphText options.graphPath = .ok text)
    (isGraph : Editor.Graph.parse? text = some graph)
    (available : ∀ path, options.catalogPath = some path →
      ¬ CatalogUnavailable complaints surroundings path) :
    (compileRequest complaints surroundings options).outcome =
      (options.assembled.artifacts graph).outcome.mapError
          (fun error => Failure.structured error.structured) >>=
        fun artifacts => .ok (options.emission.output artifacts) := by
  rw [outcome_compileRequest_of_graph readable isGraph]
  cases isPath : options.catalogPath with
  | none => rfl
  | some path =>
      rw [Logged.traverseOption, Logged.outcome_bind,
        checkCatalog_of_available _ _ (available path isPath)]
      rfl

end Requests

theorem run_of_compile {arguments : List String} {options : Options}
    (asked : Request.ofArguments arguments = .ok (.compile options))
    (surroundings : Surroundings) (complaints : Json.Complaints) :
    run arguments surroundings complaints =
      report options.verbosity
        (compileRequest complaints surroundings options) := by
  rw [run, asked]

/-- A run reports what the library makes of the graph: it fails on a text that
is no graph, then on a catalog that is of no use, then on a graph that cannot
be compiled, and otherwise prints what was asked for.  The report on a text that
is no graph carries what the reader has to say about that text. -/
theorem run_reports_compilation {arguments : List String} {options : Options}
    {surroundings : Surroundings} {text : String}
    (complaints : Json.Complaints)
    (asked : Request.ofArguments arguments = .ok (.compile options))
    (readable : surroundings.graphText options.graphPath = .ok text) :
    (∃ values, MappingValues arguments values ∧
      List.Forall₂ SplitsAs values options.typeMappings) ∧
    (Editor.Graph.parse? text = none →
      (run arguments surroundings complaints).FailsWith (.structured
        (CompileError.unreadable (complaints.graph text)).structured)) ∧
    ∀ graph, Editor.Graph.parse? text = some graph →
      (∀ path, options.catalogPath = some path →
        CatalogUnavailable complaints surroundings path →
          ∃ message, (run arguments surroundings complaints).FailsWith
            (.plain message)) ∧
      ((∀ path, options.catalogPath = some path →
          ¬ CatalogUnavailable complaints surroundings path) →
        match (options.assembled.artifacts graph).outcome with
        | .error error =>
            (run arguments surroundings complaints).FailsWith
              (.structured error.structured)
        | .ok artifacts =>
            (run arguments surroundings complaints).Prints
              (match options.emission with
              | .source => artifacts.source ++ "\n"
              | .inputTree => artifacts.inputTree.draw
              | .syntaxTree => artifacts.syntaxTree.draw)) := by
  rw [run_of_compile asked]
  refine ⟨?_, ?_, ?_⟩
  · obtain ⟨values, final, areValues, ⟨mappings, areMappings, split⟩, rfl⟩ :=
      exists_mappingValues asked
    refine ⟨values, areValues, ?_⟩
    rw [Choices.options, areMappings]
    exact split
  · intro notGraph
    exact report_failsWith
      (outcome_compileRequest_of_unreadable readable notGraph)
  · intro graph isGraph
    refine ⟨?_, ?_⟩
    · intro path isPath unavailable
      obtain ⟨message, failed⟩ := outcome_compileRequest_of_unavailable
        readable isGraph isPath unavailable
      exact ⟨message, report_failsWith failed⟩
    · intro available
      have outcome :=
        outcome_compileRequest_of_available readable isGraph available
      cases compiled : (options.assembled.artifacts graph).outcome with
      | error error =>
          rw [compiled] at outcome
          exact report_failsWith outcome
      | ok artifacts =>
          rw [compiled] at outcome
          -- What is printed is one of the artifacts, whichever was asked for.
          cases isEmission : options.emission <;>
            exact report_prints (outcome.trans (by rw [isEmission]; rfl))

section Sample

theorem decodeText_toByteArray (text : String) :
    decodeText text.toByteArray = .ok text := by
  have valid : String.fromUTF8? text.toByteArray = some text := by
    simp [String.fromUTF8?, String.fromUTF8, text.isValidUTF8]
  rw [decodeText, valid]

def sampleArguments : List String :=
  ["-t", "shell=command", "--emit=input-tree", "-vc", "catalog.json"]

def sampleOptions : Options :=
  ⟨none, .inputTree, [("shell", "command")], false, some "catalog.json", 1⟩

def sampleGraphText : String :=
  "\x7b\"nodes\": [\x7b\"id\": \"a\", \"type\": \"shell\",
  \"data\": \x7b\"label\": \"ls\"\x7d\x7d, [\"result\"]],
  \"edges\": [[\"a\", \"result\"]]\x7d"

/-- The graph on the standard input, and an empty catalog in every file. -/
def sampleSurroundings : Surroundings :=
  ⟨.ok sampleGraphText.toByteArray, fun _ => .ok "[]".toByteArray⟩

def sampleGraph : Editor.Graph :=
  ⟨[⟨"a", some "shell", ⟨some "ls", none, none, none, none⟩⟩,
      ⟨"result", none, Editor.Payload.empty⟩],
    [⟨"a", "result", none⟩]⟩

def sampleTree : InputTree := .command "ls" none [] []

theorem sampleCatalog_available (complaints : Json.Complaints)
    (path : String) :
    ¬ CatalogUnavailable complaints sampleSurroundings path := by
  have isText : sampleSurroundings.fileText path = .ok "[]" :=
    decodeText_toByteArray "[]"
  have loaded : (Catalog.fromJson "[]" complaints).outcome = .ok ⟨[]⟩ := by
    rfl
  rintro (isFault | ⟨isOther, failed⟩)
  · rw [isText] at isFault
    cases isFault
  · rw [isText] at isOther
    cases isOther
    rw [loaded] at failed
    cases failed

theorem run_sampleArguments :
    Request.ofArguments sampleArguments = .ok (.compile sampleOptions) ∧
      sampleSurroundings.graphText sampleOptions.graphPath =
        .ok sampleGraphText ∧
      (run sampleArguments sampleSurroundings).Prints "Command: ls\n" := by
  have asked :
      Request.ofArguments sampleArguments = .ok (.compile sampleOptions) := by
    decide +kernel
  have readable : sampleSurroundings.graphText sampleOptions.graphPath =
      .ok sampleGraphText :=
    decodeText_toByteArray sampleGraphText
  have isGraph : Editor.Graph.parse? sampleGraphText = some sampleGraph := by
    decide +kernel
  have compiled : (sampleOptions.assembled.artifacts sampleGraph).outcome =
      .ok ⟨sampleTree, sampleTree.normalize, sampleTree.normalize.render⟩ := by
    rfl
  have drawn : sampleTree.draw = "Command: ls\n" := by
    decide +kernel
  have reported := ((run_reports_compilation .silent asked readable).2.2
    sampleGraph isGraph).2 fun path _ => sampleCatalog_available .silent path
  rw [compiled] at reported
  refine ⟨asked, readable, ?_⟩
  rw [← drawn]
  exact reported

end Sample

end CommandLine

end PipeGraph
