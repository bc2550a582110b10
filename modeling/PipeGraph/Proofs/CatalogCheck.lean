import PipeGraph.Proofs.CommandLineRun
import PipeGraph.Proofs.Events

/-!
# What the catalog check reports

The command line warns of commands that a catalog does not list.  It finds the
commands of a graph by their types and labels, while a graph is compiled by the
roles of its nodes.  The two agree about every node but one.  The node with the
reserved id of the result is no command, whatever it declares, and is warned of
all the same if it has the type of a command and an unlisted label.
-/

namespace PipeGraph

namespace Editor.Payload

theorem dataRole_ne_command (payload : Payload) (name : String)
    (switches : List String) :
    payload.dataRole ≠ .ok (.command name switches) := by
  unfold dataRole
  split
  · simp
  · simp
  · split <;> simp

theorem operatorRole_ne_command (payload : Payload) (name : String)
    (switches : List String) :
    payload.operatorRole ≠ .ok (.command name switches) := by
  unfold operatorRole
  split
  · simp
  · split <;> simp

theorem commandRole_eq_command_iff {payload : Payload} {name : String}
    {switches : List String} :
    payload.commandRole = .ok (.command name switches) ↔
      payload.label = some name ∧ payload.switches.getD [] = switches := by
  unfold commandRole
  split
  · rename_i noLabel
    simp [noLabel]
  · rename_i label isLabel
    simp [isLabel]

end Editor.Payload

/-- A node is a command if it has the type and a label, and not the reserved id
of the result. -/
theorem Rules.classify_eq_command_iff {rules : Rules} {node : Editor.Node}
    {name : String} {switches : List String} :
    rules.classify node = .ok (.command name switches) ↔
      node.id ≠ resultType ∧ rules.nodeType node = commandType ∧
        node.payload.label = some name ∧
        node.payload.switches.getD [] = switches := by
  have apart : commandType ≠ resultType := by decide
  unfold classify
  by_cases reserved : node.id = resultType
  · simp [reserved]
  by_cases isCommand : rules.nodeType node = commandType
  · simp [reserved, isCommand, apart,
      Editor.Payload.commandRole_eq_command_iff]
  · simp only [reserved, isCommand, false_or, if_false, ne_eq, not_false_eq_true,
      true_and, false_and, iff_false]
    split
    · simp
    · split
      · exact node.payload.dataRole_ne_command name switches
      · split
        · exact node.payload.operatorRole_ne_command name switches
        · simp

/-- The node and the command that an event reports to be missing. -/
def Event.missingCommand? : Event → Option (NodeId × String)
  | commandNotInCatalog nodeId command => some (nodeId, command)
  | _ => none

/-- The nodes that some events report as commands missing from a catalog, each
with its command, in order. -/
def reportedMissing (events : List Event) : List (NodeId × String) :=
  events.filterMap Event.missingCommand?

namespace CommandLine

/-- A node whose role is a command that is not in a catalog, with its name. -/
def unlistedCommand? (rules : Rules) (catalog : Catalog) (node : Editor.Node) :
    Option (NodeId × String) :=
  match rules.classify node with
  | .ok (.command name _) =>
      if (catalog.get? name).isNone then some (node.id, name) else none
  | _ => none

/-- A node with the reserved id of the result that passes for a command by its
type and has a label that is not in a catalog, with that label. -/
def disguisedResult? (rules : Rules) (catalog : Catalog) (node : Editor.Node) :
    Option (NodeId × String) :=
  if node.id = resultType ∧ rules.nodeType node = commandType then
    (node.payload.label.filter fun name => (catalog.get? name).isNone).map
      fun name => (node.id, name)
  else none

section Nodes

variable {rules : Rules} {catalog : Catalog} {node : Editor.Node}

theorem unlistedCommand?_eq_some_iff {nodeId : NodeId} {name : String} :
    unlistedCommand? rules catalog node = some (nodeId, name) ↔
      node.id = nodeId ∧ catalog.get? name = none ∧
        ∃ switches, rules.classify node = .ok (.command name switches) := by
  unfold unlistedCommand?
  split
  · rename_i commandName switches isCommand
    simp only [isCommand, Except.ok.injEq, Role.command.injEq]
    by_cases unlisted : catalog.get? commandName = none
    · simp only [unlisted, Option.isNone_none, if_true, Option.some.injEq,
        Prod.mk.injEq]
      constructor
      · rintro ⟨sameId, rfl⟩
        exact ⟨sameId, unlisted, switches, rfl, rfl⟩
      · rintro ⟨sameId, _, _, sameName, _⟩
        exact ⟨sameId, sameName⟩
    · simp only [Option.isNone_iff_eq_none, unlisted, if_false, reduceCtorEq,
        false_iff]
      rintro ⟨_, unlistedName, _, rfl, _⟩
      exact unlisted unlistedName
  · rename_i notCommand
    simp only [reduceCtorEq, false_iff]
    rintro ⟨_, _, switches, isCommand⟩
    exact notCommand name switches isCommand

theorem missingCommand?_eq_some_iff {name : String} :
    missingCommand? rules catalog node = some name ↔
      rules.nodeType node = commandType ∧ node.payload.label = some name ∧
        catalog.get? name = none := by
  unfold missingCommand?
  split
  · rename_i isCommand
    simp [isCommand, Option.filter_eq_some_iff]
  · rename_i notCommand
    simp [notCommand]

theorem unlistedCommand?_eq :
    unlistedCommand? rules catalog node =
      if node.id = resultType then none
      else (missingCommand? rules catalog node).map
        fun name => (node.id, name) := by
  apply Option.ext
  rintro ⟨nodeId, name⟩
  rw [unlistedCommand?_eq_some_iff]
  split
  · rename_i reserved
    simp [Rules.classify_eq_command_iff, reserved]
  · rename_i other
    simp only [Rules.classify_eq_command_iff, ne_eq, other, not_false_eq_true,
      true_and, Option.map_eq_some_iff, missingCommand?_eq_some_iff,
      Prod.mk.injEq]
    constructor
    · rintro ⟨sameId, unlisted, _, isCommand, isLabel, _⟩
      exact ⟨name, ⟨isCommand, isLabel, unlisted⟩, sameId, rfl⟩
    · rintro ⟨_, ⟨isCommand, isLabel, unlisted⟩, sameId, rfl⟩
      exact ⟨sameId, unlisted, _, isCommand, isLabel, rfl⟩

theorem disguisedResult?_eq :
    disguisedResult? rules catalog node =
      if node.id = resultType then
        (missingCommand? rules catalog node).map fun name => (node.id, name)
      else none := by
  unfold disguisedResult? missingCommand?
  by_cases reserved : node.id = resultType
  · by_cases isCommand : rules.nodeType node = commandType
    · simp [reserved, isCommand]
    · simp [reserved, isCommand]
  · simp [reserved]

/-- A node is reported if it is an unlisted command, or the result in the
disguise of one. -/
theorem map_missingCommand?_eq :
    (missingCommand? rules catalog node).map (fun name => (node.id, name)) =
      (unlistedCommand? rules catalog node).or
        (disguisedResult? rules catalog node) := by
  rw [unlistedCommand?_eq, disguisedResult?_eq]
  split
  · rw [Option.none_or]
  · rw [Option.or_none]

/-- Never both at once. -/
theorem or_eq_unlistedCommand?_iff :
    (unlistedCommand? rules catalog node).or
          (disguisedResult? rules catalog node) =
        unlistedCommand? rules catalog node ↔
      disguisedResult? rules catalog node = none := by
  rw [unlistedCommand?_eq, disguisedResult?_eq]
  split
  · rw [Option.none_or]
  · rw [Option.or_none]
    simp

end Nodes

section Lists

variable {α β : Type} {first second : α → Option β} {elements : List α}

theorem filterMap_sublist_filterMap_or :
    (elements.filterMap first).Sublist
      (elements.filterMap fun element =>
        (first element).or (second element)) := by
  induction elements with
  | nil => exact List.Sublist.slnil
  | cons element elements ih =>
      cases found : first element with
      | some value => simpa [found] using ih
      | none =>
          cases otherFound : second element with
          | some value => simpa [found, otherFound] using ih.cons value
          | none => simpa [found, otherFound] using ih

/-- Alternatives change what is found in a list as soon as they change it for
one element. -/
theorem filterMap_or_eq_iff :
    (elements.filterMap fun element => (first element).or (second element)) =
        elements.filterMap first ↔
      ∀ element ∈ elements,
        (first element).or (second element) = first element := by
  induction elements with
  | nil => simp
  | cons element elements ih =>
      cases found : first element with
      | some value => simpa [found] using ih
      | none =>
          cases otherFound : second element with
          | none => simpa [found, otherFound] using ih
          | some value =>
              -- one list is longer than the other, which has all its elements
              have shorter : (elements.filterMap first).length ≤
                  (elements.filterMap fun element =>
                    (first element).or (second element)).length :=
                filterMap_sublist_filterMap_or.length_le
              simp only [List.filterMap_cons, found, otherFound,
                Option.none_or, List.forall_mem_cons, reduceCtorEq, false_and,
                iff_false]
              intro same
              have sameLength := congrArg List.length same
              simp only [List.length_cons] at sameLength
              omega

end Lists

section Reports

variable {complaints : Json.Complaints} {surroundings : Surroundings}
  {path text : String} {catalog : Catalog}

theorem fromJson_of_ok
    (loaded : (Catalog.fromJson text complaints).outcome = .ok catalog) :
    Catalog.fromJson text complaints =
      ⟨[.catalogLoaded catalog.size], .ok catalog⟩ := by
  unfold Catalog.fromJson at loaded ⊢
  split at loaded
  · cases loaded
  · cases loaded
    rfl

/-- The check reports that the catalog is loaded, and then the commands that are
missing from it. -/
theorem events_checkCatalog (readable : surroundings.fileText path = .ok text)
    (loaded : (Catalog.fromJson text complaints).outcome = .ok catalog)
    (rules : Rules) (graph : Editor.Graph) :
    (checkCatalog complaints surroundings rules graph path).events =
      .catalogLoaded catalog.size :: missingCommands rules catalog graph := by
  have asText : (Logged.ofExcept ((surroundings.fileText path).mapError
      fun fault => Failure.plain ("Failed to read catalog file '" ++ path ++
        "': " ++ fault.message))).outcome = .ok text := by
    simp [readable]
  have asCatalog : ((Catalog.fromJson text complaints).mapError
      fun error => Failure.plain error.message).outcome = .ok catalog := by
    simp [loaded]
  rw [checkCatalog, Logged.events_bind_of_ok asText,
    Logged.events_bind_of_ok asCatalog, fromJson_of_ok loaded]
  have reported := Logged.events_forget (ε := Failure) (Logged.traverse
    Logged.emit (missingCommands rules catalog graph))
  rw [Logged.events_traverse_emit] at reported
  exact congrArg (Event.catalogLoaded catalog.size :: ·) reported

theorem reportedMissing_missingCommands (rules : Rules) (catalog : Catalog)
    (graph : Editor.Graph) :
    reportedMissing (missingCommands rules catalog graph) =
      graph.nodes.filterMap fun node =>
        (missingCommand? rules catalog node).map
          fun name => (node.id, name) := by
  rw [reportedMissing, missingCommands, List.filterMap_filterMap]
  congr 1
  funext node
  cases missingCommand? rules catalog node <;> rfl

end Reports

/-- With any catalog that it can load, the check reports, in the order of the
nodes, the commands that the catalog does not list and the disguised result.  So
it reports exactly the unlisted commands if and only if the result is in no such
disguise. -/
theorem missingCommands_reports (rules : Rules) (catalog : Catalog)
    (graph : Editor.Graph) :
    (∀ complaints surroundings path text,
      Surroundings.fileText surroundings path = .ok text →
      (Catalog.fromJson text complaints).outcome = .ok catalog →
      reportedMissing
          (checkCatalog complaints surroundings rules graph path).events =
        reportedMissing (missingCommands rules catalog graph)) ∧
    (reportedMissing (missingCommands rules catalog graph) =
      graph.nodes.filterMap fun node =>
        (unlistedCommand? rules catalog node).or
          (disguisedResult? rules catalog node)) ∧
    (reportedMissing (missingCommands rules catalog graph) =
        graph.nodes.filterMap (unlistedCommand? rules catalog) ↔
      ∀ node ∈ graph.nodes, disguisedResult? rules catalog node = none) := by
  have reported : reportedMissing (missingCommands rules catalog graph) =
      graph.nodes.filterMap fun node =>
        (unlistedCommand? rules catalog node).or
          (disguisedResult? rules catalog node) := by
    rw [reportedMissing_missingCommands]
    exact congrArg (graph.nodes.filterMap ·)
      (funext fun _ => map_missingCommand?_eq)
  refine ⟨?_, reported, ?_⟩
  · intro complaints surroundings path text readable loaded
    rw [events_checkCatalog readable loaded]
    rfl
  · rw [reported, filterMap_or_eq_iff]
    simp only [or_eq_unlistedCommand?_iff]

/-- A graph whose result node declares the type and the label of a command. -/
def disguisedGraph : Editor.Graph :=
  ⟨[⟨"a", some "command", ⟨some "ls", none, none, none, none⟩⟩,
      ⟨"result", some "command", ⟨some "sort", none, none, none, none⟩⟩],
    [⟨"a", "result", none⟩]⟩

/-- The graph has one command and compiles to it, and yet two commands are
reported as missing from an empty catalog. -/
theorem disguisedGraph_overreported :
    (Compiler.standard.compile disguisedGraph).outcome = .ok "ls" ∧
      disguisedGraph.nodes.filterMap
        (unlistedCommand? Compiler.standard.rules ⟨[]⟩) = [("a", "ls")] ∧
      sampleSurroundings.fileText "catalog.json" = .ok "[]" ∧
      (Catalog.fromJson "[]").outcome = .ok ⟨[]⟩ ∧
      reportedMissing (checkCatalog .silent sampleSurroundings
        Compiler.standard.rules disguisedGraph "catalog.json").events =
          [("a", "ls"), ("result", "sort")] := by
  have readable : sampleSurroundings.fileText "catalog.json" = .ok "[]" :=
    decodeText_toByteArray "[]"
  have loaded : (Catalog.fromJson "[]").outcome = .ok ⟨[]⟩ := rfl
  refine ⟨rfl, rfl, readable, loaded, ?_⟩
  rw [events_checkCatalog readable loaded]
  rfl

end CommandLine

end PipeGraph
