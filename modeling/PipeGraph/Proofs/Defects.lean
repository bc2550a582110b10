import PipeGraph.Proofs.WellFormed

/-!
# The first defect

A graph that has no model may have many defects at once: nodes without a role,
literals that are refused, ids that are taken, no result node or several of
them, edges from or to nowhere.  Building reports one of them.  This file says
which one, without following the loops of the builder: the first defective node
in order of declaration; if there is none, a wrong number of result nodes; and
if there is one result node, the first edge that lacks an end.
-/

namespace PipeGraph

section Wording

/-- A text has another one as a part. -/
def Shows (text part : String) : Prop :=
  ∃ before after, text = before ++ part ++ after

namespace Shows

variable {text part : String}

theorem refl : Shows part part :=
  ⟨"", "", by simp⟩

theorem before (shows : Shows text part) {later : String} :
    Shows (text ++ later) part := by
  obtain ⟨front, back, rfl⟩ := shows
  exact ⟨front, back ++ later, by simp [String.append_assoc]⟩

theorem after (shows : Shows text part) {earlier : String} :
    Shows (earlier ++ text) part := by
  obtain ⟨front, back, rfl⟩ := shows
  exact ⟨earlier ++ front, back, by simp [String.append_assoc]⟩

end Shows

/-- The names and numbers that a defect of reference is about. -/
def ReferenceFault.subjects : ReferenceFault → List String
  | repeatedNode nodeId => [nodeId]
  | noResult => ["no result node"]
  | severalResults count => [toString count]
  | undeclaredEnd source target missing => [source, target, missing]
  | unknownNode nodeId consumerId => [nodeId, consumerId]
  | stated message => [message]

/-- The names and numbers that an error is about, and its reason if it has
one. -/
def CompileError.subjects : CompileError → List String
  | unreadable detail => detail.toList
  | malformedReference fault => fault.subjects
  | unrecognizedRole nodeId fault => [nodeId, fault.message]
  | missingResultProducer => []
  | ambiguousResultProducer count => [toString count]
  | resultAsInput consumerId => [consumerId]
  | operatorArity nodeId count => [nodeId, toString count]
  | operatorHandles nodeId fault => [nodeId, fault.message]
  | invalidLiteral nodeId text literalType => [nodeId, text, literalType.name]
  | ambiguousPipeInput nodeId count => [nodeId, toString count]
  | cyclicFlow nodeId => [nodeId]

theorem ReferenceFault.message_shows (fault : ReferenceFault) :
    ∀ subject ∈ fault.subjects, Shows fault.message subject := by
  cases fault with
  | repeatedNode nodeId =>
      exact List.forall_mem_singleton.mpr Shows.refl.after.before
  | noResult =>
      exact List.forall_mem_singleton.mpr ⟨"graph has ", "", by decide⟩
  | severalResults count =>
      exact List.forall_mem_singleton.mpr Shows.refl.after.before
  | undeclaredEnd source target missing =>
      exact List.forall_mem_cons.mpr
        ⟨Shows.refl.after.before.before.before.before.before,
          List.forall_mem_cons.mpr ⟨Shows.refl.after.before.before.before,
            List.forall_mem_singleton.mpr Shows.refl.after.before⟩⟩
  | unknownNode nodeId consumerId =>
      exact List.forall_mem_cons.mpr ⟨Shows.refl.after.before.before.before,
        List.forall_mem_singleton.mpr Shows.refl.after.before⟩
  | stated message => exact List.forall_mem_singleton.mpr Shows.refl

/-- The wording of an error shows everything that the error is about. -/
theorem CompileError.message_shows (error : CompileError) :
    ∀ subject ∈ error.subjects, Shows error.message subject := by
  cases error with
  | unreadable detail =>
      cases detail with
      | none => exact List.forall_mem_nil _
      | some detail => exact List.forall_mem_singleton.mpr Shows.refl.after
  | malformedReference fault =>
      intro subject member
      exact (fault.message_shows subject member).after
  | missingResultProducer => exact List.forall_mem_nil _
  | ambiguousResultProducer count | resultAsInput consumerId
  | cyclicFlow nodeId =>
      exact List.forall_mem_singleton.mpr Shows.refl.after.before
  | unrecognizedRole nodeId fault | operatorHandles nodeId fault
  | operatorArity nodeId count =>
      exact List.forall_mem_cons.mpr ⟨Shows.refl.after.before.before,
        List.forall_mem_singleton.mpr Shows.refl.after⟩
  | ambiguousPipeInput nodeId count =>
      exact List.forall_mem_cons.mpr ⟨Shows.refl.after.before.before.before,
        List.forall_mem_singleton.mpr Shows.refl.after.before⟩
  | invalidLiteral nodeId text literalType =>
      exact List.forall_mem_cons.mpr
        ⟨Shows.refl.after.before.before.before.before.before,
          List.forall_mem_cons.mpr ⟨Shows.refl.after.before.before.before,
            List.forall_mem_singleton.mpr Shows.refl.after.before⟩⟩

end Wording

namespace Rules

/-- The validator refuses a literal. -/
def Refuses (rules : Rules) (text : String) (literalType : LiteralType) :
    Prop :=
  ∃ isValid, rules.validator = some isValid ∧
    isValid text literalType = false

/-- A node that cannot be declared after nodes with the ids `taken`, for
whatever reason. -/
inductive Defective (rules : Rules) (taken : List NodeId)
    (node : Editor.Node) : Prop
  | unclassified {fault} : rules.classify node = .error fault →
      Defective rules taken node
  | refused {text literalType} :
      rules.classify node = .ok (.data text literalType) →
      rules.Refuses text literalType → Defective rules taken node
  | repeated : node.id ∈ taken → Defective rules taken node

/-- The error that a defective node gives rise to.  A node without a role is
reported as such, and a literal that is refused hides an id that is taken. -/
inductive NodeError (rules : Rules) (taken : List NodeId)
    (node : Editor.Node) : CompileError → Prop
  | unclassified {fault} : rules.classify node = .error fault →
      NodeError rules taken node (.unrecognizedRole node.id fault)
  | refused {text literalType} :
      rules.classify node = .ok (.data text literalType) →
      rules.Refuses text literalType →
      NodeError rules taken node (.invalidLiteral node.id text literalType)
  | repeated {role} : rules.classify node = .ok role → rules.Accepts role →
      node.id ∈ taken →
      NodeError rules taken node (.malformedReference (.repeatedNode node.id))

/-- No node of a list is defective in its place. -/
def Sound (rules : Rules) (nodes : List Editor.Node) : Prop :=
  ∀ before node after, nodes = before ++ node :: after →
    ¬ rules.Defective (before.map Editor.Node.id) node

/-- The number of nodes that classify as a result. -/
def resultCount (rules : Rules) (nodes : List Editor.Node) : Nat :=
  nodes.countP fun node => rules.classify node = .ok .result

section Node

variable {rules : Rules} {node : Editor.Node}

theorem not_accepts_iff {role : Role} :
    ¬ rules.Accepts role ↔
      ∃ text literalType, role = .data text literalType ∧
        rules.Refuses text literalType := by
  simp only [Accepts, Refuses, not_forall, Bool.not_eq_true]
  constructor
  · rintro ⟨text, literalType, isValid, isData, installed, invalid⟩
    exact ⟨text, literalType, isData, isValid, installed, invalid⟩
  · rintro ⟨text, literalType, isData, isValid, installed, invalid⟩
    exact ⟨text, literalType, isValid, isData, installed, invalid⟩

theorem checkLiteral_eq_error_iff {nodeId : NodeId} {role : Role}
    {error : CompileError} :
    rules.checkLiteral nodeId role = .error error ↔
      ∃ text literalType, role = .data text literalType ∧
        rules.Refuses text literalType ∧
        .invalidLiteral nodeId text literalType = error := by
  cases role with
  | data text literalType =>
      cases validator : rules.validator with
      | none => simp [checkLiteral, Refuses, validator]
      | some isValid =>
          by_cases valid : isValid text literalType = true <;>
            simp [checkLiteral, Refuses, validator, valid]
  | command name switches => simp [checkLiteral]
  | operation operator => simp [checkLiteral]
  | result => simp [checkLiteral]

/-- A node is defective exactly when there is an error to report about it. -/
theorem exists_nodeError_iff {taken : List NodeId} :
    (∃ error, rules.NodeError taken node error) ↔
      rules.Defective taken node := by
  constructor
  · rintro ⟨_, defect⟩
    cases defect with
    | unclassified failed => exact .unclassified failed
    | refused isData refuses => exact .refused isData refuses
    | repeated _ _ isTaken => exact .repeated isTaken
  · rintro (failed | ⟨isData, refuses⟩ | isTaken)
    · exact ⟨_, .unclassified failed⟩
    · exact ⟨_, .refused isData refuses⟩
    · -- A taken id is reported only if the role and the literal pass.
      cases classified : rules.classify node with
      | error fault => exact ⟨_, .unclassified classified⟩
      | ok role =>
          by_cases accepted : rules.Accepts role
          · exact ⟨_, .repeated classified accepted isTaken⟩
          · obtain ⟨text, literalType, rfl, refuses⟩ :=
              not_accepts_iff.mp accepted
            exact ⟨_, .refused classified refuses⟩

theorem declare_eq_error_iff {declared : Declared} {error : CompileError} :
    rules.declare declared node = .error error ↔
      rules.NodeError (declared.roles.map Prod.fst) node error := by
  simp only [declare, bind_eq_error_iff, mapError_eq_ok_iff,
    mapError_eq_error_iff, checkLiteral_eq_ok_iff, checkLiteral_eq_error_iff,
    lookup_isSome_iff_mem_keys]
  constructor
  · rintro (⟨fault, failed, rfl⟩ | ⟨role, classified,
      ⟨text, literalType, rfl, refuses, rfl⟩ | ⟨_, accepted, finished⟩⟩)
    · exact .unclassified failed
    · exact .refused classified refuses
    · by_cases isTaken : node.id ∈ declared.roles.map Prod.fst
      · simp only [isTaken, if_true] at finished
        cases finished
        exact .repeated classified accepted isTaken
      · simp only [isTaken, if_false] at finished
        cases finished
  · rintro (failed | ⟨classified, refuses⟩ | ⟨classified, accepted, isTaken⟩)
    · exact .inl ⟨_, failed, rfl⟩
    · exact .inr ⟨_, classified, .inl ⟨_, _, rfl, refuses, rfl⟩⟩
    · refine .inr ⟨_, classified, .inr ⟨(), accepted, ?_⟩⟩
      simp only [isTaken, if_true]
      rfl

end Node

section Nodes

variable {rules : Rules} {nodes : List Editor.Node}

theorem keys_of_declareAll {declared : Declared}
    (ran : nodes.foldlM rules.declare .nothing = .ok declared) :
    declared.roles.map Prod.fst = nodes.map Editor.Node.id := by
  obtain ⟨entries, rfl, admitted, _⟩ := declareAll_eq_ok_iff.mp ran
  exact keys_of_admitted admitted

/-- All nodes of a list can be declared exactly when none is defective. -/
theorem exists_declareAll_iff :
    (∃ declared, nodes.foldlM rules.declare .nothing = .ok declared) ↔
      rules.Sound nodes := by
  constructor
  · rintro ⟨declared, ran⟩ before node after rfl defective
    obtain ⟨error, nodeError⟩ := exists_nodeError_iff.mpr defective
    -- The ids declared when the node is looked at are those before it.
    rw [List.foldlM_append, bind_eq_ok_iff] at ran
    obtain ⟨earlier, earlierRan, ran⟩ := ran
    rw [← keys_of_declareAll earlierRan, ← declare_eq_error_iff] at nodeError
    rw [List.foldlM_cons, nodeError] at ran
    cases ran
  · intro sound
    cases ended : nodes.foldlM rules.declare .nothing with
    | ok declared => exact ⟨declared, rfl⟩
    | error error =>
        obtain ⟨before, node, after, earlier, split, ran, failed⟩ :=
          foldlM_eq_error_iff.mp ended
        rw [declare_eq_error_iff, keys_of_declareAll ran] at failed
        have defective := exists_nodeError_iff.mp ⟨error, failed⟩
        exact (sound before node after split defective).elim

theorem Sound.of_append {later : List Editor.Node}
    (sound : rules.Sound (nodes ++ later)) : rules.Sound nodes := by
  rintro before node after rfl
  exact sound before node (after ++ later) (by simp)

/-- Declaring the nodes of a list fails at the first defective one. -/
theorem declareAll_eq_error_iff {error : CompileError} :
    nodes.foldlM rules.declare .nothing = .error error ↔
      ∃ before node after, nodes = before ++ node :: after ∧
        rules.Sound before ∧
        rules.NodeError (before.map Editor.Node.id) node error := by
  rw [foldlM_eq_error_iff]
  constructor
  · rintro ⟨before, node, after, earlier, split, ran, failed⟩
    rw [declare_eq_error_iff, keys_of_declareAll ran] at failed
    exact ⟨before, node, after, split,
      exists_declareAll_iff.mp ⟨earlier, ran⟩, failed⟩
  · rintro ⟨before, node, after, split, sound, failed⟩
    obtain ⟨earlier, ran⟩ := exists_declareAll_iff.mpr sound
    rw [← keys_of_declareAll ran, ← declare_eq_error_iff] at failed
    exact ⟨before, node, after, earlier, split, ran, failed⟩

end Nodes

end Rules

/-- The defect of a graph with a wrong number of result nodes. -/
def ReferenceFault.ofResultCount : Nat → ReferenceFault
  | 0 => noResult
  | count + 1 => severalResults (count + 1)

/-- The error that an edge gives rise to among nodes with the given ids.  An
unknown source is reported before an unknown target. -/
inductive Editor.Edge.EndError (ids : List NodeId) (edge : Editor.Edge) :
    CompileError → Prop
  | source : edge.source ∉ ids →
      EndError ids edge (.malformedReference
        (.undeclaredEnd edge.source edge.target edge.source))
  | target : edge.source ∈ ids → edge.target ∉ ids →
      EndError ids edge (.malformedReference
        (.undeclaredEnd edge.source edge.target edge.target))

namespace Model

/-- The error of the first defect of a graph. -/
inductive FirstDefect (rules : Rules) (graph : Editor.Graph) :
    CompileError → Prop
  | node {before node after error} :
      graph.nodes = before ++ node :: after → rules.Sound before →
      rules.NodeError (before.map Editor.Node.id) node error →
      FirstDefect rules graph error
  | results : rules.Sound graph.nodes →
      rules.resultCount graph.nodes ≠ 1 →
      FirstDefect rules graph (.malformedReference
        (.ofResultCount (rules.resultCount graph.nodes)))
  | edge {before edge after error} : rules.Sound graph.nodes →
      rules.resultCount graph.nodes = 1 →
      graph.edges = before ++ edge :: after →
      (∀ earlier ∈ before,
        earlier.source ∈ graph.ids ∧ earlier.target ∈ graph.ids) →
      edge.EndError graph.ids error → FirstDefect rules graph error

theorem length_resultIds_of_admitted {rules : Rules}
    {nodes : List Editor.Node} {entries : List (NodeId × Role)}
    (admitted : List.Forall₂ rules.Admits nodes entries) :
    (Declared.resultIdsOf entries).length = rules.resultCount nodes := by
  induction admitted with
  | nil => rfl
  | @cons node entry nodes entries admitted _ ih =>
      have sameRole : rules.classify node = .ok .result ↔
          entry.2 = .result := by
        rw [admitted.classified, Except.ok.injEq]
      simp only [Declared.resultIdsOf, Rules.resultCount, List.length_map,
        List.filter_cons, List.countP_cons, decide_eq_true_eq, sameRole] at ih ⊢
      by_cases isResult : entry.2 = .result
      · simp [isResult, ih]
      · simp [isResult, ih]

theorem length_resultIds {rules : Rules} {nodes : List Editor.Node}
    {declared : Declared}
    (ran : nodes.foldlM rules.declare .nothing = .ok declared) :
    declared.resultIds.length = rules.resultCount nodes := by
  obtain ⟨entries, rfl, admitted, _⟩ := Rules.declareAll_eq_ok_iff.mp ran
  exact length_resultIds_of_admitted admitted

theorem resultId?_eq_error_iff {resultIds : List NodeId}
    {error : CompileError} :
    resultId? resultIds = .error error ↔
      resultIds.length ≠ 1 ∧
        error = .malformedReference (.ofResultCount resultIds.length) := by
  rcases resultIds with _ | ⟨first, _ | ⟨second, others⟩⟩
  · simp [resultId?, ReferenceFault.ofResultCount, eq_comm]
  · simp [resultId?]
  · simp [resultId?, ReferenceFault.ofResultCount, eq_comm]

section Links

variable {roles : List (NodeId × Role)} {error : CompileError}

theorem link_eq_error_iff {index : EdgeIndex} {edge : Editor.Edge}
    (sameKeys : index.map Prod.fst = roles.map Prod.fst) :
    link roles index edge = .error error ↔
      edge.EndError (roles.map Prod.fst) error := by
  simp only [link, ← Option.not_isSome_iff_eq_none, Option.isNone_iff_eq_none,
    lookup_isSome_iff_mem_keys]
  constructor
  · intro failed
    split at failed
    · cases failed
      exact .source ‹_›
    · rename_i sourceDeclared
      split at failed
      · rename_i notPushed
        cases failed
        rw [EdgeIndex.push?_eq_none_iff, sameKeys] at notPushed
        exact .target (not_not.mp sourceDeclared) notPushed
      · cases failed
  · rintro (noSource | ⟨sourceDeclared, noTarget⟩)
    · rw [if_pos noSource]
    · have notPushed : index.push? edge.target edge.incoming = none := by
        rw [EdgeIndex.push?_eq_none_iff, sameKeys]
        exact noTarget
      rw [if_neg (not_not.mpr sourceDeclared), notPushed]

/-- Linking the edges fails at the first one that lacks an end. -/
theorem linkAll_eq_error_iff {edges : List Editor.Edge}
    (distinct : (roles.map Prod.fst).Nodup) :
    edges.foldlM (link roles) (.ofEdges (roles.map Prod.fst) []) =
        .error error ↔
      ∃ before edge after, edges = before ++ edge :: after ∧
        (∀ earlier ∈ before, earlier.source ∈ roles.map Prod.fst ∧
          earlier.target ∈ roles.map Prod.fst) ∧
        edge.EndError (roles.map Prod.fst) error := by
  rw [foldlM_eq_error_iff]
  constructor
  · rintro ⟨before, edge, after, _, split, ran, failed⟩
    obtain ⟨joined, rfl⟩ := (linkAll_eq_ok_iff distinct).mp ran
    rw [link_eq_error_iff (EdgeIndex.keys_ofEdges _ _)] at failed
    exact ⟨before, edge, after, split, joined, failed⟩
  · rintro ⟨before, edge, after, split, joined, failed⟩
    refine ⟨before, edge, after, _, split,
      (linkAll_eq_ok_iff distinct).mpr ⟨joined, rfl⟩, ?_⟩
    rw [link_eq_error_iff (EdgeIndex.keys_ofEdges _ _)]
    exact failed

end Links

/-- Once the nodes are declared, linking the edges of their graph fails at the
first one that lacks an end. -/
theorem linkDeclared_eq_error_iff {rules : Rules} {graph : Editor.Graph}
    {declared : Declared} {error : CompileError}
    (ran : graph.nodes.foldlM rules.declare .nothing = .ok declared) :
    graph.edges.foldlM (link declared.roles) declared.edges = .error error ↔
      ∃ before edge after, graph.edges = before ++ edge :: after ∧
        (∀ earlier ∈ before,
          earlier.source ∈ graph.ids ∧ earlier.target ∈ graph.ids) ∧
        edge.EndError graph.ids error := by
  obtain ⟨entries, rfl, admitted, distinct⟩ :=
    Rules.declareAll_eq_ok_iff.mp ran
  have keys : entries.map Prod.fst = graph.ids :=
    Rules.keys_of_admitted admitted
  rw [← keys]
  exact linkAll_eq_error_iff (Rules.keys_nodup_of_admitted admitted distinct)

/-- A graph has no model exactly when it has a first defect, which is then the
one that is reported. -/
theorem build_eq_error_iff {rules : Rules} {graph : Editor.Graph}
    {error : CompileError} :
    build rules graph = .error error ↔ FirstDefect rules graph error := by
  have finished (model : Model) :
      (pure model : Except CompileError Model) ≠ .error error := by
    simp [pure, Except.pure]
  simp only [build, bind_eq_error_iff, Rules.declareAll_eq_error_iff,
    resultId?_eq_error_iff, finished, and_false, exists_false, or_false]
  constructor
  · rintro (⟨before, node, after, split, sound, nodeError⟩ |
      ⟨declared, ran, ⟨notOne, rfl⟩ | ⟨resultId, oneResult, failed⟩⟩)
    · exact .node split sound nodeError
    · have sound := Rules.exists_declareAll_iff.mp ⟨declared, ran⟩
      rw [length_resultIds ran] at notOne ⊢
      exact .results sound notOne
    · have sound := Rules.exists_declareAll_iff.mp ⟨declared, ran⟩
      have counted : rules.resultCount graph.nodes = 1 := by
        rw [← length_resultIds ran, resultId?_eq_ok_iff.mp oneResult]
        rfl
      obtain ⟨before, edge, after, split, joined, endError⟩ :=
        (linkDeclared_eq_error_iff ran).mp failed
      exact .edge sound counted split joined endError
  · rintro (⟨split, sound, nodeError⟩ | ⟨sound, notOne⟩ |
      ⟨sound, counted, split, joined, endError⟩)
    · exact .inl ⟨_, _, _, split, sound, nodeError⟩
    · obtain ⟨declared, ran⟩ := Rules.exists_declareAll_iff.mpr sound
      rw [← length_resultIds ran] at notOne ⊢
      exact .inr ⟨declared, ran, .inl ⟨notOne, rfl⟩⟩
    · obtain ⟨declared, ran⟩ := Rules.exists_declareAll_iff.mpr sound
      obtain ⟨resultId, oneResult⟩ : ∃ resultId,
          declared.resultIds = [resultId] := by
        rw [← List.length_eq_one_iff, length_resultIds ran]
        exact counted
      exact .inr ⟨declared, ran, .inr ⟨resultId,
        resultId?_eq_ok_iff.mpr oneResult,
        (linkDeclared_eq_error_iff ran).mpr
          ⟨_, _, _, split, joined, endError⟩⟩⟩

theorem sound_of_build {rules : Rules} {graph : Editor.Graph} {model : Model}
    (built : build rules graph = .ok model) : rules.Sound graph.nodes := by
  rw [build, bind_eq_ok_iff] at built
  obtain ⟨declared, ran, _⟩ := built
  exact Rules.exists_declareAll_iff.mp ⟨declared, ran⟩

/-- Building reports the first defect of a graph and nothing else.  It fails
exactly on the graphs that have one; the first defective node counts before
whatever is wrong with later nodes, with the result or with the edges; and the
wording of the report shows everything that the report is about. -/
theorem build_reports_first_defect (rules : Rules) (graph : Editor.Graph) :
    (∀ error, build rules graph = .error error ↔
      FirstDefect rules graph error) ∧
    (∀ before node after, graph.nodes = before ++ node :: after →
      rules.Sound before →
      rules.Defective (before.map Editor.Node.id) node →
      ∃ error, rules.NodeError (before.map Editor.Node.id) node error ∧
        build rules graph = .error error) ∧
    ∀ error, build rules graph = .error error →
      ∀ subject ∈ error.subjects, Shows error.message subject := by
  refine ⟨fun _ => build_eq_error_iff, ?_, fun error _ => error.message_shows⟩
  intro before node after split sound defective
  obtain ⟨error, nodeError⟩ := Rules.exists_nodeError_iff.mpr defective
  exact ⟨error, nodeError,
    build_eq_error_iff.mpr (.node split sound nodeError)⟩

/-- A graph with nearly every defect: its fourth node holds a literal that the
sample rules refuse, under an id that is taken, its last node has no role, it
has two result nodes, and its edge comes from nowhere. -/
def clutteredGraph : Editor.Graph where
  nodes :=
    [⟨"one", some "literal", ⟨none, some "1", some "int", none, none⟩⟩,
      ⟨"out", some "result", Editor.Payload.empty⟩,
      ⟨"end", some "result", Editor.Payload.empty⟩,
      ⟨"one", some "literal", ⟨none, some "", some "int", none, none⟩⟩,
      ⟨"lost", some "widget", Editor.Payload.empty⟩]
  edges := [⟨"nowhere", "one", none⟩]

theorem clutteredGraph_reports_first_defect :
    (sampleRules.Sound (clutteredGraph.nodes.take 3) ∧
      sampleRules.Refuses "" .int) ∧
    build sampleRules clutteredGraph =
      .error (.invalidLiteral "one" "" .int) := by
  have sound : sampleRules.Sound (clutteredGraph.nodes.take 3) :=
    Rules.exists_declareAll_iff.mp ⟨_, rfl⟩
  have refuses : sampleRules.Refuses "" .int := ⟨_, rfl, rfl⟩
  refine ⟨⟨sound, refuses⟩, ?_⟩
  rw [(build_reports_first_defect sampleRules clutteredGraph).1]
  exact .node rfl sound (.refused rfl refuses)

end Model

end PipeGraph
