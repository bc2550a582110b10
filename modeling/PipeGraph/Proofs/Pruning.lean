import PipeGraph.Proofs.Simulation
import PipeGraph.Proofs.Violations

/-!
# What a graph can do without

Compiling depends on nothing but the nodes and edges that are followed from the
result.  Extra pipe edges, edges into literals and everything that the result
does not reach may be left out in any selection, and the rest still compiles to
the same artifacts.  Without any extra pipe edge it does so under the strict
policy as well.
-/

namespace PipeGraph

section Marked

variable {α : Type}

/-- The elements of a list that are marked to be kept. -/
def kept (marked : List (α × Bool)) : List α :=
  (marked.filter Prod.snd).map Prod.fst

/-- A condition on every place of a marked list: on the elements before it, the
element there, and its mark. -/
def AtEachPlace (condition : List α → α → Bool → Prop)
    (marked : List (α × Bool)) : Prop :=
  ∀ before element isKept after,
    marked = before ++ (element, isKept) :: after →
    condition (before.map Prod.fst) element isKept

variable {marked : List (α × Bool)} {element : α} {isKept : Bool}
  {condition weaker : List α → α → Bool → Prop} {counts : α → Bool}

@[simp]
theorem kept_cons_true :
    kept ((element, true) :: marked) = element :: kept marked :=
  rfl

@[simp]
theorem kept_cons_false : kept ((element, false) :: marked) = kept marked :=
  rfl

theorem mem_kept_iff : element ∈ kept marked ↔ (element, true) ∈ marked := by
  simp [kept]

theorem atEachPlace_nil : AtEachPlace condition [] := by
  intro before element isKept after split
  simp at split

theorem atEachPlace_cons :
    AtEachPlace condition ((element, isKept) :: marked) ↔
      condition [] element isKept ∧
        AtEachPlace (fun before => condition (element :: before)) marked := by
  constructor
  · intro each
    refine ⟨each [] element isKept marked rfl, ?_⟩
    intro before other otherKept after split
    exact each ((element, isKept) :: before) other otherKept after
      (by simp [split])
  · rintro ⟨here, later⟩ before other otherKept after split
    cases before with
    | nil =>
        cases split
        exact here
    | cons first before =>
        cases split
        exact later before other otherKept after rfl

theorem AtEachPlace.mono (each : AtEachPlace condition marked)
    (weaken : ∀ before element isKept, condition before element isKept →
      weaker before element isKept) :
    AtEachPlace weaker marked :=
  fun before element isKept after split =>
    weaken _ _ _ (each before element isKept after split)

theorem AtEachPlace.of_mem (each : AtEachPlace condition marked)
    (member : (element, isKept) ∈ marked) :
    ∃ before, condition before element isKept := by
  obtain ⟨before, after, split⟩ := List.append_of_mem member
  exact ⟨_, each before element isKept after split⟩

theorem filter_kept
    (dropped : ∀ element, (element, false) ∈ marked →
      counts element = false) :
    (kept marked).filter counts = (marked.map Prod.fst).filter counts := by
  induction marked with
  | nil => rfl
  | cons entry marked ih =>
      obtain ⟨element, isKept⟩ := entry
      have others := ih fun other member => dropped other (by simp [member])
      cases isKept with
      | true => cases counted : counts element <;> simp [counted, others]
      | false =>
          have uncounted := dropped element (by simp)
          simp [uncounted, others]

/-- If an element that counts is dropped only after another one, then the first
one is the same. -/
theorem find?_kept
    (dropped : AtEachPlace (fun before element isKept =>
      isKept = false → counts element = true →
        ∃ earlier ∈ before, counts earlier = true) marked) :
    (kept marked).find? counts = (marked.map Prod.fst).find? counts := by
  induction marked with
  | nil => rfl
  | cons entry marked ih =>
      obtain ⟨element, isKept⟩ := entry
      obtain ⟨here, later⟩ := atEachPlace_cons.mp dropped
      cases counted : counts element with
      | true =>
          cases isKept with
          | true => simp [counted]
          | false =>
              obtain ⟨_, none, _⟩ := here rfl counted
              simp at none
      | false =>
          have others : (kept marked).find? counts =
              (marked.map Prod.fst).find? counts := by
            apply ih
            refine later.mono fun before other otherKept earlier => ?_
            simpa [counted] using earlier
          cases isKept <;> simp [counted, others]

/-- If every element that counts is dropped after another one, then at most one
is left. -/
theorem countP_kept_le_one
    (dropped : AtEachPlace (fun before element isKept =>
      counts element = true → (∃ earlier ∈ before, counts earlier = true) →
        isKept = false) marked) :
    (kept marked).countP counts ≤ 1 := by
  induction marked with
  | nil => simp [kept]
  | cons entry marked ih =>
      obtain ⟨element, isKept⟩ := entry
      obtain ⟨_, later⟩ := atEachPlace_cons.mp dropped
      cases counted : counts element with
      | true =>
          have noneLeft : (kept marked).countP counts = 0 := by
            rw [List.countP_eq_zero]
            intro other member otherCounted
            obtain ⟨before, isDropped⟩ := later.of_mem (mem_kept_iff.mp member)
            cases isDropped otherCounted ⟨element, by simp, counted⟩
          cases isKept <;> simp [counted, noneLeft]
      | false =>
          have others : (kept marked).countP counts ≤ 1 := by
            apply ih
            refine later.mono fun before other otherKept isDropped => ?_
            simpa [counted] using isDropped
          cases isKept <;> simp [counted, others]

end Marked

/-- A choice of nodes and edges of a graph.  Edges are chosen place by place, so
that of two equal edges one can be kept and the other left out. -/
structure Editor.Selection (graph : Graph) where
  keepsNode : Node → Bool
  marked : List (Edge × Bool)
  marked_edges : marked.map Prod.fst = graph.edges

/-- The part of a graph that is chosen. -/
def Editor.Selection.part {graph : Graph} (selection : Selection graph) :
    Graph where
  nodes := graph.nodes.filter selection.keepsNode
  edges := kept selection.marked

namespace Model

/-- A pipe edge into a command, drawn after another pipe edge into it. -/
def ExtraPipe (model : Model) (before : List Editor.Edge)
    (edge : Editor.Edge) : Prop :=
  (∃ name switches,
    model.role? edge.target = some (.command name switches)) ∧
  edge.incoming.FeedsPipe ∧
  ∃ earlier ∈ before, earlier.target = edge.target ∧
    earlier.incoming.FeedsPipe

/-- An edge, drawn after some others, that the walk from the producer of the
result has no use for. -/
inductive Unfollowed (model : Model) (producerId : NodeId)
    (before : List Editor.Edge) (edge : Editor.Edge) : Prop
  | extraPipe : model.ExtraPipe before edge →
      Unfollowed model producerId before edge
  | intoData {text literalType} :
      model.role? edge.target = some (.data text literalType) →
      Unfollowed model producerId before edge
  | unreached : ¬ model.Reaches producerId edge.target →
      edge.target ≠ model.resultId → Unfollowed model producerId before edge

/-- Only edges that are not followed and nodes that are not reached are left
out, and no edge loses one of its ends. -/
structure Prunes (model : Model) (producerId : NodeId) {graph : Editor.Graph}
    (selection : Editor.Selection graph) : Prop where
  edges : AtEachPlace (fun before edge isKept => isKept = false →
    model.Unfollowed producerId before edge) selection.marked
  nodes : ∀ node ∈ graph.nodes, selection.keepsNode node = false →
    ¬ model.Reaches producerId node.id ∧ node.id ≠ model.resultId
  ends : ∀ edge ∈ selection.part.edges,
    ∀ node ∈ graph.nodes, selection.keepsNode node = false →
      edge.source ≠ node.id ∧ edge.target ≠ node.id

/-- Every extra pipe edge into a command that is reached is left out. -/
def PrunesExtraPipes (model : Model) (producerId : NodeId)
    {graph : Editor.Graph} (selection : Editor.Selection graph) : Prop :=
  AtEachPlace (fun before edge isKept =>
    model.Reaches producerId edge.target → model.ExtraPipe before edge →
      isKept = false) selection.marked

/-- The nodes that have to stay: those that are reached, and the result. -/
def Stays (model : Model) (producerId nodeId : NodeId) : Prop :=
  model.Reaches producerId nodeId ∨ nodeId = model.resultId

section Part

variable {rules : Rules} {graph : Editor.Graph} {model part : Model}
  {producerId nodeId : NodeId} {selection : Editor.Selection graph}

theorem Prunes.mem_part_nodes (prunes : model.Prunes producerId selection)
    {node : Editor.Node} (member : node ∈ graph.nodes)
    (stays : model.Stays producerId node.id) :
    node ∈ selection.part.nodes := by
  refine List.mem_filter.mpr ⟨member, ?_⟩
  by_contra isDropped
  obtain ⟨unreached, notResult⟩ :=
    prunes.nodes node member (by simpa using isDropped)
  exact stays.elim unreached notResult

theorem mem_part_ids (declared : nodeId ∈ graph.ids)
    (apart : ∀ node ∈ graph.nodes, selection.keepsNode node = false →
      nodeId ≠ node.id) :
    nodeId ∈ selection.part.ids := by
  obtain ⟨node, member, rfl⟩ := List.mem_map.mp declared
  refine List.mem_map.mpr ⟨node, List.mem_filter.mpr ⟨member, ?_⟩, rfl⟩
  by_contra isDropped
  exact apart node member (by simpa using isDropped) rfl

theorem exists_result_node (isModel : IsModelOf rules graph model) :
    ∃ node ∈ graph.nodes, rules.classify node = .ok .result ∧
      node.id = model.resultId ∧
      ∀ other ∈ graph.nodes, rules.classify other = .ok .result →
        other = node := by
  obtain ⟨node, member, classified, resultEq⟩ := isModel.represents.result
  refine ⟨node, member, classified, resultEq.symm, ?_⟩
  intro other otherMember otherClassified
  exact isModel.result_unique.unique ⟨otherMember, otherClassified⟩
    ⟨member, classified⟩

theorem Prunes.wellFormed_part (prunes : model.Prunes producerId selection)
    (isModel : IsModelOf rules graph model) :
    WellFormed rules selection.part where
  classified node member :=
    isModel.wellFormed.classified node (List.mem_of_mem_filter member)
  literalsValid node member :=
    isModel.wellFormed.literalsValid node (List.mem_of_mem_filter member)
  distinct :=
    isModel.distinct.sublist (List.filter_sublist.map Editor.Node.id)
  oneResult := by
    obtain ⟨node, member, classified, isResult, unique⟩ :=
      exists_result_node isModel
    refine ⟨node, ⟨prunes.mem_part_nodes member (.inr isResult), classified⟩,
      ?_⟩
    rintro other ⟨otherMember, otherClassified⟩
    exact unique other (List.mem_of_mem_filter otherMember) otherClassified
  joined edge member := by
    have drawn : edge ∈ graph.edges := by
      rw [← selection.marked_edges]
      exact List.mem_map.mpr ⟨_, mem_kept_iff.mp member, rfl⟩
    obtain ⟨sourceDeclared, targetDeclared⟩ :=
      isModel.wellFormed.joined edge drawn
    exact ⟨mem_part_ids sourceDeclared fun node nodeMember isDropped =>
        (prunes.ends edge member node nodeMember isDropped).1,
      mem_part_ids targetDeclared fun node nodeMember isDropped =>
        (prunes.ends edge member node nodeMember isDropped).2⟩

variable (prunes : model.Prunes producerId selection)
  (isModel : IsModelOf rules graph model)
  (isPart : IsModelOf rules selection.part part)

include isModel isPart

theorem resultId_part : part.resultId = model.resultId := by
  obtain ⟨node, member, sameId, classified⟩ :=
    isPart.exists_node_of_role? isPart.role?_resultId
  have isResult : model.role? part.resultId = some .result :=
    isModel.role?_eq_some_iff_exists.mpr
      ⟨node, List.mem_of_mem_filter member, sameId, classified⟩
  exact isModel.eq_resultId_of_role? isResult

include prunes

theorem role?_part {role : Role} (stays : model.Stays producerId nodeId)
    (hasRole : model.role? nodeId = some role) :
    part.role? nodeId = some role := by
  obtain ⟨node, member, rfl, classified⟩ := isModel.exists_node_of_role? hasRole
  exact isPart.role?_eq_some_iff_exists.mpr
    ⟨node, prunes.mem_part_nodes member stays, rfl, classified⟩

/-- Of the edges into a node that stays, only extra pipe edges into a command
and edges into a literal are left out. -/
theorem filter_incoming_part (stays : model.Stays producerId nodeId)
    (notData : ∀ text literalType,
      model.role? nodeId ≠ some (.data text literalType))
    (counts : Incoming → Bool)
    (noExtra : ∀ name switches,
      model.role? nodeId = some (.command name switches) →
      ∀ edge : Incoming, edge.FeedsPipe → counts edge = false) :
    (part.incoming nodeId).filter counts =
      (model.incoming nodeId).filter counts := by
  rw [isPart.filter_incoming, isModel.filter_incoming,
    ← selection.marked_edges]
  refine congrArg (List.map Editor.Edge.incoming) (filter_kept ?_)
  intro edge member
  obtain ⟨before, unfollowed⟩ := prunes.edges.of_mem member
  rw [decide_eq_false_iff_not]
  rintro ⟨rfl, counted⟩
  cases unfollowed rfl with
  | extraPipe extra =>
      obtain ⟨⟨name, switches, isCommand⟩, feeds, _⟩ := extra
      rw [noExtra name switches isCommand _ feeds] at counted
      cases counted
  | intoData isData => exact notData _ _ isData
  | unreached unreached notResult => exact stays.elim unreached notResult

theorem incoming_part (stays : model.Stays producerId nodeId)
    (notData : ∀ text literalType,
      model.role? nodeId ≠ some (.data text literalType))
    (notCommand : ∀ name switches,
      model.role? nodeId ≠ some (.command name switches)) :
    part.incoming nodeId = model.incoming nodeId := by
  have all := filter_incoming_part prunes isModel isPart stays notData
    (fun _ => true)
    fun name switches isCommand => (notCommand name switches isCommand).elim
  simpa using all

variable {name : String} {switches : List String}

theorem parameterSources_part (stays : model.Stays producerId nodeId)
    (isCommand : model.role? nodeId = some (.command name switches)) :
    Incoming.parameterSources (part.incoming nodeId) =
      Incoming.parameterSources (model.incoming nodeId) := by
  have named := filter_incoming_part prunes isModel isPart stays
    (by simp [isCommand]) (fun edge => ¬ edge.FeedsPipe)
    fun _ _ _ edge feeds => by simp [feeds]
  rw [Incoming.parameterSources_eq, Incoming.parameterSources_eq, named]

/-- The first pipe edge into a command that stays is never an extra one. -/
theorem head?_pipeSources_part (stays : model.Stays producerId nodeId)
    (isCommand : model.role? nodeId = some (.command name switches)) :
    (Incoming.pipeSources (part.incoming nodeId)).head? =
      (Incoming.pipeSources (model.incoming nodeId)).head? := by
  simp only [Incoming.pipeSources_eq, isPart.filter_incoming,
    isModel.filter_incoming, List.head?_map, List.head?_filter,
    ← selection.marked_edges]
  refine congrArg _ (congrArg _ (find?_kept ?_))
  refine prunes.edges.mono fun before edge isKept unfollowed isDropped => ?_
  simp only [decide_eq_true_eq]
  rintro ⟨rfl, _⟩
  cases unfollowed isDropped with
  | extraPipe extra =>
      obtain ⟨_, _, earlier, member, sameTarget, earlierFeeds⟩ := extra
      exact ⟨earlier, member, sameTarget, earlierFeeds⟩
  | intoData isData =>
      rw [isCommand] at isData
      cases isData
  | unreached unreached notResult =>
      exact (stays.elim unreached notResult).elim

omit prunes isModel in
/-- Without extra pipe edges a command that is reached has one pipe edge at
most. -/
theorem countP_feedsPipe_part_le_one
    (noExtra : model.PrunesExtraPipes producerId selection)
    (reached : model.Reaches producerId nodeId)
    (isCommand : model.role? nodeId = some (.command name switches)) :
    (part.incoming nodeId).countP (fun edge => edge.FeedsPipe) ≤ 1 := by
  rw [List.countP_eq_length_filter, isPart.filter_incoming, List.length_map,
    ← List.countP_eq_length_filter]
  apply countP_kept_le_one
  refine noExtra.mono fun before edge isKept isDropped => ?_
  simp only [decide_eq_true_eq]
  rintro ⟨rfl, feeds⟩ earlier
  exact isDropped reached ⟨⟨name, switches, isCommand⟩, feeds, earlier⟩

omit prunes isPart in
theorem Stays.reaches (stays : model.Stays producerId nodeId)
    (notResult : model.role? nodeId ≠ some .result) :
    model.Reaches producerId nodeId := by
  rcases stays with reached | rfl
  · exact reached
  · exact (notResult isModel.role?_resultId).elim

/-- The model of a pruned graph is walked beside that of the whole one, each
node that stays beside itself. -/
theorem simulation_of_prunes (declared : model.DeclaredFrom producerId)
    {policy : PipePolicy}
    (allowed : policy = .strict →
      model.PrunesExtraPipes producerId selection) :
    Simulation (fun _ _ => True)
      (fun nodeId otherId => nodeId = otherId ∧
        model.Stays producerId nodeId)
      .firstWins policy model part where
  role_eq := by
    rintro nodeId _ ⟨rfl, stays⟩
    have hasRole : ∃ role, model.role? nodeId = some role := by
      rcases stays with reached | rfl
      · exact Option.isSome_iff_exists.mp (declared nodeId reached)
      · exact ⟨_, isModel.role?_resultId⟩
    obtain ⟨role, isRole⟩ := hasRole
    rw [isRole, role?_part prunes isModel isPart stays isRole]
  cyclicFlow _ := trivial
  unknownNode _ _ := trivial
  resultAsInput _ := trivial
  operands := by
    rintro nodeId _ operator ⟨rfl, stays⟩ isOperation
    have sameEdges := incoming_part prunes isModel isPart stays
      (by simp [isOperation]) (by simp [isOperation])
    have sameSources :
        part.operandSources nodeId = model.operandSources nodeId := by
      simp only [operandSources, sameEdges]
    rw [sameSources]
    refine (Corresponds.refl (fun _ => trivial)
      _).with_outcomes.mono ?_
    rintro ⟨leftId, rightId⟩ _ ⟨sources, _, rfl⟩
    have fed := operandSources_eq_ok_iff.mp sources
    have reached := stays.reaches isModel (by simp [isOperation])
    exact ⟨⟨rfl, .inl (reached.tail (.left isOperation fed))⟩,
      ⟨rfl, .inl (reached.tail (.right isOperation fed))⟩⟩
  pipeCheck := by
    rintro nodeId _ name switches ⟨rfl, stays⟩ isCommand
    have reached := stays.reaches isModel (by simp [isCommand])
    rw [checkPipe_eq_ok_iff.mpr (by simp), checkPipe_eq_ok_iff.mpr
      fun isStrict => countP_feedsPipe_part_le_one isPart
        (allowed isStrict) reached isCommand]
    exact .ok trivial
  pipe := by
    rintro nodeId _ name switches ⟨rfl, stays⟩ isCommand
    have reached := stays.reaches isModel (by simp [isCommand])
    rw [head?_pipeSources_part prunes isModel isPart stays isCommand]
    cases first : (Incoming.pipeSources (model.incoming nodeId)).head? with
    | none => exact .none
    | some sourceId =>
        have follows := follows_of_head?_pipeSources isCommand first
        exact .some ⟨rfl, .inl (reached.tail follows)⟩
  parameters := by
    rintro nodeId _ name switches ⟨rfl, stays⟩ isCommand
    have reached := stays.reaches isModel (by simp [isCommand])
    rw [parameterSources_part prunes isModel isPart stays isCommand,
      List.forall₂_same]
    rintro ⟨parameter, sourceId⟩ member
    have follows := follows_of_mem_parameterSources isCommand member
    exact ⟨rfl, rfl, .inl (reached.tail follows)⟩

end Part

end Model

/-- What is left of a graph that compiles, when only edges that are not followed
and nodes that are not reached are left out, compiles to the same artifacts, and
under the strict policy too if no extra pipe edge is left. -/
theorem Compiler.artifacts_prune {rules : Rules} {graph : Editor.Graph}
    {artifacts : Artifacts} {model : Model} {producer : Incoming}
    (compiled : (Compiler.artifacts ⟨rules, .firstWins⟩ graph).outcome =
      .ok artifacts)
    (built : Model.build rules graph = .ok model)
    (oneProducer : model.incoming model.resultId = [producer])
    (selection : Editor.Selection graph)
    (prunes : model.Prunes producer.source selection) :
    (Compiler.artifacts ⟨rules, .firstWins⟩ selection.part).outcome =
        .ok artifacts ∧
      (model.PrunesExtraPipes producer.source selection →
        (Compiler.artifacts ⟨rules, .strict⟩ selection.part).outcome =
          .ok artifacts) := by
  obtain ⟨_, builtToo, tree, extracted, rfl⟩ := artifacts_eq_ok_iff.mp compiled
  rw [built] at builtToo
  cases builtToo
  obtain ⟨_, oneEdge, resolved⟩ := Model.extract_eq_ok_iff.mp extracted
  rw [oneProducer] at oneEdge
  cases oneEdge
  have unfolds := Model.unfolds_of_resolve_eq_ok resolved
  have isModel := Model.build_eq_ok_iff.mp built
  obtain ⟨part, isPart⟩ := (prunes.wellFormed_part isModel).exists_model
  have partProducer : part.incoming part.resultId = [producer] := by
    have isResult := isModel.role?_resultId
    rw [Model.resultId_part isModel isPart, ← oneProducer]
    exact Model.incoming_part prunes isModel isPart (.inr rfl)
      (by simp [isResult]) (by simp [isResult])
  have compiles (policy : PipePolicy)
      (allowed : policy = .strict →
        model.PrunesExtraPipes producer.source selection) :
      (Compiler.artifacts ⟨rules, policy⟩ selection.part).outcome =
        .ok tree.artifacts := by
    have simulation := Model.simulation_of_prunes prunes isModel isPart
      unfolds.declaredFrom allowed
    have partUnfolds := simulation.unfolds ⟨rfl, .inl .refl⟩ unfolds
    have partExtracted : (part.extract policy).outcome = .ok tree :=
      Model.extract_eq_ok_iff.mpr ⟨producer, partProducer,
        Model.resolve_nodeCount_eq_ok_iff.mpr partUnfolds⟩
    exact artifacts_eq_ok_iff.mpr
      ⟨part, Model.build_eq_ok_iff.mpr isPart, tree, partExtracted, rfl⟩
  exact ⟨compiles .firstWins (by simp), fun noExtra =>
    compiles .strict fun _ => noExtra⟩

/-- The sample graph without its second pipe edge, the edge into the literal,
and the command that feeds itself. -/
def sampleSelection : Editor.Selection Model.sampleGraph where
  keepsNode node := node.id ≠ "loop"
  marked :=
    [(⟨"one", "sum", some "B"⟩, true), (⟨"list", "out", none⟩, true),
      (⟨"one", "list", none⟩, true), (⟨"loop", "list", none⟩, false),
      (⟨"one", "sum", some "A"⟩, true), (⟨"sum", "list", some "depth"⟩, true),
      (⟨"loop", "loop", none⟩, false), (⟨"list", "one", some "A"⟩, false)]
  marked_edges := rfl

theorem sampleModel_not_reaches_loop :
    ¬ Model.sampleModel.Reaches "list" "loop" := by
  have within : ∀ reachedId, Model.sampleModel.Reaches "list" reachedId →
      reachedId ∈ ["list", "one", "sum"] := by
    intro reachedId reaches
    induction reaches with
    | refl => simp
    | tail _ follows ih =>
        have closed : ∀ nodeId ∈ ["list", "one", "sum"],
            ∀ visit ∈ Model.sampleModel.inputs nodeId,
              visit.nodeId ∈ ["list", "one", "sum"] := by
          decide
        exact closed _ ih _ (Model.mem_inputs_of_follows follows)
  intro reaches
  have member := within "loop" reaches
  simp at member

theorem sampleSelection_prunes :
    Model.sampleModel.Prunes "list" sampleSelection where
  edges := by
    simp only [sampleSelection, atEachPlace_cons, atEachPlace_nil,
      reduceCtorEq, false_implies, true_implies, true_and, and_true]
    refine ⟨?_, ?_, ?_⟩
    · exact .extraPipe ⟨⟨"ls", ["--all"], rfl⟩, by decide,
        ⟨"one", "list", none⟩, by simp, rfl, by decide⟩
    · exact .unreached sampleModel_not_reaches_loop (by decide)
    · exact .intoData rfl
  nodes := by
    intro node member isDropped
    have isLoop : node.id = "loop" := by
      simpa [sampleSelection] using isDropped
    rw [isLoop]
    exact ⟨sampleModel_not_reaches_loop, by decide⟩
  ends := by decide

theorem sampleSelection_prunesExtraPipes :
    Model.sampleModel.PrunesExtraPipes "list" sampleSelection := by
  simp only [Model.PrunesExtraPipes, sampleSelection, atEachPlace_cons,
    atEachPlace_nil, implies_true, true_and, and_true]
  refine ⟨?_, ?_, ?_, ?_, ?_⟩
  · rintro _ ⟨⟨name, switches, isCommand⟩, _⟩
    cases isCommand
  · rintro _ ⟨⟨name, switches, isCommand⟩, _⟩
    cases isCommand
  · rintro _ ⟨_, _, earlier⟩
    simp at earlier
  · rintro _ ⟨⟨name, switches, isCommand⟩, _⟩
    cases isCommand
  · rintro _ ⟨_, feeds, _⟩
    exact absurd feeds (by decide)

theorem sampleGraph_artifacts_prune :
    (Model.sampleModel.Prunes "list" sampleSelection ∧
      Model.sampleModel.PrunesExtraPipes "list" sampleSelection) ∧
    (Compiler.artifacts ⟨Model.sampleRules, .strict⟩
      sampleSelection.part).outcome = .ok sampleInput.artifacts := by
  refine ⟨⟨sampleSelection_prunes, sampleSelection_prunesExtraPipes⟩, ?_⟩
  exact (Compiler.artifacts_prune artifacts_sampleGraph
    Model.build_sampleGraph rfl sampleSelection
    sampleSelection_prunes).2 sampleSelection_prunesExtraPipes

end PipeGraph
