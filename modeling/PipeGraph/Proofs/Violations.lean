import PipeGraph.Proofs.Termination

/-!
# The first violation

The walk from the result visits nodes in a fixed order: depth first, every node
before its inputs, the pipe input of a command before its parameters, and the
left operand of an operator before the right one.  This order is set down here
without any mention of trees or errors, and the check that a node has to pass
without any mention of an order.  Extraction fails exactly when some node in the
order fails its check, and it reports the first one that does.
-/

namespace PipeGraph

/-- What is wrong with the handles of two edges into an operator.  A handle that
names no operand counts before an operand that is named twice. -/
def Incoming.operandFault? (first second : Incoming) : Option HandleFault :=
  match first.handle, second.handle with
  | none, _ => some (.missing first.source)
  | some (.named tag), _ => some (.named first.source tag)
  | some (.operand _), none => some (.missing second.source)
  | some (.operand _), some (.named tag) => some (.named second.source tag)
  | some (.operand slot), some (.operand otherSlot) =>
      if slot = otherSlot then some (.repeated slot) else none

theorem OperandSources.ofEdges_eq_error_iff {first second : Incoming}
    {fault : HandleFault} :
    ofEdges [first, second] = .error fault ↔
      Incoming.operandFault? first second = some fault := by
  obtain ⟨firstId, firstHandle⟩ := first
  obtain ⟨secondId, secondHandle⟩ := second
  rcases firstHandle with _ | (_ | _) | _ <;>
    rcases secondHandle with _ | (_ | _) | _ <;>
      simp [ofEdges, assign, both, unassigned, Incoming.operandFault?, bind,
        Except.bind, pure, Except.pure]

namespace Model

/-- A visit to a node, as an input of the node that consumes its output. -/
structure Visit where
  nodeId : NodeId
  consumerId : NodeId
  deriving DecidableEq, Repr

/-- The visits to the inputs of a node, in the order in which they are made. -/
def inputs (model : Model) (nodeId : NodeId) : List Visit :=
  let edges := model.incoming nodeId
  match model.role? nodeId with
  | some (.command _ _) =>
      let pipeEdge := edges.find? fun edge => edge.FeedsPipe
      let namedEdges := edges.filter fun edge => ¬ edge.FeedsPipe
      (pipeEdge.toList ++ namedEdges).map fun edge => ⟨edge.source, nodeId⟩
  | some (.operation _) =>
      match edges with
      | [⟨leftId, some (.operand .left)⟩, ⟨rightId, some (.operand .right)⟩]
      | [⟨rightId, some (.operand .right)⟩, ⟨leftId, some (.operand .left)⟩] =>
          [⟨leftId, nodeId⟩, ⟨rightId, nodeId⟩]
      | _ => []
  | _ => []

/-- The depth-first order of the visits that start with the pending ones: the
inputs of a node come right after it, before everything that was pending. -/
inductive DepthFirst (model : Model) : List Visit → List Visit → Prop
  | done : DepthFirst model [] []
  | visit {next pending visits} :
      DepthFirst model (model.inputs next.nodeId ++ pending) visits →
      DepthFirst model (next :: pending) (next :: visits)

/-- The error that a visited node gives rise to by itself. -/
def violation? (policy : PipePolicy) (model : Model) (visit : Visit) :
    Option CompileError :=
  let edges := model.incoming visit.nodeId
  match model.role? visit.nodeId with
  | some .result => some (.resultAsInput visit.consumerId)
  | some (.operation _) =>
      match edges with
      | [first, second] =>
          (Incoming.operandFault? first second).map
            (.operatorHandles visit.nodeId)
      | _ => some (.operatorArity visit.nodeId edges.length)
  | some (.command _ _) =>
      let pipeCount := edges.countP fun edge => edge.FeedsPipe
      if policy = .strict ∧ 1 < pipeCount then
        some (.ambiguousPipeInput visit.nodeId pipeCount)
      else none
  | _ => none

namespace DepthFirst

variable {model : Model} {pending otherPending visits otherVisits : List Visit}

theorem append (first : DepthFirst model pending visits)
    (second : DepthFirst model otherPending otherVisits) :
    DepthFirst model (pending ++ otherPending) (visits ++ otherVisits) := by
  induction first with
  | done => exact second
  | visit _ ih =>
      rw [List.append_assoc] at ih
      exact .visit ih

theorem unique (first : DepthFirst model pending visits)
    (second : DepthFirst model pending otherVisits) : otherVisits = visits := by
  induction first generalizing otherVisits with
  | done =>
      cases second
      rfl
  | visit _ ih =>
      cases second with
      | visit rest => rw [ih rest]

theorem exists_of_forall_mem
    (each : ∀ visit ∈ pending, ∃ visits, DepthFirst model [visit] visits) :
    ∃ visits, DepthFirst model pending visits := by
  induction pending with
  | nil => exact ⟨[], .done⟩
  | cons next pending ih =>
      simp only [List.forall_mem_cons] at each
      obtain ⟨visits, first⟩ := each.1
      obtain ⟨otherVisits, others⟩ := ih each.2
      exact ⟨visits ++ otherVisits, first.append others⟩

end DepthFirst

section Inputs

variable {model : Model} {nodeId : NodeId}

theorem inputs_command {name : String} {switches : List String}
    (isCommand : model.role? nodeId = some (.command name switches)) :
    model.inputs nodeId =
      (Incoming.pipeSources (model.incoming nodeId)).head?.toList.map
          (⟨·, nodeId⟩) ++
        (Incoming.parameterSources (model.incoming nodeId)).map
          fun parameter => ⟨parameter.2, nodeId⟩ := by
  have pipe : ∀ edge : Option Incoming,
      edge.toList.map (fun edge => (⟨edge.source, nodeId⟩ : Visit)) =
        (edge.map Incoming.source).toList.map (⟨·, nodeId⟩) := by
    intro edge
    cases edge <;> rfl
  simp only [inputs, isCommand, List.map_append, Incoming.head?_pipeSources,
    Incoming.parameterSources_eq, List.map_map, Function.comp_def, pipe]

theorem inputs_operation {operator : Operator} {leftId rightId : NodeId}
    (isOperation : model.role? nodeId = some (.operation operator))
    (operands : Incoming.Operands (model.incoming nodeId) leftId rightId) :
    model.inputs nodeId = [⟨leftId, nodeId⟩, ⟨rightId, nodeId⟩] := by
  rcases operands with edges | edges <;> simp [inputs, isOperation, edges]

/-- Only sources of followed edges are visited. -/
theorem follows_of_mem_inputs {visit : Visit}
    (member : visit ∈ model.inputs nodeId) :
    Follows model nodeId visit.nodeId := by
  cases roleEq : model.role? nodeId with
  | none => simp [inputs, roleEq] at member
  | some role =>
      cases role with
      | result => simp [inputs, roleEq] at member
      | data text literalType => simp [inputs, roleEq] at member
      | command name switches =>
          rw [inputs_command roleEq, List.mem_append, List.mem_map,
            List.mem_map] at member
          rcases member with ⟨sourceId, first, rfl⟩ |
            ⟨⟨parameter, sourceId⟩, listed, rfl⟩
          · exact follows_of_head?_pipeSources roleEq
              (Option.mem_toList.mp first)
          · exact follows_of_mem_parameterSources roleEq listed
      | operation operator =>
          have ofOperands {leftId rightId : NodeId}
              (fed : Incoming.Operands (model.incoming nodeId) leftId rightId)
              (listed : visit ∈ [⟨leftId, nodeId⟩, ⟨rightId, nodeId⟩]) :
              Follows model nodeId visit.nodeId := by
            simp only [List.mem_cons, List.not_mem_nil, or_false] at listed
            rcases listed with rfl | rfl
            · exact .left roleEq fed
            · exact .right roleEq fed
          simp only [inputs, roleEq] at member
          split at member
          · rename_i edges
            exact ofOperands (.inl edges) member
          · rename_i edges
            exact ofOperands (.inr edges) member
          · simp at member

theorem mem_inputs_of_follows {sourceId : NodeId}
    (follows : Follows model nodeId sourceId) :
    ⟨sourceId, nodeId⟩ ∈ model.inputs nodeId := by
  cases follows with
  | pipe isCommand found =>
      rw [inputs_command isCommand, Incoming.head?_pipeSources, found]
      simp
  | @parameter _ _ edge parameter isCommand member named =>
      have listed : (parameter, edge.source) ∈
          Incoming.parameterSources (model.incoming nodeId) :=
        Incoming.mem_parameterSources_iff.mpr ⟨edge, member, named, rfl⟩
      rw [inputs_command isCommand]
      exact List.mem_append_right _ (List.mem_map.mpr ⟨_, listed, rfl⟩)
  | left isOperation operands => simp [inputs_operation isOperation operands]
  | right isOperation operands => simp [inputs_operation isOperation operands]

end Inputs

section Step

variable {policy : PipePolicy} {model : Model} {nodeId consumerId : NodeId}

/-- An operator violates its check exactly when its operands cannot be told
apart, and in the same way. -/
theorem operandSources_eq_error_iff {operator : Operator}
    (isOperation : model.role? nodeId = some (.operation operator))
    {error : CompileError} :
    model.operandSources nodeId = .error error ↔
      violation? policy model ⟨nodeId, consumerId⟩ = some error := by
  simp only [violation?, isOperation, operandSources]
  generalize model.incoming nodeId = edges
  by_cases two : edges.length = 2
  · obtain ⟨first, second, rfl⟩ := List.length_eq_two.mp two
    cases handles : OperandSources.ofEdges [first, second] with
    | error fault =>
        rw [OperandSources.ofEdges_eq_error_iff] at handles
        simp [Except.mapError, handles]
    | ok sources =>
        have noFault : Incoming.operandFault? first second = none := by
          rw [Option.eq_none_iff_forall_ne_some]
          intro fault found
          rw [← OperandSources.ofEdges_eq_error_iff, handles] at found
          cases found
        simp [Except.mapError, noFault]
  · rw [if_neg two]
    split
    · simp at two
    · simp

theorem violation?_eq_none_of_operandSources {operator : Operator}
    (isOperation : model.role? nodeId = some (.operation operator))
    {operands : NodeId × NodeId}
    (sources : model.operandSources nodeId = .ok operands) :
    violation? policy model ⟨nodeId, consumerId⟩ = none := by
  rw [Option.eq_none_iff_forall_ne_some]
  intro error found
  rw [← operandSources_eq_error_iff isOperation, sources] at found
  cases found

theorem error?_checkPipe {name : String} {switches : List String}
    (isCommand : model.role? nodeId = some (.command name switches)) :
    (checkPipe policy nodeId name
        (Incoming.pipeSources (model.incoming nodeId))).error? =
      violation? policy model ⟨nodeId, consumerId⟩ := by
  apply Option.ext
  intro error
  rw [Logged.error?_eq_some_iff, checkPipe_eq_error_iff]
  simp only [violation?, isCommand]
  split
  · rename_i refused
    simp [refused, eq_comm]
  · rename_i allowed
    simp only [reduceCtorEq, iff_false]
    rintro ⟨isStrict, several, _⟩
    exact allowed ⟨isStrict, several⟩

/-- The first error of a step is the violation of the node itself, or else the
first error of its visits. -/
theorem error?_resolveStep
    {visit : NodeId → NodeId → Logged CompileError InputTree}
    (declared : (model.role? nodeId).isSome) :
    (resolveStep policy model visit nodeId consumerId).error? =
      (violation? policy model ⟨nodeId, consumerId⟩).or
        ((model.inputs nodeId).findSome? fun input =>
          (visit input.nodeId input.consumerId).error?) := by
  obtain ⟨role, roleEq⟩ := Option.isSome_iff_exists.mp declared
  have reported (event : Event) (next : Logged CompileError InputTree) :
      (Logged.emit event >>= fun _ => next).error? = next.error? :=
    Logged.error?_bind fun _ => rfl
  unfold resolveStep
  simp only [roleEq, reported]
  cases role with
  | result => simp [violation?, roleEq, Logged.error?]
  | data text literalType => simp [violation?, inputs, roleEq, Logged.error?]
  | operation operator =>
      cases sources : model.operandSources nodeId with
      | error error =>
          rw [(operandSources_eq_error_iff roleEq).mp sources]
          rfl
      | ok operands =>
          obtain ⟨leftId, rightId⟩ := operands
          have rightError (left : InputTree) :
              (visit rightId nodeId >>= fun right =>
                  (pure (.operation operator left right) :
                    Logged CompileError InputTree)).error? =
                (visit rightId nodeId).error? :=
            Logged.error?_bind_pure _ _
          rw [violation?_eq_none_of_operandSources roleEq sources,
            Option.none_or,
            inputs_operation roleEq (operandSources_eq_ok_iff.mp sources)]
          calc
            _ = (visit leftId nodeId).error?.or (visit rightId nodeId).error? :=
              Logged.error?_bind rightError
            _ = _ := by
              simp only [List.findSome?_cons, List.findSome?_nil]
              cases (visit leftId nodeId).error? <;>
                cases (visit rightId nodeId).error? <;> rfl
  | command name switches =>
      have parameterError (parameter : String × NodeId) :
          (visit parameter.2 nodeId >>= fun value =>
              (pure (parameter.1, value) :
                Logged CompileError (String × InputTree))).error? =
            (visit parameter.2 nodeId).error? :=
        Logged.error?_bind_pure _ _
      have pipeError := Logged.error?_traverseOption
        (fun source => visit source nodeId)
        (Incoming.pipeSources (model.incoming nodeId)).head?
      rw [inputs_command roleEq, List.findSome?_append, List.findSome?_map,
        List.findSome?_map, ← error?_checkPipe roleEq]
      apply Logged.error?_bind
      intro _
      refine Eq.trans (Logged.error?_bind ?_)
        (congrArg (Option.or · _) pipeError)
      intro input
      rw [Logged.error?_bind_pure, Logged.error?_traverse]
      exact congrArg (List.findSome? · _) (funext parameterError)

/-- A violation is an error of one of four kinds. -/
theorem kind_of_violation {visit : Visit} {error : CompileError}
    (violated : violation? policy model visit = some error) :
    error.kind ∈ [ErrorKind.resultAsInput, .operatorArity, .operatorHandles,
      .ambiguousPipeInput] := by
  simp only [violation?] at violated
  split at violated
  · cases violated
    simp [CompileError.kind]
  · split at violated
    · obtain ⟨fault, _, rfl⟩ := Option.map_eq_some_iff.mp violated
      simp [CompileError.kind]
    · cases violated
      simp [CompileError.kind]
  · split at violated
    · cases violated
      simp [CompileError.kind]
    · cases violated
  · cases violated

end Step

section Run

variable {policy : PipePolicy} {model : Model} {nodeId consumerId : NodeId}
  {pending visits : List Visit}

/-- Where no cycle is followed, the walk with its full budget takes a step whose
visits have the full budget again. -/
theorem resolve_nodeCount_eq_resolveStep (acyclic : model.AcyclicFrom nodeId)
    (declared : model.DeclaredFrom nodeId) :
    resolve policy model model.nodeCount nodeId consumerId =
      resolveStep policy model (resolve policy model model.nodeCount) nodeId
        consumerId := by
  have enough := model.rank_le_nodeCount nodeId
  rw [← resolve_succ]
  exact resolve_eq_of_rank_le acyclic declared enough
    (Nat.le_succ_of_le enough) consumerId

theorem exists_depthFirst (acyclic : model.AcyclicFrom nodeId)
    (declared : model.DeclaredFrom nodeId) (consumerId : NodeId) :
    ∃ visits, DepthFirst model [⟨nodeId, consumerId⟩] visits := by
  induction rankEq : model.rank nodeId using Nat.strong_induction_on
    generalizing nodeId consumerId with
  | h rank ih =>
      have below : ∀ input ∈ model.inputs nodeId,
          ∃ visits, DepthFirst model [input] visits := by
        intro input member
        have follows := follows_of_mem_inputs member
        have fewer := rank_lt_of_follows acyclic follows
          (declared nodeId .refl)
        exact ih _ (by omega) (acyclic.of_follows follows)
          (declared.of_follows follows) input.consumerId rfl
      obtain ⟨visits, walk⟩ := DepthFirst.exists_of_forall_mem below
      refine ⟨⟨nodeId, consumerId⟩ :: visits, .visit ?_⟩
      rw [List.append_nil]
      exact walk

/-- What holds of pending nodes and goes down along followed edges still holds
when a node makes way for its inputs. -/
theorem forall_mem_inputs_append {holds : NodeId → Prop} {next : Visit}
    (down : ∀ {nodeId sourceId}, holds nodeId → Follows model nodeId sourceId →
      holds sourceId)
    (all : ∀ visit ∈ next :: pending, holds visit.nodeId) :
    ∀ visit ∈ model.inputs next.nodeId ++ pending, holds visit.nodeId := by
  simp only [List.forall_mem_cons] at all
  intro visit member
  rcases List.mem_append.mp member with below | later
  · exact down all.1 (follows_of_mem_inputs below)
  · exact all.2 visit later

/-- The first error of the walks from the pending nodes is the first violation
in depth-first order. -/
theorem DepthFirst.findSome?_error? (walk : DepthFirst model pending visits)
    (acyclic : ∀ visit ∈ pending, model.AcyclicFrom visit.nodeId)
    (declared : ∀ visit ∈ pending, model.DeclaredFrom visit.nodeId) :
    (pending.findSome? fun visit =>
        (resolve policy model model.nodeCount visit.nodeId
          visit.consumerId).error?) =
      visits.findSome? (violation? policy model) := by
  induction walk with
  | done => rfl
  | @visit next pending visits _ ih =>
      have others := ih
        (forall_mem_inputs_append (fun below => below.of_follows) acyclic)
        (forall_mem_inputs_append (fun below => below.of_follows) declared)
      simp only [List.forall_mem_cons] at acyclic declared
      rw [List.findSome?_append] at others
      rw [← List.singleton_append, List.findSome?_append,
        List.findSome?_singleton, ← List.singleton_append (l := visits),
        List.findSome?_append, List.findSome?_singleton, ← others,
        resolve_nodeCount_eq_resolveStep acyclic.1 declared.1,
        error?_resolveStep (declared.1 _ .refl), Option.or_assoc]

end Run

section Extraction

variable {policy : PipePolicy} {model : Model} (closed : model.Closed)
  (acyclic : model.FlowAcyclic)

include closed acyclic

theorem extract_eq_error_iff {producer : Incoming} {visits : List Visit}
    (oneEdge : model.incoming model.resultId = [producer])
    (walk : DepthFirst model [⟨producer.source, model.resultId⟩] visits)
    {error : CompileError} :
    (model.extract policy).outcome = .error error ↔
      visits.findSome? (violation? policy model) = some error := by
  rw [← walk.findSome?_error? (by simpa using acyclic producer oneEdge)
    (by simpa using closed.declaredFrom_producer oneEdge),
    List.findSome?_singleton, Logged.error?_eq_some_iff, extract,
    extractWithin, oneEdge]

/-- With one producer, extraction fails by a violation only. -/
theorem kind_of_extract_eq_error {producer : Incoming}
    (oneEdge : model.incoming model.resultId = [producer])
    {error : CompileError}
    (failed : (model.extract policy).outcome = .error error) :
    error.kind ∈ [ErrorKind.resultAsInput, .operatorArity, .operatorHandles,
      .ambiguousPipeInput] := by
  obtain ⟨visits, walk⟩ := exists_depthFirst (acyclic producer oneEdge)
    (closed.declaredFrom_producer oneEdge) model.resultId
  rw [extract_eq_error_iff closed acyclic oneEdge walk,
    List.findSome?_eq_some_iff] at failed
  obtain ⟨_, visit, _, _, violated, _⟩ := failed
  exact kind_of_violation violated

theorem extract_eq_missingResultProducer_iff :
    (model.extract policy).outcome = .error .missingResultProducer ↔
      model.incoming model.resultId = [] := by
  cases edges : model.incoming model.resultId with
  | nil => simp [extract, extractWithin, edges]
  | cons first others =>
      cases others with
      | nil =>
          simp only [reduceCtorEq, iff_false]
          intro failed
          have kind := kind_of_extract_eq_error closed acyclic edges failed
          simp [CompileError.kind] at kind
      | cons second others => simp [extract, extractWithin, edges]

theorem extract_eq_ambiguousResultProducer_iff {count : Nat} :
    (model.extract policy).outcome = .error (.ambiguousResultProducer count) ↔
      1 < count ∧ (model.incoming model.resultId).length = count := by
  cases edges : model.incoming model.resultId with
  | nil =>
      simp only [extract, extractWithin, edges, List.length_nil,
        Logged.outcome_fail]
      constructor
      · intro failed
        cases failed
      · rintro ⟨several, rfl⟩
        omega
  | cons first others =>
      cases others with
      | nil =>
          constructor
          · intro failed
            have kind := kind_of_extract_eq_error closed acyclic edges failed
            simp [CompileError.kind] at kind
          · rintro ⟨several, rfl⟩
            simp at several
      | cons second others =>
          simp only [extract, extractWithin, edges, Logged.outcome_fail,
            Except.error.injEq, CompileError.ambiguousResultProducer.injEq,
            List.length_cons]
          omega

end Extraction

/-- Extraction of a model that was built, where no cycle is followed, reports
the number of producers if it is not one, and otherwise the first violation in
depth-first order from the only producer. -/
theorem extract_reports_first_violation {rules : Rules} {graph : Editor.Graph}
    {model : Model} (built : build rules graph = .ok model)
    (acyclic : model.FlowAcyclic) (policy : PipePolicy) :
    ((model.extract policy).outcome = .error .missingResultProducer ↔
      model.incoming model.resultId = []) ∧
    (∀ count,
      (model.extract policy).outcome =
          .error (.ambiguousResultProducer count) ↔
        1 < count ∧ (model.incoming model.resultId).length = count) ∧
    ∀ producer, model.incoming model.resultId = [producer] →
      ∃ visits,
        DepthFirst model [⟨producer.source, model.resultId⟩] visits ∧
        (∀ otherVisits,
          DepthFirst model [⟨producer.source, model.resultId⟩] otherVisits →
            otherVisits = visits) ∧
        ((∃ error, (model.extract policy).outcome = .error error) ↔
          ∃ visit ∈ visits, (violation? policy model visit).isSome) ∧
        ∀ error, (model.extract policy).outcome = .error error ↔
          ∃ before visit after, visits = before ++ visit :: after ∧
            violation? policy model visit = some error ∧
            ∀ earlier ∈ before, violation? policy model earlier = none := by
  have closed := (build_eq_ok_iff.mp built).closed
  refine ⟨extract_eq_missingResultProducer_iff closed acyclic,
    fun _ => extract_eq_ambiguousResultProducer_iff closed acyclic, ?_⟩
  intro producer oneEdge
  obtain ⟨visits, walk⟩ := exists_depthFirst (acyclic producer oneEdge)
    (closed.declaredFrom_producer oneEdge) model.resultId
  refine ⟨visits, walk, fun _ => walk.unique, ?_, ?_⟩
  · simp only [extract_eq_error_iff closed acyclic oneEdge walk]
    rw [← List.findSome?_isSome_iff, Option.isSome_iff_exists]
  · intro error
    rw [extract_eq_error_iff closed acyclic oneEdge walk,
      List.findSome?_eq_some_iff]

/-- Edges that all lead from a lower to a higher level form no cycle. -/
theorem FlowAcyclic.of_level {model : Model} (level : NodeId → Nat)
    (rises : ∀ entry ∈ model.edges, ∀ edge ∈ entry.2,
      level edge.source < level entry.1) :
    model.FlowAcyclic := by
  have followsFalls {nodeId sourceId : NodeId}
      (follows : Follows model nodeId sourceId) :
      level sourceId < level nodeId := by
    obtain ⟨edge, member, rfl⟩ := follows.exists_mem
    obtain ⟨edges, listed, member⟩ := EdgeIndex.mem_edgesInto_iff.mp member
    exact rises _ (mem_of_lookup_eq_some listed) edge member
  intro producer _ reachedId _ cycle
  have falls : ∀ sourceId,
      Relation.TransGen (Follows model) reachedId sourceId →
        level sourceId < level reachedId := by
    intro sourceId reaches
    induction reaches with
    | single follows => exact followsFalls follows
    | tail _ follows ih => exact Nat.lt_trans (followsFalls follows) ih
  exact Nat.lt_irrefl _ (falls reachedId cycle)

/-- A graph with two faulty operators: one that lacks an operand, drawn first,
and one with two left operands, which is visited first because it feeds the
pipe. -/
def rivalGraph : Editor.Graph where
  nodes :=
    [⟨"one", some "data", ⟨none, some "1", some "int", none, none⟩⟩,
      ⟨"lone", some "operator", ⟨some "+", none, none, none, none⟩⟩,
      ⟨"pair", some "operator", ⟨none, none, none, some "*", none⟩⟩,
      ⟨"top", some "command", ⟨some "first", none, none, none, none⟩⟩,
      ⟨"out", some "result", Editor.Payload.empty⟩]
  edges :=
    [⟨"lone", "top", some "rows"⟩, ⟨"one", "lone", some "A"⟩,
      ⟨"pair", "top", none⟩, ⟨"one", "pair", some "A"⟩,
      ⟨"one", "pair", some "A"⟩, ⟨"top", "out", none⟩]

def rivalModel : Model where
  roles :=
    [("one", .data "1" .int), ("lone", .operation .add),
      ("pair", .operation .multiply), ("top", .command "first" []),
      ("out", .result)]
  edges :=
    [("one", []), ("lone", [⟨"one", some (.operand .left)⟩]),
      ("pair", [⟨"one", some (.operand .left)⟩,
        ⟨"one", some (.operand .left)⟩]),
      ("top", [⟨"lone", some (.named "rows")⟩, ⟨"pair", none⟩]),
      ("out", [⟨"top", none⟩])]
  resultId := "out"
  edgeCount := 6

theorem build_rivalGraph : build Rules.plain rivalGraph = .ok rivalModel := rfl

theorem rivalModel_flowAcyclic : rivalModel.FlowAcyclic :=
  FlowAcyclic.of_level
    (fun nodeId => ["one", "lone", "pair", "top", "out"].idxOf nodeId)
    (by decide)

theorem rivalModel_reports_first_violation :
    (build Rules.plain rivalGraph = .ok rivalModel ∧
      rivalModel.FlowAcyclic) ∧
    (rivalModel.extract .strict).outcome =
      .error (.operatorHandles "pair" (.repeated .left)) := by
  refine ⟨⟨build_rivalGraph, rivalModel_flowAcyclic⟩, ?_⟩
  obtain ⟨visits, _, unique, _, first⟩ :=
    (extract_reports_first_violation build_rivalGraph rivalModel_flowAcyclic
      .strict).2.2 ⟨"top", none⟩ rfl
  have walk : DepthFirst rivalModel [⟨"top", "out"⟩]
      [⟨"top", "out"⟩, ⟨"pair", "top"⟩, ⟨"lone", "top"⟩] :=
    .visit (.visit (.visit .done))
  rw [first, ← unique _ walk]
  exact ⟨[⟨"top", "out"⟩], ⟨"pair", "top"⟩, [⟨"lone", "top"⟩], rfl, rfl,
    by decide⟩

end Model

end PipeGraph
