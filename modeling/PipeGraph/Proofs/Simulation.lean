import PipeGraph.Proofs.Artifacts

/-!
# Walks side by side

Two models are compared by walking them side by side.  A simulation pairs the
nodes of one with nodes of the other: paired nodes play the same role, and the
edges that the walk follows from them lead to paired nodes again.  What holds
of one step then holds of the whole walk, which returns the same tree in both
models or fails in both, with errors that may differ as far as the simulation
allows.
-/

namespace PipeGraph

/-- Both outcomes are errors or both are results, and these are related. -/
inductive Corresponds {ε α β : Type} (errors : ε → ε → Prop)
    (results : α → β → Prop) : Except ε α → Except ε β → Prop
  | error {error otherError} : errors error otherError →
      Corresponds errors results (.error error) (.error otherError)
  | ok {result otherResult} : results result otherResult →
      Corresponds errors results (.ok result) (.ok otherResult)

namespace Corresponds

variable {ε α β α' β' : Type} {errors : ε → ε → Prop} {results : α → β → Prop}
  {otherResults : α' → β' → Prop}

theorem refl (reflexive : ∀ error, errors error error)
    (outcome : Except ε α) : Corresponds errors Eq outcome outcome := by
  cases outcome with
  | error error => exact .error (reflexive error)
  | ok result => exact .ok rfl

theorem ok_or_error {outcome other : Except ε α}
    (corresponds : Corresponds errors Eq outcome other) :
    (∃ result, outcome = .ok result ∧ other = .ok result) ∨
      ∃ error otherError, outcome = .error error ∧ other = .error otherError ∧
        errors error otherError := by
  cases corresponds with
  | error related => exact .inr ⟨_, _, rfl, rfl, related⟩
  | ok same => exact .inl ⟨_, rfl, congrArg Except.ok same.symm⟩

theorem with_outcomes {outcome : Except ε α} {other : Except ε β}
    (corresponds : Corresponds errors results outcome other) :
    Corresponds errors
      (fun result otherResult => outcome = .ok result ∧
        other = .ok otherResult ∧ results result otherResult)
      outcome other := by
  cases corresponds with
  | error related => exact .error related
  | ok related => exact .ok ⟨rfl, rfl, related⟩

theorem mono {outcome : Except ε α} {other : Except ε β}
    {looser : α → β → Prop}
    (corresponds : Corresponds errors results outcome other)
    (loosen : ∀ result otherResult, results result otherResult →
      looser result otherResult) :
    Corresponds errors looser outcome other := by
  cases corresponds with
  | error related => exact .error related
  | ok related => exact .ok (loosen _ _ related)

/-- Two checks that succeed on the same occasions are compared by their errors
alone. -/
theorem of_exists_ok_iff {outcome : Except ε α} {other : Except ε β}
    (both : (∃ result, outcome = .ok result) ↔
      ∃ otherResult, other = .ok otherResult)
    (related : ∀ error otherError, outcome = .error error →
      other = .error otherError → errors error otherError) :
    Corresponds errors (fun _ _ => True) outcome other := by
  cases outcome with
  | ok result =>
      obtain ⟨_, rfl⟩ := both.mp ⟨result, rfl⟩
      exact .ok trivial
  | error error =>
      cases other with
      | ok otherResult =>
          obtain ⟨_, impossible⟩ := both.mpr ⟨otherResult, rfl⟩
          cases impossible
      | error otherError => exact .error (related _ _ rfl rfl)

theorem bind {first : Except ε α} {otherFirst : Except ε β}
    {next : α → Except ε α'} {otherNext : β → Except ε β'}
    (firsts : Corresponds errors results first otherFirst)
    (nexts : ∀ result otherResult, results result otherResult →
      Corresponds errors otherResults (next result) (otherNext otherResult)) :
    Corresponds errors otherResults (first >>= next)
      (otherFirst >>= otherNext) := by
  cases firsts with
  | error related => exact .error related
  | ok related => exact nexts _ _ related

theorem bind_logged {first : Logged ε α} {otherFirst : Logged ε β}
    {next : α → Logged ε α'} {otherNext : β → Logged ε β'}
    (firsts : Corresponds errors results first.outcome otherFirst.outcome)
    (nexts : ∀ result otherResult, results result otherResult →
      Corresponds errors otherResults (next result).outcome
        (otherNext otherResult).outcome) :
    Corresponds errors otherResults (first >>= next).outcome
      (otherFirst >>= otherNext).outcome := by
  rw [Logged.outcome_bind, Logged.outcome_bind]
  exact firsts.bind nexts

theorem mapError {ε' : Type} {otherErrors : ε' → ε' → Prop}
    {check : Except ε α} {otherCheck : Except ε β}
    {convert otherConvert : ε → ε'}
    (checks : Corresponds errors results check otherCheck)
    (converts : ∀ error otherError, errors error otherError →
      otherErrors (convert error) (otherConvert otherError)) :
    Corresponds otherErrors results (check.mapError convert)
      (otherCheck.mapError otherConvert) := by
  cases checks with
  | error related => exact .error (converts _ _ related)
  | ok related => exact .ok related

theorem foldlM {γ : Type} {elements : List γ} {step : α → γ → Except ε α}
    {otherStep : β → γ → Except ε β}
    (steps : ∀ element ∈ elements, ∀ state otherState,
      results state otherState →
        Corresponds errors results (step state element)
          (otherStep otherState element))
    {state : α} {otherState : β} (start : results state otherState) :
    Corresponds errors results (elements.foldlM step state)
      (elements.foldlM otherStep otherState) := by
  induction elements generalizing state otherState with
  | nil => exact .ok start
  | cons element elements ih =>
      simp only [List.forall_mem_cons] at steps
      rw [List.foldlM_cons, List.foldlM_cons]
      apply (steps.1 _ _ start).bind
      intro next otherNext related
      exact ih steps.2 related

section Traversals

variable {γ : Type} {step : α → Logged ε γ} {otherStep : β → Logged ε γ}
  (steps : ∀ element otherElement, results element otherElement →
    Corresponds errors Eq (step element).outcome
      (otherStep otherElement).outcome)

include steps

theorem traverse {elements : List α} {otherElements : List β}
    (related : List.Forall₂ results elements otherElements) :
    Corresponds errors Eq (Logged.traverse step elements).outcome
      (Logged.traverse otherStep otherElements).outcome := by
  induction related with
  | nil => exact .ok rfl
  | cons first _ ih =>
      refine bind_logged (steps _ _ first) ?_
      rintro result _ rfl
      refine bind_logged ih ?_
      rintro others _ rfl
      exact .ok rfl

theorem traverseOption {element : Option α} {otherElement : Option β}
    (related : Option.Rel results element otherElement) :
    Corresponds errors Eq (Logged.traverseOption step element).outcome
      (Logged.traverseOption otherStep otherElement).outcome := by
  cases related with
  | none => exact .ok rfl
  | some first =>
      refine bind_logged (steps _ _ first) ?_
      rintro result _ rfl
      exact .ok rfl

end Traversals

end Corresponds

namespace Model

/-- The walks through two models proceed side by side, along paired nodes. -/
structure Simulation (errors : CompileError → CompileError → Prop)
    (pairs : NodeId → NodeId → Prop) (policy otherPolicy : PipePolicy)
    (model other : Model) : Prop where
  role_eq {nodeId otherId} : pairs nodeId otherId →
    other.role? otherId = model.role? nodeId
  cyclicFlow {nodeId otherId} : pairs nodeId otherId →
    errors (.cyclicFlow nodeId) (.cyclicFlow otherId)
  unknownNode {nodeId otherId consumerId otherConsumerId} :
    pairs nodeId otherId → pairs consumerId otherConsumerId →
    errors (.malformedReference (.unknownNode nodeId consumerId))
      (.malformedReference (.unknownNode otherId otherConsumerId))
  resultAsInput {consumerId otherConsumerId} :
    pairs consumerId otherConsumerId →
    errors (.resultAsInput consumerId) (.resultAsInput otherConsumerId)
  operands {nodeId otherId operator} : pairs nodeId otherId →
    model.role? nodeId = some (.operation operator) →
    Corresponds errors
      (fun sources otherSources => pairs sources.1 otherSources.1 ∧
        pairs sources.2 otherSources.2)
      (model.operandSources nodeId) (other.operandSources otherId)
  pipeCheck {nodeId otherId name switches} : pairs nodeId otherId →
    model.role? nodeId = some (.command name switches) →
    Corresponds errors (fun _ _ => True)
      (checkPipe policy nodeId name
        (Incoming.pipeSources (model.incoming nodeId))).outcome
      (checkPipe otherPolicy otherId name
        (Incoming.pipeSources (other.incoming otherId))).outcome
  pipe {nodeId otherId name switches} : pairs nodeId otherId →
    model.role? nodeId = some (.command name switches) →
    Option.Rel pairs (Incoming.pipeSources (model.incoming nodeId)).head?
      (Incoming.pipeSources (other.incoming otherId)).head?
  parameters {nodeId otherId name switches} : pairs nodeId otherId →
    model.role? nodeId = some (.command name switches) →
    List.Forall₂
      (fun parameter otherParameter => parameter.1 = otherParameter.1 ∧
        pairs parameter.2 otherParameter.2)
      (Incoming.parameterSources (model.incoming nodeId))
      (Incoming.parameterSources (other.incoming otherId))

namespace Simulation

variable {errors : CompileError → CompileError → Prop}
  {pairs : NodeId → NodeId → Prop} {policy otherPolicy : PipePolicy}
  {model other : Model} {nodeId otherId consumerId otherConsumerId : NodeId}

/-- Steps at paired nodes correspond if their visits to paired nodes do. -/
theorem corresponds_resolveStep
    (simulation : Simulation errors pairs policy otherPolicy model other)
    {visit otherVisit : NodeId → NodeId → Logged CompileError InputTree}
    (paired : pairs nodeId otherId)
    (consumersPaired : pairs consumerId otherConsumerId)
    (visits : ∀ sourceId otherSourceId, pairs sourceId otherSourceId →
      Corresponds errors Eq (visit sourceId nodeId).outcome
        (otherVisit otherSourceId otherId).outcome) :
    Corresponds errors Eq
      (resolveStep policy model visit nodeId consumerId).outcome
      (resolveStep otherPolicy other otherVisit otherId
        otherConsumerId).outcome := by
  unfold resolveStep
  rw [simulation.role_eq paired]
  cases roleEq : model.role? nodeId with
  | none => exact .error (simulation.unknownNode paired consumersPaired)
  | some role =>
      have emitted : Corresponds errors (fun _ _ => True)
          (Logged.emit (.resolving nodeId role.kindName)).outcome
          (Logged.emit (.resolving otherId role.kindName)).outcome :=
        .ok trivial
      refine emitted.bind_logged fun _ _ _ => ?_
      cases role with
      | result => exact .error (simulation.resultAsInput consumersPaired)
      | data text literalType => exact .ok rfl
      | operation operator =>
          have operands : Corresponds errors _
              (Logged.ofExcept (model.operandSources nodeId)).outcome
              (Logged.ofExcept (other.operandSources otherId)).outcome :=
            simulation.operands paired roleEq
          refine operands.bind_logged ?_
          rintro ⟨leftId, rightId⟩ ⟨otherLeftId, otherRightId⟩
            ⟨leftPaired, rightPaired⟩
          refine (visits _ _ leftPaired).bind_logged ?_
          rintro left _ rfl
          refine (visits _ _ rightPaired).bind_logged ?_
          rintro right _ rfl
          exact .ok rfl
      | command name switches =>
          refine (simulation.pipeCheck paired roleEq).bind_logged
            fun _ _ _ => ?_
          refine (Corresponds.traverseOption visits
            (simulation.pipe paired roleEq)).bind_logged ?_
          rintro input _ rfl
          refine (Corresponds.traverse ?_
            (simulation.parameters paired roleEq)).bind_logged ?_
          · rintro ⟨parameter, sourceId⟩ ⟨_, otherSourceId⟩
              ⟨rfl, sourcesPaired⟩
            refine (visits _ _ sourcesPaired).bind_logged ?_
            rintro value _ rfl
            exact .ok rfl
          · rintro parameters _ rfl
            exact .ok rfl

/-- Walks from paired nodes, with the same budget, correspond. -/
theorem corresponds_resolve
    (simulation : Simulation errors pairs policy otherPolicy model other)
    (budget : Nat) (paired : pairs nodeId otherId)
    (consumersPaired : pairs consumerId otherConsumerId) :
    Corresponds errors Eq
      (resolve policy model budget nodeId consumerId).outcome
      (resolve otherPolicy other budget otherId otherConsumerId).outcome := by
  induction budget generalizing nodeId otherId consumerId otherConsumerId with
  | zero => exact .error (simulation.cyclicFlow paired)
  | succ budget ih =>
      rw [resolve_succ, resolve_succ]
      apply simulation.corresponds_resolveStep paired consumersPaired
      intro sourceId otherSourceId sourcesPaired
      exact ih sourcesPaired paired

/-- A tree that unfolds a node unfolds every node that is paired with it. -/
theorem unfolds
    (simulation : Simulation errors pairs policy otherPolicy model other)
    (paired : pairs nodeId otherId) {tree : InputTree}
    (unfolds : Unfolds policy model tree nodeId) :
    Unfolds otherPolicy other tree otherId := by
  have resolved := unfolds.resolve_eq_ok (Nat.le_refl tree.height) nodeId
  have walks := simulation.corresponds_resolve tree.height paired paired
  rcases walks.ok_or_error with ⟨result, returned, otherReturned⟩ |
    ⟨error, _, failed, _⟩
  · rw [resolved] at returned
    cases returned
    exact unfolds_of_resolve_eq_ok otherReturned
  · rw [resolved] at failed
    cases failed

/-- Extraction corresponds in models of one size whose results are paired and
have corresponding producers. -/
theorem corresponds_extract
    (simulation : Simulation errors pairs policy otherPolicy model other)
    (sameCount : other.nodeCount = model.nodeCount)
    (resultsPaired : pairs model.resultId other.resultId)
    (producers : Corresponds errors pairs model.producer? other.producer?) :
    Corresponds errors Eq (model.extract policy).outcome
      (other.extract otherPolicy).outcome := by
  rw [outcome_extract, outcome_extract, sameCount]
  apply producers.bind
  intro producerId otherProducerId producersPaired
  exact simulation.corresponds_resolve _ producersPaired resultsPaired

end Simulation

end Model

end PipeGraph
