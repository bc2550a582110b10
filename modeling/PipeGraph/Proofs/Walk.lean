import PipeGraph.Proofs.Layer

/-!
# One step of the walk

A step of the walk looks at one node and visits the sources of some of its
edges.  This file takes the step out of the recursion, with the visits as a
parameter, and says everything that the other files need to know about it:
which trees it can return, how it can fail, and that it depends on nothing but
the visits along followed edges.
-/

namespace PipeGraph

namespace Model

/-- The ways in which a step fails on its own, before or between its visits. -/
inductive LocalFault (policy : PipePolicy) (model : Model)
    (nodeId consumerId : NodeId) : CompileError → Prop
  | unknown : model.role? nodeId = none →
      LocalFault policy model nodeId consumerId
        (.malformedReference (.unknownNode nodeId consumerId))
  | result : model.role? nodeId = some .result →
      LocalFault policy model nodeId consumerId (.resultAsInput consumerId)
  | operands {operator error} :
      model.role? nodeId = some (.operation operator) →
      model.operandSources nodeId = .error error →
      LocalFault policy model nodeId consumerId error
  | pipe {name switches} :
      model.role? nodeId = some (.command name switches) →
      policy = .strict →
      1 < (model.incoming nodeId).countP (fun edge => edge.FeedsPipe) →
      LocalFault policy model nodeId consumerId
        (.ambiguousPipeInput nodeId
          ((model.incoming nodeId).countP fun edge => edge.FeedsPipe))

/-- One step of the walk, given how the sources of its edges are visited. -/
def resolveStep (policy : PipePolicy) (model : Model)
    (visit : NodeId → NodeId → Logged CompileError InputTree)
    (nodeId consumerId : NodeId) : Logged CompileError InputTree :=
  match model.role? nodeId with
  | none =>
      Logged.fail (.malformedReference (.unknownNode nodeId consumerId))
  | some role => do
      Logged.emit (.resolving nodeId role.kindName)
      match role with
      | .result => Logged.fail (.resultAsInput consumerId)
      | .data text literalType => return .data text literalType
      | .operation operator => do
          let (leftId, rightId) ←
            Logged.ofExcept (model.operandSources nodeId)
          let left ← visit leftId nodeId
          let right ← visit rightId nodeId
          return .operation operator left right
      | .command name switches => do
          let edges := model.incoming nodeId
          let pipeIds := Incoming.pipeSources edges
          checkPipe policy nodeId name pipeIds
          let input ← Logged.traverseOption
            (fun source => visit source nodeId) pipeIds.head?
          let parameters ← Logged.traverse
            (fun (parameter, source) => do
              let value ← visit source nodeId
              return (parameter, value))
            (Incoming.parameterSources edges)
          return .command name input parameters switches

/-- The walk with a budget left takes one step, whose visits have one less. -/
theorem resolve_succ (policy : PipePolicy) (model : Model) (budget : Nat)
    (nodeId consumerId : NodeId) :
    resolve policy model (budget + 1) nodeId consumerId =
      resolveStep policy model (resolve policy model budget) nodeId
        consumerId := by
  rw [resolve]
  rfl

theorem checkPipe_eq_ok_iff {policy : PipePolicy} {nodeId : NodeId}
    {name : String} {edges : List Incoming} :
    (checkPipe policy nodeId name (Incoming.pipeSources edges)).outcome =
        .ok () ↔
      (policy = .strict →
        edges.countP (fun edge => edge.FeedsPipe) ≤ 1) := by
  rw [← Incoming.length_pipeSources]
  unfold checkPipe
  split
  · rename_i atMostOne
    simp [atMostOne]
  · cases policy with
    | firstWins => simp
    | strict =>
        rename_i several
        simpa using several

theorem checkPipe_eq_error_iff {policy : PipePolicy} {nodeId : NodeId}
    {name : String} {edges : List Incoming} {error : CompileError} :
    (checkPipe policy nodeId name (Incoming.pipeSources edges)).outcome =
        .error error ↔
      policy = .strict ∧ 1 < edges.countP (fun edge => edge.FeedsPipe) ∧
        error = .ambiguousPipeInput nodeId
          (edges.countP fun edge => edge.FeedsPipe) := by
  rw [← Incoming.length_pipeSources]
  unfold checkPipe
  split
  · rename_i atMostOne
    simp [Nat.not_lt.mpr atMostOne]
  · rename_i several
    cases policy with
    | firstWins => simp
    | strict => simp [Nat.lt_of_not_le several, eq_comm]

section Step

variable {policy : PipePolicy} {model : Model} {nodeId consumerId : NodeId}
  {visit otherVisit : NodeId → NodeId → Logged CompileError InputTree}

/-- A step returns exactly the trees that are one layer over the visits. -/
theorem resolveStep_eq_ok_iff {tree : InputTree} :
    (resolveStep policy model visit nodeId consumerId).outcome = .ok tree ↔
      Layer policy model
        (fun tree sourceId => (visit sourceId nodeId).outcome = .ok tree)
        tree nodeId := by
  unfold resolveStep
  cases roleEq : model.role? nodeId with
  | none =>
      constructor
      · intro returned
        cases returned
      · intro layer
        obtain ⟨role, isRole, _⟩ := layer.role_isSome
        rw [roleEq] at isRole
        cases isRole
  | some role =>
      simp only [Logged.outcome_bind_eq_ok_iff, Logged.outcome_emit]
      cases role with
      | result =>
          constructor
          · rintro ⟨_, _, returned⟩
            cases returned
          · intro layer
            obtain ⟨role, isRole, notResult⟩ := layer.role_isSome
            rw [roleEq] at isRole
            cases isRole
            exact (notResult rfl).elim
      | data text literalType =>
          rw [Layer.data_iff roleEq]
          simp [eq_comm]
      | operation operator =>
          rw [Layer.operation_iff roleEq]
          simp only [Logged.outcome_bind_eq_ok_iff, Logged.outcome_pure,
            Logged.outcome_ofExcept, Except.ok.injEq]
          constructor
          · rintro ⟨_, _, ⟨leftId, rightId⟩, operands, left, leftVisited,
              right, rightVisited, rfl⟩
            exact ⟨leftId, rightId, left, right,
              operandSources_eq_ok_iff.mp operands, leftVisited, rightVisited,
              rfl⟩
          · rintro ⟨leftId, rightId, left, right, operands, leftVisited,
              rightVisited, rfl⟩
            exact ⟨(), trivial, _, operandSources_eq_ok_iff.mpr operands, left,
              leftVisited, right, rightVisited, rfl⟩
      | command name switches =>
          rw [Layer.command_iff roleEq]
          simp only [Logged.outcome_bind_eq_ok_iff, Logged.outcome_pure,
            Logged.outcome_traverseOption_eq_ok_iff,
            Logged.outcome_traverse_eq_ok_iff, Except.ok.injEq,
            Incoming.pipeFrom_iff, Incoming.parametersFrom_iff]
          constructor
          · rintro ⟨_, _, _, allowed, input, inputVisited, parameters,
              parametersVisited, rfl⟩
            refine ⟨input, parameters, checkPipe_eq_ok_iff.mp allowed,
              inputVisited, parametersVisited.imp ?_, rfl⟩
            rintro ⟨parameter, sourceId⟩ _ ⟨value, visited, rfl⟩
            exact ⟨rfl, visited⟩
          · rintro ⟨input, parameters, allowed, inputVisited,
              parametersVisited, rfl⟩
            refine ⟨(), trivial, (), checkPipe_eq_ok_iff.mpr allowed, input,
              inputVisited, parameters, parametersVisited.imp ?_, rfl⟩
            rintro ⟨parameter, sourceId⟩ ⟨_, value⟩ ⟨rfl, visited⟩
            exact ⟨value, visited, rfl⟩

/-- The source that feeds the pipe of a command is followed. -/
theorem follows_of_head?_pipeSources {name : String}
    {switches : List String} {sourceId : NodeId}
    (isCommand : model.role? nodeId = some (.command name switches))
    (first : (Incoming.pipeSources (model.incoming nodeId)).head? =
      some sourceId) :
    Follows model nodeId sourceId := by
  rw [Incoming.head?_pipeSources, Option.map_eq_some_iff] at first
  obtain ⟨edge, found, rfl⟩ := first
  exact .pipe isCommand found

/-- The source of every parameter of a command is followed. -/
theorem follows_of_mem_parameterSources {name : String}
    {switches : List String} {parameter : String} {sourceId : NodeId}
    (isCommand : model.role? nodeId = some (.command name switches))
    (member : (parameter, sourceId) ∈
      Incoming.parameterSources (model.incoming nodeId)) :
    Follows model nodeId sourceId := by
  obtain ⟨edge, edgeMember, named, rfl⟩ :=
    Incoming.mem_parameterSources_iff.mp member
  exact .parameter isCommand edgeMember named

/-- A step depends on its visits along followed edges only. -/
theorem resolveStep_congr
    (agree : ∀ sourceId, Follows model nodeId sourceId →
      visit sourceId nodeId = otherVisit sourceId nodeId) :
    resolveStep policy model visit nodeId consumerId =
      resolveStep policy model otherVisit nodeId consumerId := by
  unfold resolveStep
  cases roleEq : model.role? nodeId with
  | none => rfl
  | some role =>
      cases role with
      | result => rfl
      | data text literalType => rfl
      | operation operator =>
          cases operands : model.operandSources nodeId with
          | error error => rfl
          | ok sources =>
              obtain ⟨leftId, rightId⟩ := sources
              have fed := operandSources_eq_ok_iff.mp operands
              simp only [Logged.ofExcept_ok, pure_bind,
                agree _ (.left roleEq fed), agree _ (.right roleEq fed)]
      | command name switches =>
          have inputAgrees :
              Logged.traverseOption (fun sourceId => visit sourceId nodeId)
                  (Incoming.pipeSources (model.incoming nodeId)).head? =
                Logged.traverseOption
                  (fun sourceId => otherVisit sourceId nodeId)
                  (Incoming.pipeSources (model.incoming nodeId)).head? :=
            Logged.traverseOption_congr fun sourceId first =>
              agree sourceId (follows_of_head?_pipeSources roleEq first)
          have parametersAgree :
              Logged.traverse
                  (fun (parameter, sourceId) => do
                    let value ← visit sourceId nodeId
                    return (parameter, value))
                  (Incoming.parameterSources (model.incoming nodeId)) =
                Logged.traverse
                  (fun (parameter, sourceId) => do
                    let value ← otherVisit sourceId nodeId
                    return (parameter, value))
                  (Incoming.parameterSources (model.incoming nodeId)) := by
            apply Logged.traverse_congr
            rintro ⟨parameter, sourceId⟩ member
            simp only [agree sourceId
              (follows_of_mem_parameterSources roleEq member)]
          simp only [inputAgrees, parametersAgree]

/-- An error of the budget is none of the step's own. -/
theorem not_localFault_cyclicFlow {atId : NodeId} :
    ¬ LocalFault policy model nodeId consumerId (.cyclicFlow atId) := by
  intro fault
  cases fault with
  | operands _ failed =>
      have kind := kind_of_operandSources_eq_error failed
      split at kind <;> cases kind

/-- A step fails on its own, or where a visit along a followed edge does. -/
theorem localFault_or_exists_of_resolveStep_eq_error {error : CompileError}
    (failed : (resolveStep policy model visit nodeId consumerId).outcome =
      .error error) :
    LocalFault policy model nodeId consumerId error ∨
      ∃ sourceId, Follows model nodeId sourceId ∧
        (visit sourceId nodeId).outcome = .error error := by
  unfold resolveStep at failed
  cases roleEq : model.role? nodeId with
  | none =>
      rw [roleEq] at failed
      cases failed
      exact .inl (.unknown roleEq)
  | some role =>
      rw [roleEq] at failed
      simp only [Logged.outcome_bind_eq_error_iff, Logged.outcome_emit,
        reduceCtorEq, false_or] at failed
      obtain ⟨_, _, failed⟩ := failed
      cases role with
      | result =>
          cases failed
          exact .inl (.result roleEq)
      | data text literalType => cases failed
      | operation operator =>
          simp only [Logged.outcome_bind_eq_error_iff, Logged.outcome_pure,
            Logged.outcome_ofExcept] at failed
          rcases failed with noOperands | ⟨⟨leftId, rightId⟩, operands,
            leftFailed | ⟨_, _, rightFailed | ⟨_, _, never⟩⟩⟩
          · exact .inl (.operands roleEq noOperands)
          · exact .inr ⟨leftId,
              .left roleEq (operandSources_eq_ok_iff.mp operands), leftFailed⟩
          · exact .inr ⟨rightId,
              .right roleEq (operandSources_eq_ok_iff.mp operands),
              rightFailed⟩
          · cases never
      | command name switches =>
          simp only [Logged.outcome_bind_eq_error_iff, Logged.outcome_pure]
            at failed
          rcases failed with refused | ⟨_, _, inputFailed | ⟨_, _,
            parametersFailed | ⟨_, _, never⟩⟩⟩
          · obtain ⟨isStrict, several, rfl⟩ :=
              checkPipe_eq_error_iff.mp refused
            exact .inl (.pipe roleEq isStrict several)
          · obtain ⟨sourceId, first, sourceFailed⟩ :=
              Logged.exists_of_outcome_traverseOption_eq_error inputFailed
            exact .inr ⟨sourceId, follows_of_head?_pipeSources roleEq first,
              sourceFailed⟩
          · obtain ⟨⟨parameter, sourceId⟩, member, visitFailed⟩ :=
              Logged.exists_mem_of_outcome_traverse_eq_error parametersFailed
            simp only [Logged.outcome_bind_eq_error_iff, Logged.outcome_pure,
              reduceCtorEq, and_false, exists_false, or_false] at visitFailed
            exact .inr ⟨sourceId,
              follows_of_mem_parameterSources roleEq member, visitFailed⟩
          · cases never

end Step

end Model

end PipeGraph
