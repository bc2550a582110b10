import PipeGraph.Proofs.Violations

/-!
# What the strict policy changes

The strict policy makes one more check than the lenient one, and only at
commands that several edges feed by their pipe.  Both policies walk the same way
up to the first such command; there the strict walk ends.  It therefore never
returns another tree and never reports another error than the one about the
pipe, and it has nothing to object to where every command that the result
depends on has one pipe edge at most.
-/

namespace PipeGraph

namespace Model

/-- A command that more than one edge feeds by its pipe. -/
structure Crowded (model : Model) (nodeId : NodeId) : Prop where
  isCommand : ∃ name switches,
    model.role? nodeId = some (.command name switches)
  several : 2 ≤ (model.incoming nodeId).countP fun edge => edge.FeedsPipe

/-- A node that is reached from the only producer of the result. -/
def Used (model : Model) (nodeId : NodeId) : Prop :=
  ∃ producer, model.incoming model.resultId = [producer] ∧
    model.Reaches producer.source nodeId

/-- The refusals that the strict policy can give on a walk from a node: each is
about a crowded command that is reached. -/
def CrowdedBelow (model : Model) (nodeId : NodeId)
    (error : CompileError) : Prop :=
  ∃ crowdedId, model.Reaches nodeId crowdedId ∧ model.Crowded crowdedId ∧
    error = .ambiguousPipeInput crowdedId
      ((model.incoming crowdedId).countP fun edge => edge.FeedsPipe)

variable {model : Model} {nodeId consumerId : NodeId}

theorem CrowdedBelow.of_follows {sourceId : NodeId} {error : CompileError}
    (follows : Follows model nodeId sourceId)
    (below : model.CrowdedBelow sourceId error) :
    model.CrowdedBelow nodeId error := by
  obtain ⟨crowdedId, reaches, crowded, errorEq⟩ := below
  exact ⟨crowdedId, .head follows reaches, crowded, errorEq⟩

theorem stricter_checkPipe {name : String} {switches : List String}
    (isCommand : model.role? nodeId = some (.command name switches)) :
    Stricter (model.CrowdedBelow nodeId)
      (checkPipe .firstWins nodeId name
        (Incoming.pipeSources (model.incoming nodeId))).outcome
      (checkPipe .strict nodeId name
        (Incoming.pipeSources (model.incoming nodeId))).outcome := by
  have tolerated : (checkPipe .firstWins nodeId name
      (Incoming.pipeSources (model.incoming nodeId))).outcome = .ok () :=
    checkPipe_eq_ok_iff.mpr (by simp)
  rw [tolerated]
  cases checked : (checkPipe .strict nodeId name
      (Incoming.pipeSources (model.incoming nodeId))).outcome with
  | ok => exact .same
  | error error =>
      obtain ⟨_, several, errorEq⟩ := checkPipe_eq_error_iff.mp checked
      have crowded : model.Crowded nodeId :=
        ⟨⟨name, switches, isCommand⟩, several⟩
      exact .refused ⟨nodeId, .refl, crowded, errorEq⟩

/-- A step under the strict policy refuses its own node or does as its visits
do. -/
theorem stricter_resolveStep
    {visit strictVisit : NodeId → NodeId → Logged CompileError InputTree}
    (visits : ∀ sourceId, Follows model nodeId sourceId →
      Stricter (model.CrowdedBelow nodeId) (visit sourceId nodeId).outcome
        (strictVisit sourceId nodeId).outcome) :
    Stricter (model.CrowdedBelow nodeId)
      (resolveStep .firstWins model visit nodeId consumerId).outcome
      (resolveStep .strict model strictVisit nodeId consumerId).outcome := by
  unfold resolveStep
  cases roleEq : model.role? nodeId with
  | none => exact .same
  | some role =>
      refine Logged.stricter_bind .same fun _ _ => ?_
      cases role with
      | result => exact .same
      | data text literalType => exact .same
      | operation operator =>
          refine Logged.stricter_bind .same ?_
          intro operands sources
          have fed := operandSources_eq_ok_iff.mp sources
          refine Logged.stricter_bind (visits _ (.left roleEq fed)) ?_
          intro left _
          refine Logged.stricter_bind (visits _ (.right roleEq fed)) ?_
          intro right _
          exact .same
      | command name switches =>
          -- The check comes before the visits: a refusal here hides whatever
          -- the lenient walk would have reported further down.
          refine Logged.stricter_bind (stricter_checkPipe roleEq) ?_
          intro _ _
          have pipe := Logged.stricter_traverseOption fun sourceId first =>
            visits sourceId (follows_of_head?_pipeSources roleEq first)
          refine Logged.stricter_bind pipe ?_
          intro input _
          refine Logged.stricter_bind (Logged.stricter_traverse ?_) ?_
          · intro parameter member
            have follows := follows_of_mem_parameterSources roleEq member
            exact Logged.stricter_bind (visits _ follows) fun _ _ => .same
          · intro parameters _
            exact .same

theorem stricter_resolve (model : Model) (budget : Nat)
    (nodeId consumerId : NodeId) :
    Stricter (model.CrowdedBelow nodeId)
      (resolve .firstWins model budget nodeId consumerId).outcome
      (resolve .strict model budget nodeId consumerId).outcome := by
  -- Both walks spend their budget alike, so a cycle needs no case of its own.
  induction budget generalizing nodeId consumerId with
  | zero => exact .same
  | succ budget ih =>
      rw [resolve_succ, resolve_succ]
      apply stricter_resolveStep
      intro sourceId follows
      exact (ih sourceId nodeId).mono fun _ => .of_follows follows

/-- Extraction under the strict policy ends as under the lenient one, or refuses
a crowded command. -/
theorem extract_strict_eq_or_refused (model : Model) :
    (model.extract .strict).outcome = (model.extract .firstWins).outcome ∨
      ∃ nodeId, model.Used nodeId ∧ model.Crowded nodeId ∧
        (model.extract .strict).outcome =
          .error (.ambiguousPipeInput nodeId
            ((model.incoming nodeId).countP fun edge => edge.FeedsPipe)) := by
  unfold extract extractWithin
  split
  · exact .inl rfl
  · rename_i producer oneEdge
    rcases (model.stricter_resolve model.nodeCount producer.source
        model.resultId).eq_or_exists with
      same | ⟨_, ⟨crowdedId, reaches, crowded, rfl⟩, refused⟩
    · exact .inl same
    · exact .inr ⟨crowdedId, ⟨producer, oneEdge, reaches⟩, crowded, refused⟩
  · exact .inl rfl

/-- Unless extraction fails because of the number of producers or because its
budget is used up, it fails by a fault of a node that is used. -/
theorem exists_localFault_of_extractWithin_eq_error {policy : PipePolicy}
    {budget : Nat} {error : CompileError}
    (failed : (model.extractWithin policy budget).outcome = .error error)
    (otherKind : error.kind ∉ [ErrorKind.missingResultProducer,
      .ambiguousResultProducer, .cyclicFlow]) :
    ∃ faultyId faultyConsumerId, model.Used faultyId ∧
      LocalFault policy model faultyId faultyConsumerId error := by
  unfold extractWithin at failed
  split at failed
  · cases failed
    simp [CompileError.kind] at otherKind
  · rename_i producer oneEdge
    rcases exists_localFault_of_resolve_eq_error failed with
      ⟨exhaustedId, rfl⟩ | ⟨faultyId, faultyConsumerId, reaches, violated⟩
    · simp [CompileError.kind] at otherKind
    · exact ⟨faultyId, faultyConsumerId, ⟨producer, oneEdge, reaches⟩,
        violated⟩
  · cases failed
    simp [CompileError.kind] at otherKind

/-- The lenient policy has no objection to any number of pipe edges. -/
theorem not_localFault_ambiguousPipeInput {atId : NodeId} {count : Nat} :
    ¬ LocalFault .firstWins model nodeId consumerId
      (.ambiguousPipeInput atId count) := by
  intro fault
  cases fault with
  | operands _ failed =>
      have kind := kind_of_operandSources_eq_error failed
      split at kind <;> cases kind
  | pipe _ isStrict _ => cases isStrict

theorem extract_firstWins_ne_ambiguousPipeInput (model : Model)
    (nodeId : NodeId) (count : Nat) :
    (model.extract .firstWins).outcome ≠
      .error (.ambiguousPipeInput nodeId count) := by
  intro failed
  obtain ⟨_, _, _, violated⟩ :=
    exists_localFault_of_extractWithin_eq_error failed
      (by simp [CompileError.kind])
  exact not_localFault_ambiguousPipeInput violated

/-- A tree under the strict policy leaves no room for a crowded command. -/
theorem not_crowded_of_extract_strict_eq_ok {tree : InputTree}
    (returned : (model.extract .strict).outcome = .ok tree)
    (used : model.Used nodeId) : ¬ model.Crowded nodeId := by
  intro crowded
  obtain ⟨producer, oneEdge, reaches⟩ := used
  obtain ⟨otherProducer, otherEdge, unfolds⟩ :=
    (extract_eq_ok_iff_unfolds .strict model tree).mp returned
  rw [oneEdge] at otherEdge
  cases otherEdge
  obtain ⟨lower, lowerUnfolds⟩ := unfolds.exists_of_reaches reaches
  obtain ⟨name, switches, isCommand⟩ := crowded.isCommand
  obtain ⟨_, _, atMostOne, _⟩ :=
    (Layer.command_iff isCommand).mp lowerUnfolds.toLayer
  have several := crowded.several
  have notSeveral := atMostOne rfl
  omega

/-- The strict policy only rejects.  It agrees with the lenient one or reports a
crowded command that the result depends on; it agrees if there is none, it
rejects whatever compiles with one, and its error is never reported by the
lenient policy. -/
theorem extract_strict_only_rejects (model : Model) :
    ((model.extract .strict).outcome = (model.extract .firstWins).outcome ∨
      ∃ nodeId count, model.Used nodeId ∧ model.Crowded nodeId ∧
        count = ((model.incoming nodeId).countP fun edge => edge.FeedsPipe) ∧
        (model.extract .strict).outcome =
          .error (.ambiguousPipeInput nodeId count)) ∧
    ((∀ nodeId, model.Used nodeId → ¬ model.Crowded nodeId) →
      (model.extract .strict).outcome = (model.extract .firstWins).outcome) ∧
    (∀ tree, (model.extract .firstWins).outcome = .ok tree →
      (∃ nodeId, model.Used nodeId ∧ model.Crowded nodeId) →
      ∃ nodeId count, (model.extract .strict).outcome =
        .error (.ambiguousPipeInput nodeId count)) ∧
    ∀ nodeId count, (model.extract .firstWins).outcome ≠
      .error (.ambiguousPipeInput nodeId count) := by
  have compared := model.extract_strict_eq_or_refused
  refine ⟨?_, ?_, ?_, model.extract_firstWins_ne_ambiguousPipeInput⟩
  · rcases compared with same | ⟨nodeId, used, crowded, refused⟩
    · exact .inl same
    · exact .inr ⟨nodeId, _, used, crowded, rfl, refused⟩
  · intro noneCrowded
    rcases compared with same | ⟨nodeId, used, crowded, _⟩
    · exact same
    · exact (noneCrowded nodeId used crowded).elim
  · rintro tree returned ⟨nodeId, used, crowded⟩
    rcases compared with same | ⟨refusedId, _, _, refused⟩
    · rw [returned] at same
      exact (not_crowded_of_extract_strict_eq_ok same used crowded).elim
    · exact ⟨refusedId, _, refused⟩

theorem rivalModel_not_crowded (nodeId : NodeId) :
    ¬ rivalModel.Crowded nodeId := by
  intro crowded
  obtain ⟨name, switches, isCommand⟩ := crowded.isCommand
  have declared : nodeId ∈ rivalModel.roles.map Prod.fst := by
    rw [← lookup_isSome_iff_mem_keys]
    exact Option.isSome_iff_exists.mpr ⟨_, isCommand⟩
  simp only [rivalModel, List.map_cons, List.map_nil, List.mem_cons,
    List.not_mem_nil, or_false] at declared
  rcases declared with rfl | rfl | rfl | rfl | rfl
  · cases isCommand
  · cases isCommand
  · cases isCommand
  · exact absurd crowded.several (by decide)
  · cases isCommand

/-- The sample model compiles with a crowded command, which the strict policy
rejects.  The rival model fails without one, and does so under both policies. -/
theorem samples_strict_only_rejects :
    ((sampleModel.Used "list" ∧ sampleModel.Crowded "list") ∧
      ∃ nodeId count, (sampleModel.extract .strict).outcome =
        .error (.ambiguousPipeInput nodeId count)) ∧
    (∀ nodeId, rivalModel.Used nodeId → ¬ rivalModel.Crowded nodeId) ∧
      (rivalModel.extract .strict).outcome =
        .error (.operatorHandles "pair" (.repeated .left)) := by
  have used : sampleModel.Used "list" := ⟨⟨"list", none⟩, rfl, .refl⟩
  have crowded : sampleModel.Crowded "list" :=
    ⟨⟨"ls", ["--all"], rfl⟩, by decide⟩
  have noneCrowded : ∀ nodeId, rivalModel.Used nodeId →
      ¬ rivalModel.Crowded nodeId := fun nodeId _ =>
    rivalModel_not_crowded nodeId
  refine ⟨⟨⟨used, crowded⟩, ?_⟩, noneCrowded, ?_⟩
  · exact (extract_strict_only_rejects sampleModel).2.2.1 _ rfl
      ⟨"list", used, crowded⟩
  · rw [(extract_strict_only_rejects rivalModel).2.1 noneCrowded]
    rfl

end Model

end PipeGraph
