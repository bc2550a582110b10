import PipeGraph.Catalog.Basic
import PipeGraph.Proofs.KeptValues

/-!
# Loading catalogs

An engine that answers with the text of a catalog gives the catalog that would
be read from the text, and every other answer gives the fallback.
-/

namespace PipeGraph

open Json

theorem TypeSignature.carries_read : Carries read? read? := by
  intro place value types kept found
  simp only [read?, Option.bind_eq_bind, Option.bind_eq_some_iff,
    guard_eq_some_iff] at found ⊢
  obtain ⟨record, isRecord, _, fits, accepted, isAccepted, produced,
    isProduced, returned⟩ := found
  obtain ⟨keptRecord, isKeptRecord, keptAs⟩ := kept.exists_record isRecord
  exact ⟨keptRecord, isKeptRecord, (), keptAs.fits fits,
    accepted, carries_text.required? keptAs isAccepted,
    produced, carries_text.required? keptAs isProduced, returned⟩

theorem Signature.carries_read : Carries read? read? := by
  intro place value signature kept found
  simp only [read?, Option.bind_eq_bind, Option.bind_eq_some_iff,
    guard_eq_some_iff] at found ⊢
  obtain ⟨record, isRecord, _, fits, name, isName, category, isCategory,
    commandType, isCommandType, description, isDescription, params, isParams,
    inputOutput, isInputOutput, searchTerms, isSearchTerms, returned⟩ := found
  obtain ⟨keptRecord, isKeptRecord, keptAs⟩ := kept.exists_record isRecord
  exact ⟨keptRecord, isKeptRecord, (), keptAs.fits fits,
    name, carries_text.required? keptAs isName,
    category, carries_text.required? keptAs isCategory,
    commandType, carries_text.required? keptAs isCommandType,
    description, carries_text.defaulted? keptAs isDescription,
    params, carries_value.defaulted? keptAs isParams,
    inputOutput,
    TypeSignature.carries_read.listOf.defaulted? keptAs isInputOutput,
    searchTerms, carries_text.defaulted? keptAs isSearchTerms, returned⟩

/-- Commands that are read from a text are read from its value. -/
theorem carries_readSignatures : Carries readSignatures? readSignatures? :=
  Signature.carries_read.listOf

theorem kept_of_parse? {text : String} {place : Place} {value : Value}
    (isPlace : Place.parse? text = some place)
    (isValue : Value.parse? text = some value) : Kept place value := by
  obtain ⟨document, isDocument, rfl⟩ := Option.map_eq_some_iff.mp isPlace
  rw [Value.parse?, isDocument] at isValue
  exact isValue

/-- The answers that give no list of commands. -/
inductive EngineAnswer.Unusable : EngineAnswer → Prop
  | failure (errorJson : String) : Unusable (.failure errorJson)
  | undisplayable : Unusable .undisplayable
  | notJson {text : String} :
      Value.parse? text = none → Unusable (.success text)
  | notCommands {text : String} {value : Value} :
      Value.parse? text = some value →
        readSignatures? value = none → Unusable (.success text)

/-- An answer is of no use, or it holds a list of commands. -/
theorem EngineAnswer.unusable_or_commands (answer : EngineAnswer) :
    answer.Unusable ∨ ∃ text value commands, answer = .success text ∧
      Value.parse? text = some value ∧
        readSignatures? value = some commands := by
  cases answer with
  | success text =>
      cases isValue : Value.parse? text with
      | none => exact .inl (.notJson isValue)
      | some value =>
          cases areCommands : readSignatures? value with
          | none => exact .inl (.notCommands isValue areCommands)
          | some commands =>
              exact .inr ⟨text, value, commands, rfl, isValue, areCommands⟩
  | failure errorJson => exact .inl (.failure errorJson)
  | undisplayable => exact .inl .undisplayable

namespace Catalog

variable {engine : Engine} {text : String} {complaints : Complaints}

theorem readSignatures?_of_fromJson {catalog : Catalog}
    (loaded : (fromJson text complaints).outcome = .ok catalog) :
    ∃ place, Place.parse? text = some place ∧
      readSignatures? place = some catalog.commands := by
  rw [← Option.bind_eq_some_iff]
  rw [fromJson] at loaded
  cases found : (Place.parse? text).bind readSignatures? with
  | none =>
      rw [found] at loaded
      cases loaded
  | some commands =>
      rw [found] at loaded
      cases loaded
      rfl

/-- The engine is asked once, and its answer decides what becomes of the
fallback. -/
theorem fromEngine_eq (engine : Engine) (fallback : String)
    (complaints : Complaints) :
    fromEngine engine fallback complaints =
      ⟨[catalogQuery], (engine.answer catalogQuery).reported complaints >>=
        ofOutcome complaints fallback⟩ :=
  rfl

theorem ofOutcome_of_success (text fallback : String) :
    (EngineAnswer.success text).reported complaints >>=
        ofOutcome complaints fallback =
      ofOutcome complaints fallback
        ((EngineAnswer.success text).outcome complaints) :=
  rfl

/-- A list of commands is taken from the engine, and the fallback stays
unread. -/
theorem fromEngine_of_commands {value : Value} {commands : List Signature}
    (answered : engine.answer catalogQuery = .success text)
    (isValue : Value.parse? text = some value)
    (areCommands : readSignatures? value = some commands)
    (fallback : String) (complaints : Complaints) :
    (fromEngine engine fallback complaints).result =
      ⟨[.catalogLoadedFromEngine commands.length], .ok ⟨commands⟩⟩ := by
  rw [fromEngine_eq, answered, ofOutcome_of_success]
  simp only [EngineAnswer.outcome, isValue, ofOutcome, areCommands]
  rfl

/-- After any other answer the fallback is read, and the log says so. -/
theorem fromEngine_of_unusable
    (unusable : (engine.answer catalogQuery).Unusable) (fallback : String)
    (complaints : Complaints) :
    ∃ before reason, (fromEngine engine fallback complaints).result =
      ⟨before ++ .catalogFallback reason ::
          (fromJson fallback complaints).events,
        (fromJson fallback complaints).outcome⟩ := by
  rw [fromEngine_eq]
  generalize engine.answer catalogQuery = answer at unusable
  cases unusable with
  | failure errorJson => exact ⟨[.scriptFailed errorJson], errorJson, rfl⟩
  | undisplayable => exact ⟨[], _, rfl⟩
  | notJson notValue =>
      rw [ofOutcome_of_success]
      simp only [EngineAnswer.outcome, notValue]
      exact ⟨[], _, rfl⟩
  | notCommands isValue notCommands =>
      rw [ofOutcome_of_success]
      simp only [EngineAnswer.outcome, isValue, ofOutcome, notCommands]
      exact ⟨[], _, rfl⟩

/-- A list that the engine gives is the one that its text would give, and the
fallback is read exactly when the engine gives none, whatever readers have to
say about what they cannot read. -/
theorem fromEngine_agrees (engine : Engine) (fallback : String)
    (complaints : Complaints) :
    (fromEngine engine fallback complaints).scripts = [catalogQuery] ∧
      (∀ text value catalog, engine.answer catalogQuery = .success text →
        Value.parse? text = some value →
          (fromJson text complaints).outcome = .ok catalog →
            (fromEngine engine fallback complaints).result.outcome =
              .ok catalog) ∧
      ((engine.answer catalogQuery).Unusable →
        (fromEngine engine fallback complaints).result.outcome =
          (fromJson fallback complaints).outcome) ∧
      (¬ (engine.answer catalogQuery).Unusable →
        ∃ text value commands, engine.answer catalogQuery = .success text ∧
          Value.parse? text = some value ∧
            readSignatures? value = some commands ∧
              (fromEngine engine fallback complaints).result.outcome =
                .ok ⟨commands⟩) ∧
      ((∃ reason, Event.catalogFallback reason ∈
          (fromEngine engine fallback complaints).result.events) ↔
        (engine.answer catalogQuery).Unusable) := by
  refine ⟨rfl, ?_, ?_, ?_, ?_⟩
  · intro text value catalog answered isValue loaded
    obtain ⟨place, isPlace, areCommands⟩ := readSignatures?_of_fromJson loaded
    have areKept := carries_readSignatures (kept_of_parse? isPlace isValue)
      areCommands
    rw [fromEngine_of_commands answered isValue areKept]
  · intro unusable
    obtain ⟨before, reason, fellBack⟩ :=
      fromEngine_of_unusable unusable fallback complaints
    rw [fellBack]
  · intro usable
    obtain ⟨text, value, commands, answered, isValue, areCommands⟩ :=
      (EngineAnswer.unusable_or_commands _).resolve_left usable
    refine ⟨text, value, commands, answered, isValue, areCommands, ?_⟩
    rw [fromEngine_of_commands answered isValue areCommands]
  · constructor
    · rintro ⟨reason, reported⟩
      refine (EngineAnswer.unusable_or_commands _).resolve_right ?_
      rintro ⟨text, value, commands, answered, isValue, areCommands⟩
      rw [fromEngine_of_commands answered isValue areCommands] at reported
      simp at reported
    · intro unusable
      obtain ⟨before, reason, fellBack⟩ :=
        fromEngine_of_unusable unusable fallback complaints
      exact ⟨reason, by simp [fellBack]⟩

/-- A repeated member that no reader looks at, one inside of a field that is
kept as it comes, and a command given by position. -/
def sampleText : String :=
  "[\x7b\"x\": 1, \"name\": \"ls\", \"x\": 2, \"category\": \"fs\",
  \"command_type\": \"built-in\",
  \"params\": \x7b\"b\": 1, \"a\": 2, \"b\": 3\x7d\x7d,
  [\"cd\", \"fs\", \"built-in\"]]"

theorem fromEngine_sampleText :
    ∃ catalog, (fromJson sampleText).outcome = .ok catalog ∧
      catalog.commands.map Signature.name = ["ls", "cd"] ∧
      (fromEngine ⟨fun _ => .success sampleText⟩ "").result.outcome =
        .ok catalog ∧
      (fromEngine ⟨fun _ => .undisplayable⟩ sampleText).result.outcome =
        .ok catalog := by
  have isSome : (Value.parse? sampleText).isSome = true := by
    decide +kernel
  have named : (fromJson sampleText).outcome.toOption.map
      (fun catalog => catalog.commands.map Signature.name) =
        some ["ls", "cd"] := by
    decide +kernel
  obtain ⟨-, agrees, -⟩ :=
    fromEngine_agrees ⟨fun _ => .success sampleText⟩ "" .silent
  obtain ⟨-, -, fallsBack, -⟩ :=
    fromEngine_agrees ⟨fun _ => .undisplayable⟩ sampleText .silent
  cases loaded : (fromJson sampleText).outcome with
  | error error =>
      rw [loaded] at named
      cases named
  | ok catalog =>
      rw [loaded] at named
      exact ⟨catalog, rfl, Option.some.inj named,
        agrees _ _ _ rfl (Option.some_get isSome).symm loaded,
        (fallsBack .undisplayable).trans loaded⟩

end Catalog

end PipeGraph
