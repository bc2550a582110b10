import PipeGraph.Proofs.CatalogLoading
import PipeGraph.Proofs.GraphWriting

/-!
# Values read back

The value that is written for a record holds every field once, so each reader
finds its field in it and the record is read back.  Commands may be written in
other ways too, and so may an engine's answer.  The spellings of an answer are
described without its reader.  They are exactly what the reader accepts, and
whichever of them was read, one and the same object is written for the answer.
-/

namespace PipeGraph

namespace Json

section Writing

variable {α : Type} {read : Value → Option α} {write : α → Value}
  {members : List (String × Value)} {field : Field} {name : String}
  {value : Value} {default result : α}

/-- A reader that finds in every written value what was written. -/
def ReadsBack (read : Value → Option α) (write : α → Value) : Prop :=
  ∀ result, read (write result) = some result

theorem ReadsBack.listOf (back : ReadsBack read write) :
    ReadsBack (listOf? read) fun results => .array (results.map write) := by
  intro results
  refine mapM_eq_some_iff.mpr ?_
  rw [List.forall₂_map_right_iff, List.forall₂_same]
  exact fun result _ => back result

/-- An object that is written with one member for a field gives that member. -/
theorem given?_inOrder
    (single : (members.filter fun member =>
      field.names.contains member.1) = [(name, value)]) :
    (Record.byName (inOrder [] members)).given? field =
      some (some value) := by
  rw [given?_byName, filter_inOrder_of_singleton rfl single]
  rfl

theorem required?_inOrder
    (single : (members.filter fun member =>
      field.names.contains member.1) = [(name, value)])
    (found : read value = some result) :
    (Record.byName (inOrder [] members)).required? field read =
      some result := by
  rw [Record.required?, given?_inOrder single]
  exact found

theorem defaulted?_inOrder
    (single : (members.filter fun member =>
      field.names.contains member.1) = [(name, value)])
    (found : read value = some result) :
    (Record.byName (inOrder [] members)).defaulted? field default read =
      some result := by
  rw [Record.defaulted?, given?_inOrder single]
  exact found

end Writing

section Texts

variable {value : Value} {record : Record Value} {text : String}

theorem Value.text?_eq_some_iff :
    Source.text? value = some text ↔ value = .string text := by
  cases value <;> simp [Source.text?, Value.text?]

theorem atMostOne?_eq_some_iff {α : Type} {elements : List α} {element : α} :
    atMostOne? elements = some (some element) ↔ elements = [element] := by
  rcases elements with _ | ⟨first, _ | ⟨second, others⟩⟩ <;>
    simp [atMostOne?]

theorem required?_text_eq_some_iff {field : Field} :
    record.required? field Source.text? = some text ↔
      record.given? field = some (some (.string text)) := by
  rw [Record.required?]
  rcases record.given? field with _ | _ | value
  · simp
  · simp
  · simpa using Value.text?_eq_some_iff

/-- What an object holds under a name. -/
def heldUnder (name : String) (members : List (String × Value)) : List Value :=
  (members.filter fun member => member.1 = name).map Prod.snd

theorem required?_byName_eq_some_iff {members : List (String × Value)}
    {position : Nat} {mayBeLeftOff : Bool} {name : String} :
    (Record.byName members).required? ⟨position, [name], mayBeLeftOff⟩
        Source.text? = some text ↔
      heldUnder name members = [.string text] := by
  rw [required?_text_eq_some_iff, given?_byName, atMostOne?_eq_some_iff,
    heldUnder]
  simp

theorem required?_byPosition_eq_some_iff {items : List Value}
    {position : Nat} {names : List String} :
    (Record.byPosition items).required? ⟨position, names, false⟩
        Source.text? = some text ↔
      items[position]? = some (.string text) := by
  rw [required?_text_eq_some_iff, given?_byPosition]
  cases items[position]? <;> simp

end Texts

end Json

open Json Editor

/-! ## Commands -/

theorem TypeSignature.readsBack : ReadsBack read? toValue := by
  intro types
  simp only [read?, Option.bind_eq_bind, Option.bind_eq_some_iff,
    guard_eq_some_iff]
  exact ⟨_, rfl, (), rfl,
    _, required?_inOrder rfl rfl,
    _, required?_inOrder rfl rfl, rfl⟩

theorem Signature.readsBack : ReadsBack read? toValue := by
  intro signature
  simp only [read?, Option.bind_eq_bind, Option.bind_eq_some_iff,
    guard_eq_some_iff]
  -- The fields in the order in which they are read, which is not the order of
  -- the members: those are sorted by name.
  exact ⟨_, rfl, (), rfl,
    _, required?_inOrder rfl rfl,
    _, required?_inOrder rfl rfl,
    _, required?_inOrder rfl rfl,
    _, defaulted?_inOrder rfl rfl,
    _, defaulted?_inOrder rfl rfl,
    _, defaulted?_inOrder rfl (TypeSignature.readsBack.listOf _),
    _, defaulted?_inOrder rfl rfl, rfl⟩

/-- The value that is written for a list of commands. -/
def signaturesValue (commands : List Signature) : Value :=
  .array (commands.map Signature.toValue)

theorem readsBack_signaturesValue :
    ReadsBack readSignatures? signaturesValue :=
  Signature.readsBack.listOf

/-! ## Answers -/

namespace EngineAnswer

/-- The word that tells an answer from the other ones. -/
def tag : EngineAnswer → String
  | success _ => "success"
  | failure _ => "failure"
  | undisplayable => "serialize_failure"

/-- The text that an answer carries, if it does, with its name. -/
def payload : EngineAnswer → List (String × String)
  | success valueJson => [("value_json", valueJson)]
  | failure errorJson => [("error_json", errorJson)]
  | undisplayable => []

/-- A record gives the tag of an answer and what the answer carries. -/
structure GivenBy {source : Type} [Source source] (answer : EngineAnswer)
    (record : Record source) : Prop where
  tagged : record.required? typeField Source.text? = some answer.tag
  carried : ∀ entry ∈ answer.payload,
    record.required? ⟨1, [entry.1], false⟩ Source.text? = some entry.2
  fits : record.fits (1 + answer.payload.length) = true

/-- The two answers that carry a text are read alike. -/
theorem textAnswer_eq_some_iff {source : Type} [Source source]
    {record : Record source} {field : Field} {wrap : String → EngineAnswer}
    {answer : EngineAnswer} :
    (Option.bind (guard (record.fits 2 = true)) fun _ =>
        (record.required? field Source.text?).map wrap) = some answer ↔
      record.fits 2 = true ∧
        ∃ text, record.required? field Source.text? = some text ∧
          wrap text = answer := by
  simp only [Option.bind_eq_some_iff, guard_eq_some_iff,
    Option.map_eq_some_iff, exists_const]

theorem read?_eq_some_iff {source : Type} [Source source] {input : source}
    {answer : EngineAnswer} :
    read? input = some answer ↔
      (Source.value? input).isSome ∧
        ∃ record, Record.of? input = some record ∧ answer.GivenBy record := by
  simp only [read?, Option.bind_eq_bind, Option.bind_eq_some_iff]
  constructor
  · rintro ⟨value, isValue, record, isRecord, type, isType, found⟩
    refine ⟨by simp [isValue], record, isRecord, ?_⟩
    split_ifs at found with isSuccess isFailure isUndisplayable
    · obtain ⟨fits, text, isText, rfl⟩ := textAnswer_eq_some_iff.mp found
      subst isSuccess
      exact ⟨isType, List.forall_mem_singleton.mpr isText, fits⟩
    · obtain ⟨fits, text, isText, rfl⟩ := textAnswer_eq_some_iff.mp found
      subst isFailure
      exact ⟨isType, List.forall_mem_singleton.mpr isText, fits⟩
    · obtain ⟨_, fits, returned⟩ := Option.bind_eq_some_iff.mp found
      cases returned
      subst isUndisplayable
      exact ⟨isType, List.forall_mem_nil _, guard_eq_some_iff.mp fits⟩
  · rintro ⟨kept, record, isRecord, tagged, carried, fits⟩
    obtain ⟨value, isValue⟩ := Option.isSome_iff_exists.mp kept
    refine ⟨value, isValue, record, isRecord, answer.tag, tagged, ?_⟩
    -- The tag of the answer selects its own branch of the reader.
    cases answer with
    | success valueJson =>
        have isText := carried _ (List.mem_singleton_self _)
        rw [tag, if_pos rfl]
        exact textAnswer_eq_some_iff.mpr ⟨fits, valueJson, isText, rfl⟩
    | failure errorJson =>
        have isText := carried _ (List.mem_singleton_self _)
        rw [tag, if_neg (by decide), if_pos rfl]
        exact textAnswer_eq_some_iff.mpr ⟨fits, errorJson, isText, rfl⟩
    | undisplayable =>
        rw [tag, if_neg (by decide), if_neg (by decide), if_pos rfl]
        exact Option.bind_eq_some_iff.mpr
          ⟨(), guard_eq_some_iff.mpr fits, rfl⟩

/-- An answer that is read from a text is read from the value of the text. -/
theorem carries_read : Carries read? read? := by
  intro place value answer kept found
  rw [read?_eq_some_iff] at found ⊢
  obtain ⟨-, record, isRecord, given⟩ := found
  obtain ⟨keptRecord, isKeptRecord, keptAs⟩ := kept.exists_record isRecord
  refine ⟨rfl, keptRecord, isKeptRecord, ?_, ?_, keptAs.fits given.fits⟩
  · exact carries_text.required? keptAs given.tagged
  · intro entry member
    exact carries_text.required? keptAs (given.carried entry member)

/-- The spellings of an answer.  An object gives the tag and the text that the
answer carries once each, at any places and with anything else beside them.  An
array gives the tag, then the text, and nothing else. -/
inductive Spells (answer : EngineAnswer) : Value → Prop
  | object {members : List (String × Value)} :
      heldUnder "type" members = [.string answer.tag] →
        (∀ entry ∈ answer.payload,
          heldUnder entry.1 members = [.string entry.2]) →
          Spells answer (.object members)
  | array :
      Spells answer (.array (.string answer.tag ::
        answer.payload.map fun entry => .string entry.2))

variable {answer : EngineAnswer}

theorem givenBy_byName_iff {members : List (String × Value)} :
    answer.GivenBy (.byName members) ↔
      heldUnder "type" members = [.string answer.tag] ∧
        ∀ entry ∈ answer.payload,
          heldUnder entry.1 members = [.string entry.2] := by
  constructor
  · rintro ⟨tagged, carried, -⟩
    exact ⟨required?_byName_eq_some_iff.mp tagged, fun entry member =>
      required?_byName_eq_some_iff.mp (carried entry member)⟩
  · rintro ⟨tagged, carried⟩
    exact ⟨required?_byName_eq_some_iff.mpr tagged, fun entry member =>
      required?_byName_eq_some_iff.mpr (carried entry member), rfl⟩

/-- An array has to give the tag and the text at their places and to end
there. -/
theorem givenBy_byPosition_iff {items : List Value} :
    answer.GivenBy (.byPosition items) ↔
      items = .string answer.tag ::
        answer.payload.map fun entry => .string entry.2 := by
  have given : answer.GivenBy (.byPosition items) ↔
      items[0]? = some (.string answer.tag) ∧
        (∀ entry ∈ answer.payload, items[1]? = some (.string entry.2)) ∧
          items.length ≤ 1 + answer.payload.length := by
    constructor
    · rintro ⟨tagged, carried, fits⟩
      exact ⟨required?_byPosition_eq_some_iff.mp tagged, fun entry member =>
        required?_byPosition_eq_some_iff.mp (carried entry member),
        of_decide_eq_true fits⟩
    · rintro ⟨tagged, carried, fits⟩
      exact ⟨required?_byPosition_eq_some_iff.mpr tagged, fun entry member =>
        required?_byPosition_eq_some_iff.mpr (carried entry member),
        decide_eq_true fits⟩
  rw [given]
  -- No answer has more than two fields, so three items are always too many.
  rcases items with _ | ⟨first, _ | ⟨second, _ | ⟨third, others⟩⟩⟩ <;>
    cases answer <;> simp [payload]

/-- A value is read as an answer exactly if it is a spelling of the answer. -/
theorem read?_eq_some_iff_spells {value : Value} :
    read? value = some answer ↔ answer.Spells value := by
  rw [read?_eq_some_iff]
  constructor
  · rintro ⟨-, record, isRecord, given⟩
    cases value with
    | object members =>
        cases isRecord
        obtain ⟨tagged, carried⟩ := givenBy_byName_iff.mp given
        exact .object tagged carried
    | array items =>
        cases isRecord
        rw [givenBy_byPosition_iff.mp given]
        exact .array
    | _ => cases isRecord
  · rintro (⟨tagged, carried⟩ | _)
    · exact ⟨rfl, _, rfl, givenBy_byName_iff.mpr ⟨tagged, carried⟩⟩
    · exact ⟨rfl, _, rfl, givenBy_byPosition_iff.mpr rfl⟩

/-- The members of the object that is written for an answer, in the order of
their names. -/
def fields : EngineAnswer → List (String × Value)
  | success valueJson =>
      [("type", .string "success"), ("value_json", .string valueJson)]
  | failure errorJson =>
      [("error_json", .string errorJson), ("type", .string "failure")]
  | undisplayable => [("type", .string "serialize_failure")]

theorem toValue_eq_fields (answer : EngineAnswer) :
    answer.toValue = .object answer.fields := by
  cases answer <;> rfl

theorem spells_fields (answer : EngineAnswer) :
    answer.Spells (.object answer.fields) := by
  cases answer with
  | success valueJson => exact .object rfl (List.forall_mem_singleton.mpr rfl)
  | failure errorJson => exact .object rfl (List.forall_mem_singleton.mpr rfl)
  | undisplayable => exact .object rfl (List.forall_mem_nil _)

theorem readsBack : ReadsBack read? toValue := by
  intro answer
  rw [toValue_eq_fields, read?_eq_some_iff_spells]
  exact answer.spells_fields

/-- A text that describes an answer writes a spelling of it. -/
theorem exists_spelling_of_parse? {text : String}
    (found : parse? text = some answer) :
    ∃ value, Value.parse? text = some value ∧ answer.Spells value := by
  obtain ⟨place, isPlace, isRead⟩ := Option.bind_eq_some_iff.mp found
  obtain ⟨kept, -⟩ := read?_eq_some_iff.mp isRead
  obtain ⟨value, isKept⟩ := Option.isSome_iff_exists.mp kept
  refine ⟨value, ?_, read?_eq_some_iff_spells.mp (carries_read isKept isRead)⟩
  obtain ⟨document, isDocument, rfl⟩ := Option.map_eq_some_iff.mp isPlace
  rw [Value.parse?, isDocument]
  exact isKept

end EngineAnswer

/-- The value that is written for commands is read as these commands, also from
an engine that answers with it.  The value that is written for an answer is read
as this answer.  So are all spellings of the answer, from texts as well, and
reading any of them and writing the answer gives one and the same object. -/
theorem values_read_back :
    (∀ commands : List Signature,
      readSignatures? (signaturesValue commands) = some commands) ∧
    (∀ (commands : List Signature) (engine : Engine) (text fallback : String)
        (complaints : Complaints),
      engine.answer catalogQuery = .success text →
        Value.parse? text = some (signaturesValue commands) →
          (Catalog.fromEngine engine fallback complaints).result.outcome =
            .ok ⟨commands⟩) ∧
    (∀ answer : EngineAnswer,
      EngineAnswer.read? answer.toValue = some answer) ∧
    (∀ (value : Value) (answer : EngineAnswer),
      EngineAnswer.read? value = some answer ↔ answer.Spells value) ∧
    (∀ (value : Value) (answer : EngineAnswer), answer.Spells value →
      (EngineAnswer.read? value).map EngineAnswer.toValue =
        some (.object answer.fields)) ∧
    (∀ (text : String) (answer : EngineAnswer),
      EngineAnswer.parse? text = some answer →
        ∃ value, Value.parse? text = some value ∧ answer.Spells value) := by
  refine ⟨readsBack_signaturesValue, ?_, EngineAnswer.readsBack,
    fun _ _ => EngineAnswer.read?_eq_some_iff_spells, ?_,
    fun _ _ => EngineAnswer.exists_spelling_of_parse?⟩
  · intro commands engine text fallback complaints answered isValue
    rw [Catalog.fromEngine_of_commands answered isValue
      (readsBack_signaturesValue commands)]
  · intro value answer spelled
    rw [EngineAnswer.read?_eq_some_iff_spells.mpr spelled, Option.map_some,
      EngineAnswer.toValue_eq_fields]

/-- A command whose parameter declarations hold numbers of both kinds, below an
array and an object. -/
def declaredCommand : Signature where
  name := "größe"
  category := "fs"
  commandType := ""
  description := ""
  params := .array
    [.double 0x4059000000000000, .object [("a", .int (-3))], .null]
  inputOutput := []
  searchTerms := "du"

def declaredText : String :=
  "[\x7b\"name\":\"größe\",\"category\":\"fs\",\"command_type\":\"\"," ++
  "\"description\":\"\",\"params\":[1e2,\x7b\"a\":-3\x7d,null]," ++
  "\"input_output\":[],\"search_terms\":\"du\"\x7d]"

def declaredDocument : Document :=
  .array [.object
    [(plainly "name", .string (plainly "größe")),
      (plainly "category", .string (plainly "fs")),
      (plainly "command_type", .string (plainly "")),
      (plainly "description", .string (plainly "")),
      (plainly "params", .array
        [.number ⟨false, [1], [], some (false, [2])⟩,
          .object [(plainly "a", .number ⟨true, [3], [], none⟩)], .null]),
      (plainly "input_output", .array []),
      (plainly "search_terms", .string (plainly "du"))]]

theorem parse?_declaredText :
    Value.parse? declaredText = some (signaturesValue [declaredCommand]) := by
  have isDocument : Document.parse? declaredText = some declaredDocument := by
    decide +kernel
  rw [Value.parse?, isDocument]
  rfl

/-- A list of one command as the answer of an engine, and an array that spells a
failure. -/
theorem declaredCommand_reads_back :
    (Catalog.fromEngine ⟨fun _ => .success declaredText⟩ "").result.outcome =
        .ok ⟨[declaredCommand]⟩ ∧
      (EngineAnswer.read?
        (Value.array [.string "failure", .string "1"])).map
          EngineAnswer.toValue = some (.object
            [("error_json", .string "1"), ("type", .string "failure")]) := by
  obtain ⟨-, fromEngine, -, -, spelled, -⟩ := values_read_back
  exact ⟨fromEngine _ _ declaredText "" .silent rfl parse?_declaredText,
    spelled _ (.failure "1") .array⟩

end PipeGraph
