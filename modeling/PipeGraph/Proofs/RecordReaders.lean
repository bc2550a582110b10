import PipeGraph.Json.Record
import PipeGraph.Proofs.JsonTokens
import PipeGraph.Proofs.Records

/-!
# Reading records

Reading a record at a place in a text succeeds exactly where the record is
found.  Each way of reading a field corresponds to one kind of slot, provided
that the value of the field is itself read exactly where it is given.
-/

namespace PipeGraph

namespace Json

section Readers

variable {α : Type}

theorem mapM_eq_some_iff {β : Type} {read : α → Option β} {items : List α}
    {values : List β} :
    items.mapM read = some values ↔
      List.Forall₂ (fun value item => read item = some value) values items := by
  induction items generalizing values with
  | nil =>
      rw [List.mapM_nil, List.forall₂_nil_right_iff]
      exact ⟨fun isNil => (Option.some.inj isNil).symm,
        fun isNil => isNil ▸ rfl⟩
  | cons item items ih =>
      rw [List.mapM_cons, List.forall₂_cons_right_iff]
      simp only [Option.bind_eq_bind, Option.bind_eq_some_iff, ih]
      constructor
      · rintro ⟨value, valueRead, others, othersRead, returned⟩
        exact ⟨value, others, valueRead, othersRead,
          (Option.some.inj returned).symm⟩
      · rintro ⟨value, others, valueRead, othersRead, rfl⟩
        exact ⟨value, valueRead, others, othersRead, rfl⟩

theorem guard_eq_some_iff {condition : Bool} {result : Unit} :
    (guard (condition = true) : Option Unit) = some result ↔
      condition = true := by
  cases condition <;> simp [guard, failure]

/-- A reader that finds a value exactly in the documents that give it. -/
def Reads (read : Place → Option α) (gives : α → Document → Prop) : Prop :=
  ∀ depth document value,
    read ⟨depth, document⟩ = some value ↔ gives value document

theorem reads_text : Reads Source.text? IsText := by
  intro depth document text
  cases document with
  | string units =>
      refine text?_eq_some_iff.trans ?_
      constructor
      · exact fun denotes => ⟨units, rfl, denotes⟩
      · rintro ⟨_, isString, denotes⟩
        cases isString
        exact denotes
  | _ =>
      constructor
      · intro found
        cases found
      · rintro ⟨_, isString, -⟩
        cases isString

theorem Reads.listOf {read : Place → Option α} {gives : α → Document → Prop}
    (reads : Reads read gives) : Reads (listOf? read) (IsListOf gives) := by
  intro depth document values
  cases document with
  | array items =>
      have opened : listOf? read (⟨depth, .array items⟩ : Place) =
          (items.map (Place.mk (depth + 1))).mapM read :=
        rfl
      rw [opened, mapM_eq_some_iff, List.forall₂_map_right_iff]
      simp only [reads (depth + 1)]
      constructor
      · exact fun given => ⟨items, rfl, given⟩
      · rintro ⟨_, isArray, given⟩
        cases isArray
        exact given
  | _ =>
      constructor
      · intro found
        cases found
      · rintro ⟨_, isArray, -⟩
        cases isArray

end Readers

section Fields

variable {α : Type} {field : Field} {record : Record Place}
  {read : Place → Option α} {gives : α → Document → Prop}

/-- Whether a record may do without a slot. -/
def Slot.MayMiss (slot : Slot) : Record Place → Prop
  | .byName _ => slot.Omittable
  | .byPosition _ => slot.LeftOff

/-- A record holds a slot where it gives the field of the slot. -/
def Slot.HeldBy (slot : Slot) (field : Field) (record : Record Place) : Prop :=
  (record.given? field = some none ∧ slot.MayMiss record) ∨
    ∃ place, record.given? field = some (some place) ∧
      slot.Gives place.document

theorem required?_eq_some_iff (reads : Reads read gives) {value : α} :
    record.required? field read = some value ↔
      (Slot.required field.names gives value).HeldBy field record := by
  have neverMissing :
      ¬ (Slot.required field.names gives value).MayMiss record := by
    cases record <;> exact id
  unfold Record.required? Slot.HeldBy
  rcases record.given? field with _ | _ | ⟨depth, document⟩
  · simp
  · simp [neverMissing]
  · simpa [Slot.required] using reads depth document value

/-- What a list of at most one element holds. -/
def atMostOne? : List α → Option (Option α)
  | [] => some none
  | [element] => some (some element)
  | _ => none

theorem given?_byName {source : Type} (members : List (String × source))
    (field : Field) :
    (Record.byName members).given? field =
      atMostOne? ((members.filter fun member =>
        field.names.contains member.1).map Prod.snd) := by
  rcases selected : members.filter fun member =>
      field.names.contains member.1 with _ | ⟨first, _ | ⟨second, others⟩⟩
  all_goals
    unfold Record.given?
    dsimp only
    rw [selected]
    rfl

theorem given?_byPosition {source : Type} (items : List source)
    (field : Field) :
    (Record.byPosition items).given? field =
      match items[field.position]? with
      | some found => some (some found)
      | none => if field.mayBeLeftOff then some none else none := by
  cases found : items[field.position]? with
  | none => simp only [Record.given?, found]
  | some item => simp only [Record.given?, found]

theorem isNull_iff (depth : Nat) (document : Document) :
    Source.isNull (⟨depth, document⟩ : Place) = true ↔ document = .null := by
  cases document <;> simp [Source.isNull, Place.isNull]

/-- A missing slot may be missing if it has no value: an array that ends before
the field was allowed to. -/
theorem mayMiss_optional_iff (missing : record.given? field = some none)
    {value : Option α} :
    (Slot.optional field.names field.mayBeLeftOff gives value).MayMiss record ↔
      value = none := by
  cases record with
  | byName members => exact Iff.rfl
  | byPosition items =>
      have leftOff : field.mayBeLeftOff = true := by
        rw [given?_byPosition] at missing
        split at missing
        · cases missing
        · by_contra notLeftOff
          simp [notLeftOff] at missing
      simp [Slot.MayMiss, Slot.optional, leftOff]

theorem optional?_eq_some_iff (reads : Reads read gives)
    (notNull : ∀ value, ¬ gives value .null) {value : Option α} :
    record.optional? field read = some value ↔
      (Slot.optional field.names field.mayBeLeftOff gives value).HeldBy field
        record := by
  unfold Record.optional? Slot.HeldBy
  rcases isGiven : record.given? field with _ | _ | ⟨depth, document⟩
  · simp
  · simpa [mayMiss_optional_iff isGiven] using eq_comm
  · by_cases isNull : document = .null
    · subst isNull
      have skipped := (isNull_iff depth .null).mpr rfl
      simpa [skipped, Slot.optional, notNull] using eq_comm
    · have kept : Source.isNull (⟨depth, document⟩ : Place) = false := by
        rw [← Bool.not_eq_true, isNull_iff]
        exact isNull
      have exchanged :
          (∃ held, read ⟨depth, document⟩ = some held ∧ some held = value) ↔
            ∃ held, value = some held ∧ gives held document := by
        simp only [reads depth document, and_comm, @eq_comm _ value]
      simpa [kept, Slot.optional, isNull] using exchanged

theorem defaulted?_eq_some_iff (reads : Reads read gives) {default value : α} :
    record.defaulted? field default read = some value ↔
      (Slot.defaulted field.names default gives value).HeldBy field record := by
  have missing :
      (Slot.defaulted field.names default gives value).MayMiss record ↔
        default = value := by
    cases record <;> exact eq_comm
  unfold Record.defaulted? Slot.HeldBy
  rcases record.given? field with _ | _ | ⟨depth, document⟩
  · simp
  · simp [missing]
  · simpa [Slot.defaulted] using reads depth document value

end Fields

section Records

variable {slot : Slot} {slots : List Slot} {field : Field} {fields : List Field}
  {depth : Nat} {document : Document}

/-- A record by position in an array at some depth. -/
theorem heldBy_byPosition_iff {items : List Document}
    (leftOff : slot.LeftOff → field.mayBeLeftOff = true) :
    slot.HeldBy field (.byPosition (items.map (Place.mk depth))) ↔
      match items[field.position]? with
      | some document => slot.Gives document
      | none => slot.LeftOff := by
  unfold Slot.HeldBy
  rw [given?_byPosition, List.getElem?_map]
  cases items[field.position]? with
  | some document => simp
  | none =>
      by_cases mayBeLeftOff : field.mayBeLeftOff = true
      · simp [mayBeLeftOff, Slot.MayMiss]
      · simp [mayBeLeftOff, mt leftOff mayBeLeftOff]

/-- The entries of an object as places at some depth. -/
def placesAt (depth : Nat) (entries : List (String × Document)) :
    List (String × Place) :=
  entries.map fun entry => (entry.1, ⟨depth, entry.2⟩)

theorem given?_placesAt (entries : List (String × Document)) :
    (Record.byName (placesAt depth entries)).given? field =
      atMostOne? ((givenFor field.names entries).map (Place.mk depth)) := by
  rw [given?_byName, placesAt, givenFor, List.filter_map, List.map_map,
    List.map_map]
  rfl

theorem heldBy_byName_iff {entries : List (String × Document)}
    (names : field.names = slot.names) :
    slot.HeldBy field (.byName (placesAt depth entries)) ↔
      slot.GivenBy entries := by
  unfold Slot.HeldBy
  rw [given?_placesAt, names, Slot.givenBy_iff]
  rcases givenFor slot.names entries with _ | ⟨first, _ | ⟨second, others⟩⟩
  · simp [atMostOne?, Slot.MayMiss]
  · simp [atMostOne?]
  · simp [atMostOne?]

/-- Fields that describe the slots of a record in order, from some position
on. -/
inductive Aligned : Nat → List Field → List Slot → Prop
  | nil {position : Nat} : Aligned position [] []
  | cons {position : Nat} {field : Field} {fields : List Field} {slot : Slot}
      {slots : List Slot} :
      field.position = position → field.names = slot.names →
        (slot.LeftOff → field.mayBeLeftOff = true) →
          Aligned (position + 1) fields slots →
            Aligned position (field :: fields) (slot :: slots)

theorem positions_nil_iff :
    Positions slots [] ↔ ∀ slot ∈ slots, slot.LeftOff := by
  constructor
  · rintro ⟨leftOff⟩
    exact leftOff
  · exact .ended

theorem positions_cons_iff {documents : List Document} :
    Positions (slot :: slots) (document :: documents) ↔
      slot.Gives document ∧ Positions slots documents := by
  constructor
  · rintro (_ | ⟨gives, positions⟩)
    exact ⟨gives, positions⟩
  · rintro ⟨gives, positions⟩
    exact .give gives positions

theorem Aligned.positions_iff {position : Nat}
    (aligned : Aligned position fields slots) (depth : Nat)
    (items : List Document) :
    Positions slots (items.drop position) ↔
      items.length ≤ position + slots.length ∧
        ∀ pair ∈ fields.zip slots, pair.2.HeldBy pair.1
          (.byPosition (items.map (Place.mk depth))) := by
  -- The first `position` items belong to slots that are already dealt with.
  induction aligned with
  | @nil position =>
      constructor
      · intro positions
        have isNil : items.drop position = [] := by
          generalize items.drop position = rest at positions
          cases positions
          rfl
        refine ⟨List.drop_eq_nil_iff.mp isNil, ?_⟩
        intro pair member
        cases member
      · rintro ⟨short, -⟩
        have isNil : items.drop position = [] := List.drop_eq_nil_iff.mpr short
        rw [isNil, positions_nil_iff]
        intro slot member
        cases member
  | @cons position field fields slot slots isPosition names leftOff aligned
      ih =>
      rw [List.zip_cons_cons, List.forall_mem_cons,
        heldBy_byPosition_iff leftOff, isPosition, List.length_cons]
      by_cases inside : position < items.length
      · rw [List.drop_eq_getElem_cons inside, positions_cons_iff, ih,
          List.getElem?_eq_getElem inside]
        constructor
        · rintro ⟨gives, short, others⟩
          exact ⟨by omega, gives, others⟩
        · rintro ⟨short, gives, others⟩
          exact ⟨gives, by omega, others⟩
      · have ended : items.drop (position + 1) = [] :=
          List.drop_eq_nil_iff.mpr (by omega)
        rw [ended, positions_nil_iff] at ih
        rw [List.drop_eq_nil_iff.mpr (by omega), positions_nil_iff,
          List.forall_mem_cons, ih, List.getElem?_eq_none (by omega)]
        constructor
        · rintro ⟨missing, short, others⟩
          exact ⟨by omega, missing, others⟩
        · rintro ⟨short, missing, others⟩
          exact ⟨missing, by omega, others⟩

theorem Aligned.given_iff {entries : List (String × Document)}
    {position : Nat} (aligned : Aligned position fields slots) (depth : Nat) :
    (∀ slot ∈ slots, slot.GivenBy entries) ↔
      ∀ pair ∈ fields.zip slots, pair.2.HeldBy pair.1
        (.byName (placesAt depth entries)) := by
  induction aligned with
  | nil =>
      constructor
      · intro _ pair member
        cases member
      · intro _ slot member
        cases member
  | cons _ names _ _ ih =>
      rw [List.zip_cons_cons, List.forall_mem_cons, List.forall_mem_cons, ih,
        heldBy_byName_iff names]

theorem members?_eq_some_iff {members : List (List StringUnit × Document)}
    {places : List (String × Place)} :
    Source.members? (⟨depth, .object members⟩ : Place) = some places ↔
      ∃ entries, Named members entries ∧
        places = placesAt (depth + 1) entries := by
  refine mapM_eq_some_iff.trans ?_
  constructor
  · intro found
    induction found with
    | nil => exact ⟨[], .nil, rfl⟩
    | @cons place member places members isPlace _ ih =>
        obtain ⟨entries, named, rfl⟩ := ih
        obtain ⟨name, isName, rfl⟩ := Option.map_eq_some_iff.mp isPlace
        exact ⟨(name, member.2) :: entries,
          .cons ⟨text?_eq_some_iff.mp isName, rfl⟩ named, rfl⟩
  · rintro ⟨entries, named, rfl⟩
    induction named with
    | nil => exact .nil
    | @cons member entry members entries isEntry _ ih =>
        obtain ⟨key, document⟩ := member
        obtain ⟨name, _⟩ := entry
        obtain ⟨denotes, rfl⟩ := isEntry
        refine .cons ?_ ih
        exact Option.map_eq_some_iff.mpr
          ⟨name, text?_eq_some_iff.mpr denotes, rfl⟩

theorem of?_object (members : List (List StringUnit × Document)) :
    Record.of? (⟨depth, .object members⟩ : Place) =
      (Source.members? (⟨depth, .object members⟩ : Place)).map
        Record.byName := by
  rw [Record.of?]
  split
  · next found => rw [found, Option.map_some]
  · next found =>
      rw [found, Option.map_none]
      rfl

/-- Reading a record succeeds where the record is found. -/
theorem Aligned.recordReading_iff (aligned : Aligned 0 fields slots)
    (depth : Nat) (document : Document) :
    RecordReading slots document ↔
      ∃ record, Record.of? (⟨depth, document⟩ : Place) = some record ∧
        record.fits slots.length = true ∧
          ∀ pair ∈ fields.zip slots, pair.2.HeldBy pair.1 record := by
  cases document with
  | object members =>
      simp only [of?_object, Option.map_eq_some_iff, members?_eq_some_iff]
      constructor
      · rintro ⟨named, given⟩
        exact ⟨_, ⟨_, ⟨_, named, rfl⟩, rfl⟩, rfl,
          (aligned.given_iff (depth + 1)).mp given⟩
      · rintro ⟨_, ⟨_, ⟨entries, named, rfl⟩, rfl⟩, -, held⟩
        exact .object named ((aligned.given_iff (depth + 1)).mpr held)
  | array items =>
      have positions := aligned.positions_iff (depth + 1) items
      rw [List.drop_zero, Nat.zero_add] at positions
      constructor
      · rintro (_ | itemPositions)
        obtain ⟨short, held⟩ := positions.mp itemPositions
        exact ⟨_, rfl, by simpa [Record.fits] using short, held⟩
      · rintro ⟨record, isRecord, fits, held⟩
        cases isRecord
        refine .array (positions.mpr ⟨?_, held⟩)
        simpa [Record.fits] using fits
  | _ =>
      constructor
      · intro reading
        cases reading
      · rintro ⟨record, isRecord, -⟩
        cases isRecord

end Records

end Json

end PipeGraph
