import PipeGraph.Proofs.JsonGrammar
import PipeGraph.Proofs.Outcome

/-!
# What records give

A record is described by its slots, one for each field in order of declaration.
A slot is a field together with the value that it is to have: it says under
which names an object may give the field, which documents give the value, and
when the field may be missing.  From a list of slots come two accounts of the
documents that describe a record.  One says how such a document is written, the
other what has to be found in it.  What is written that way is found, and what
is found is exactly what reading a record accepts.
-/

namespace PipeGraph

namespace Json

/-- A string that denotes a text. -/
def IsText (text : String) (document : Document) : Prop :=
  ∃ units, document = .string units ∧ Denotes units text.toList

/-- An array that gives some values one by one. -/
def IsListOf {α : Type} (gives : α → Document → Prop) (values : List α)
    (document : Document) : Prop :=
  ∃ items, document = .array items ∧ List.Forall₂ gives values items

theorem not_isText_null (text : String) : ¬ IsText text .null := by
  rintro ⟨_, isString, -⟩
  cases isString

theorem not_isListOf_null {α : Type} {gives : α → Document → Prop}
    (values : List α) : ¬ IsListOf gives values .null := by
  rintro ⟨_, isArray, -⟩
  cases isArray

/-- The members of an object with their keys as texts. -/
def Named (members : List (List StringUnit × Document))
    (entries : List (String × Document)) : Prop :=
  List.Forall₂ (fun member entry =>
    Denotes member.1 entry.1.toList ∧ member.2 = entry.2) members entries

/-- A field of a record together with its value. -/
structure Slot where
  /-- The names under which an object may give the field. -/
  names : List String
  Gives : Document → Prop
  /-- Whether an object may do without the field. -/
  Omittable : Prop
  /-- Whether an array may end before the field. -/
  LeftOff : Prop

namespace Slot

variable {α : Type}

/-- A field that has to be given. -/
def required (names : List String) (gives : α → Document → Prop) (value : α) :
    Slot :=
  ⟨names, gives value, False, False⟩

/-- A field that may be missing or null when it has no value. -/
def optional (names : List String) (mayBeLeftOff : Bool)
    (gives : α → Document → Prop) (value : Option α) : Slot :=
  ⟨names,
    fun document => (value = none ∧ document = .null) ∨
      ∃ held, value = some held ∧ gives held document,
    value = none, mayBeLeftOff = true ∧ value = none⟩

/-- A field that may be missing when it has its default. -/
def defaulted (names : List String) (default : α)
    (gives : α → Document → Prop) (value : α) : Slot :=
  ⟨names, gives value, value = default, value = default⟩

end Slot

/-- Entries for some slots in order, each slot once unless it is omitted. -/
inductive Entries : List Slot → List (String × Document) → Prop
  | nil : Entries [] []
  | skip {slot : Slot} {slots : List Slot}
      {entries : List (String × Document)} :
      slot.Omittable → Entries slots entries →
        Entries (slot :: slots) entries
  | give {slot : Slot} {slots : List Slot} {name : String}
      {document : Document} {entries : List (String × Document)} :
      name ∈ slot.names → slot.Gives document → Entries slots entries →
        Entries (slot :: slots) ((name, document) :: entries)

/-- Items for some slots in order, up to a last run of slots left off. -/
inductive Positions : List Slot → List Document → Prop
  | ended {slots : List Slot} :
      (∀ slot ∈ slots, slot.LeftOff) → Positions slots []
  | give {slot : Slot} {slots : List Slot} {document : Document}
      {documents : List Document} :
      slot.Gives document → Positions slots documents →
        Positions (slot :: slots) (document :: documents)

/-- A document written for a record: an object with entries for the slots among
any entries of other names, in any order, or an array. -/
inductive RecordWriting (slots : List Slot) : Document → Prop
  | object {members : List (List StringUnit × Document)}
      {entries known unknown : List (String × Document)} :
      Named members entries → entries.Perm (known ++ unknown) →
        Entries slots known →
          (∀ entry ∈ unknown, ∀ slot ∈ slots, entry.1 ∉ slot.names) →
            RecordWriting slots (.object members)
  | array {items : List Document} :
      Positions slots items → RecordWriting slots (.array items)

/-- What some entries give under some names. -/
def givenFor (names : List String) (entries : List (String × Document)) :
    List Document :=
  (entries.filter fun entry => names.contains entry.1).map Prod.snd

/-- What an object with some entries has to give for a slot. -/
structure Slot.GivenBy (slot : Slot) (entries : List (String × Document)) :
    Prop where
  atMostOnce : (givenFor slot.names entries).length ≤ 1
  given : ∀ document ∈ givenFor slot.names entries, slot.Gives document
  omitted : givenFor slot.names entries = [] → slot.Omittable

/-- A document in which a record is found: an object that gives every slot, or
an array. -/
inductive RecordReading (slots : List Slot) : Document → Prop
  | object {members : List (List StringUnit × Document)}
      {entries : List (String × Document)} :
      Named members entries → (∀ slot ∈ slots, slot.GivenBy entries) →
        RecordReading slots (.object members)
  | array {items : List Document} :
      Positions slots items → RecordReading slots (.array items)

section Given

variable {names : List String} {slots : List Slot}
  {entries known unknown : List (String × Document)}

theorem givenFor_append :
    givenFor names (known ++ unknown) =
      givenFor names known ++ givenFor names unknown := by
  simp [givenFor]

theorem givenFor_cons_of_mem {name : String} (document : Document)
    (named : name ∈ names) :
    givenFor names ((name, document) :: entries) =
      document :: givenFor names entries := by
  simp [givenFor, named]

theorem givenFor_cons_of_not_mem {name : String} (document : Document)
    (notNamed : name ∉ names) :
    givenFor names ((name, document) :: entries) = givenFor names entries := by
  simp [givenFor, notNamed]

theorem givenFor_eq_nil (avoid : ∀ entry ∈ entries, entry.1 ∉ names) :
    givenFor names entries = [] := by
  simpa [givenFor, List.filter_eq_nil_iff] using avoid

/-- A slot is given by one fitting document, or omitted where it may be. -/
theorem Slot.givenBy_iff {slot : Slot} :
    slot.GivenBy entries ↔
      (givenFor slot.names entries = [] ∧ slot.Omittable) ∨
        ∃ document, givenFor slot.names entries = [document] ∧
          slot.Gives document := by
  constructor
  · rintro ⟨atMostOnce, given, omitted⟩
    match isGiven : givenFor slot.names entries with
    | [] => exact .inl ⟨rfl, omitted isGiven⟩
    | [document] =>
        exact .inr ⟨document, rfl, given document (by simp [isGiven])⟩
    | _ :: _ :: _ => simp [isGiven] at atMostOnce
  · rintro (⟨isGiven, omittable⟩ | ⟨document, isGiven, gives⟩)
    · exact ⟨by simp [isGiven], by simp [isGiven], fun _ => omittable⟩
    · exact ⟨by simp [isGiven], by simpa [isGiven] using gives,
        by simp [isGiven]⟩

theorem Slot.GivenBy.congr {slot : Slot} (given : slot.GivenBy known)
    (same : givenFor slot.names entries = givenFor slot.names known) :
    slot.GivenBy entries := by
  rw [Slot.givenBy_iff, same]
  exact Slot.givenBy_iff.mp given

theorem Entries.exists_slot (written : Entries slots entries)
    {entry : String × Document} (member : entry ∈ entries) :
    ∃ slot ∈ slots, entry.1 ∈ slot.names := by
  induction written with
  | nil => cases member
  | skip _ _ ih =>
      obtain ⟨slot, slotMember, named⟩ := ih member
      exact ⟨slot, List.mem_cons_of_mem _ slotMember, named⟩
  | @give slot slots name document entries named _ _ ih =>
      rcases List.mem_cons.mp member with rfl | later
      · exact ⟨slot, List.mem_cons_self, named⟩
      · obtain ⟨other, otherMember, otherNamed⟩ := ih later
        exact ⟨other, List.mem_cons_of_mem _ otherMember, otherNamed⟩

/-- Entries for some slots give nothing under the names of another one. -/
theorem Entries.givenFor_eq_nil (written : Entries slots entries)
    (apart : ∀ others ∈ slots.map Slot.names, names.Disjoint others) :
    givenFor names entries = [] := by
  apply Json.givenFor_eq_nil
  intro entry member named
  obtain ⟨slot, slotMember, slotNamed⟩ := written.exists_slot member
  exact apart _ (List.mem_map_of_mem slotMember) named slotNamed

theorem Slot.GivenBy.of_perm {slot : Slot} (given : slot.GivenBy known)
    (perm : entries.Perm known) : slot.GivenBy entries := by
  -- A slot only counts what is given, so the order of entries is lost on it.
  have samePerm :
      (givenFor slot.names entries).Perm (givenFor slot.names known) :=
    (perm.filter _).map _
  refine ⟨?_, ?_, ?_⟩
  · rw [samePerm.length_eq]
    exact given.atMostOnce
  · intro document member
    exact given.given document (samePerm.mem_iff.mp member)
  · intro isNil
    rw [isNil] at samePerm
    exact given.omitted samePerm.nil_eq.symm

/-- Entries written for slots without a common name give each of them. -/
theorem Entries.givenBy (written : Entries slots entries)
    (apart : (slots.map Slot.names).Pairwise List.Disjoint) :
    ∀ slot ∈ slots, slot.GivenBy entries := by
  induction written with
  | nil =>
      intro slot member
      cases member
  | @skip slot slots entries omittable written ih =>
      obtain ⟨slotApart, othersApart⟩ := List.pairwise_cons.mp apart
      rw [List.forall_mem_cons]
      refine ⟨Slot.givenBy_iff.mpr (.inl ⟨?_, omittable⟩), ih othersApart⟩
      exact written.givenFor_eq_nil slotApart
  | @give slot slots name document entries named gives written ih =>
      obtain ⟨slotApart, othersApart⟩ := List.pairwise_cons.mp apart
      rw [List.forall_mem_cons]
      refine ⟨Slot.givenBy_iff.mpr (.inr ⟨document, ?_, gives⟩), ?_⟩
      · rw [givenFor_cons_of_mem document named,
          written.givenFor_eq_nil slotApart]
      · -- The new entry has a name that no later slot looks for.
        intro other member
        refine (ih othersApart other member).congr ?_
        apply givenFor_cons_of_not_mem
        exact slotApart _ (List.mem_map_of_mem member) named

/-- A record is found in every document that was written for it. -/
theorem RecordWriting.reading {document : Document}
    (writing : RecordWriting slots document)
    (apart : (slots.map Slot.names).Pairwise List.Disjoint) :
    RecordReading slots document := by
  cases writing with
  | @object members entries known unknown named perm written avoid =>
      refine .object named ?_
      intro slot member
      refine Slot.GivenBy.of_perm ?_ perm
      refine (written.givenBy apart slot member).congr ?_
      rw [givenFor_append, List.append_right_eq_self]
      exact givenFor_eq_nil fun entry isUnknown =>
        avoid entry isUnknown slot member
  | array positions => exact .array positions

end Given

section Weaken

variable {α : Type} {gives weaker : α → Document → Prop}

theorem IsListOf.mono {values : List α} {document : Document}
    (isList : IsListOf gives values document)
    (weaken : ∀ value document, gives value document → weaker value document) :
    IsListOf weaker values document := by
  obtain ⟨items, rfl, given⟩ := isList
  exact ⟨items, rfl, given.imp weaken⟩

/-- The second of two slots asks for no more than the first one. -/
structure Slot.Weaker (strong weak : Slot) : Prop where
  names : weak.names = strong.names
  gives : ∀ document, strong.Gives document → weak.Gives document
  omittable : strong.Omittable → weak.Omittable
  leftOff : strong.LeftOff → weak.LeftOff

theorem Slot.Weaker.refl (slot : Slot) : slot.Weaker slot :=
  ⟨rfl, fun _ => id, id, id⟩

theorem Slot.GivenBy.mono {strong weak : Slot}
    {entries : List (String × Document)} (given : strong.GivenBy entries)
    (weaken : strong.Weaker weak) : weak.GivenBy entries := by
  refine ⟨?_, ?_, ?_⟩ <;> rw [weaken.names]
  · exact given.atMostOnce
  · intro document member
    exact weaken.gives document (given.given document member)
  · intro isNil
    exact weaken.omittable (given.omitted isNil)

theorem Positions.mono {strong weak : List Slot} {items : List Document}
    (positions : Positions strong items)
    (weaken : List.Forall₂ Slot.Weaker strong weak) :
    Positions weak items := by
  induction positions generalizing weak with
  | ended leftOff =>
      refine .ended fun slot member => ?_
      obtain ⟨stronger, isStronger, weakens⟩ :=
        exists_of_mem_forall₂_right weaken member
      exact weakens.leftOff (leftOff stronger isStronger)
  | give gives _ ih =>
      cases weaken with
      | cons weakens others => exact .give (weakens.gives _ gives) (ih others)

theorem RecordReading.mono {strong weak : List Slot} {document : Document}
    (reading : RecordReading strong document)
    (weaken : List.Forall₂ Slot.Weaker strong weak) :
    RecordReading weak document := by
  cases reading with
  | object named given =>
      refine .object named fun slot member => ?_
      obtain ⟨stronger, isStronger, weakens⟩ :=
        exists_of_mem_forall₂_right weaken member
      exact (given stronger isStronger).mono weakens
  | array positions => exact .array (positions.mono weaken)

end Weaken

end Json

end PipeGraph
