import PipeGraph.Compiler
import PipeGraph.Proofs.GraphForm

/-!
# What a graph is read from

Nothing is guessed when a graph is read.  Every object that describes a part of
the graph, however deep it lies, gives each field at most once and each
required field exactly once, and the graph holds what is given.  A text in
which one of these objects gives a field twice is refused.
-/

namespace PipeGraph

open Json

namespace Editor

/-- The kinds of records in the JSON form of a graph. -/
inductive PartKind where
  | graph
  | node
  | payload
  | edge

namespace PartKind

/-- The fields of a kind of records, each with all of its names. -/
def fields : PartKind → List (List String)
  | graph => [["nodes"], ["edges"]]
  | node => [["id"], ["type"], ["data"]]
  | payload =>
      [["label"], ["value"], ["literal_type", "literalType"], ["operator"],
        ["switches"]]
  | edge => [["source"], ["target"], ["target_handle", "targetHandle"]]

/-- The fields that may not be missing. -/
def requiredFields : PartKind → List (List String)
  | graph => [["nodes"], ["edges"]]
  | node => [["id"]]
  | payload => []
  | edge => [["source"], ["target"]]

/-- Every field is given at most once, and a required one exactly once and not
as null. -/
def GivenOnce (kind : PartKind)
    (members : List (List StringUnit × Document)) : Prop :=
  ∃ entries, Named members entries ∧
    (∀ names ∈ kind.fields, (givenFor names entries).length ≤ 1) ∧
      ∀ names ∈ kind.requiredFields, ∃ document,
        givenFor names entries = [document] ∧ document ≠ .null

/-- A record with two members for one field. -/
def GivesTwice (kind : PartKind) (document : Document) : Prop :=
  ∃ members first second, document = .object members ∧
    [first, second].Sublist members ∧
      ∃ names ∈ kind.fields, ∃ firstName ∈ names, ∃ secondName ∈ names,
        Denotes first.1 firstName.toList ∧ Denotes second.1 secondName.toList

/-- A document in which a record of some kind is found. -/
def FoundIn : PartKind → Document → Prop
  | graph, document => ∃ graph : Graph, graph.ReadFrom document
  | node, document => ∃ node : Node, node.ReadFrom document
  | payload, document => ∃ payload : Payload, payload.ReadFrom document
  | edge, document => ∃ edge : Edge, edge.ReadFrom document

end PartKind

/-- What a record offers for a field. -/
inductive Offers (names : List String) (position : Nat) :
    Document → Document → Prop
  | byName {members : List (List StringUnit × Document)}
      {key : List StringUnit} {name : String} {found : Document} :
      (key, found) ∈ members → Denotes key name.toList → name ∈ names →
        Offers names position (.object members) found
  | byPosition {items : List Document} {found : Document} :
      items[position]? = some found →
        Offers names position (.array items) found

/-- The records that describe the parts of a graph. -/
inductive Part (root : Document) : PartKind → Document → Prop
  | graph : Part root .graph root
  | node {graph node : Document} {items : List Document} :
      Part root .graph graph → Offers ["nodes"] 0 graph (.array items) →
        node ∈ items → Part root .node node
  | payload {node payload : Document} :
      Part root .node node → Offers ["data"] 2 node payload →
        Part root .payload payload
  | edge {graph edge : Document} {items : List Document} :
      Part root .graph graph → Offers ["edges"] 1 graph (.array items) →
        edge ∈ items → Part root .edge edge

section Offered

variable {slots : List Slot} {slot : Slot} {document found : Document}
  {position : Nat}

theorem gives_of_positions {items : List Document}
    (positions : Positions slots items)
    (isSlot : slots[position]? = some slot)
    (isItem : items[position]? = some found) : slot.Gives found := by
  induction positions generalizing position with
  | ended _ => simp at isItem
  | give gives _ ih =>
      cases position with
      | zero =>
          cases isSlot
          cases isItem
          exact gives
      | succ position => exact ih isSlot isItem

/-- A record holds whatever its document offers for a field. -/
theorem gives_of_offers (reading : RecordReading slots document)
    (isSlot : slots[position]? = some slot)
    (offers : Offers slot.names position document found) :
    slot.Gives found := by
  cases reading with
  | @object members entries named given =>
      obtain ⟨member, denotes, isName⟩ := offers
      obtain ⟨⟨entryName, _⟩, isEntry, entryDenotes, rfl⟩ :=
        exists_of_mem_forall₂ named member
      obtain rfl := String.toList_inj.mp (denotes.unique entryDenotes)
      refine (given slot (List.mem_of_getElem? isSlot)).given _ ?_
      simp only [givenFor, List.mem_map, List.mem_filter]
      exact ⟨_, ⟨isEntry, by simpa using isName⟩, rfl⟩
  | array positions =>
      cases offers with
      | byPosition isItem =>
          exact gives_of_positions positions isSlot isItem

theorem exists_of_isListOf {α : Type} {gives : α → Document → Prop}
    {values : List α} {items : List Document}
    (isList : IsListOf gives values (.array items)) (member : found ∈ items) :
    ∃ value, gives value found := by
  obtain ⟨_, isArray, given⟩ := isList
  cases isArray
  obtain ⟨value, -, givesFound⟩ := exists_of_mem_forall₂_right given member
  exact ⟨value, givesFound⟩

end Offered

/-- In a document in which a graph is found, so is every part of it. -/
theorem Part.foundIn {root document : Document} {kind : PartKind}
    (part : Part root kind document) {graph : Graph}
    (reading : graph.ReadFrom root) : kind.FoundIn document := by
  induction part with
  | graph => exact ⟨graph, reading⟩
  | node _ offers member ih =>
      obtain ⟨graph, reading⟩ := ih
      have isList : IsListOf Node.ReadFrom graph.nodes (.array _) :=
        @gives_of_offers _ (.required _ _ _) _ _ 0 reading rfl offers
      exact exists_of_isListOf isList member
  | payload _ offers ih =>
      obtain ⟨node, reading⟩ := ih
      exact ⟨node.payload,
        @gives_of_offers _ (.defaulted _ _ Payload.ReadFrom _) _ _ 2 reading
          rfl offers⟩
  | edge _ offers member ih =>
      obtain ⟨graph, reading⟩ := ih
      have isList : IsListOf Edge.ReadFrom graph.edges (.array _) :=
        @gives_of_offers _ (.required _ _ _) _ _ 1 reading rfl offers
      exact exists_of_isListOf isList member

namespace PartKind

variable {kind : PartKind} {members : List (List StringUnit × Document)}

theorem givenOnce_of_reading {slots : List Slot}
    (reading : RecordReading slots (.object members))
    (areFields : kind.fields = slots.map Slot.names)
    (areRequired : ∀ names ∈ kind.requiredFields, ∃ slot ∈ slots,
      slot.names = names ∧ ¬ slot.Omittable ∧ ¬ slot.Gives .null) :
    kind.GivenOnce members := by
  obtain @⟨_, entries, named, given⟩ := reading
  refine ⟨entries, named, ?_, ?_⟩
  · rw [areFields, List.forall_mem_map]
    exact fun slot member => (given slot member).atMostOnce
  · intro names isRequired
    obtain ⟨slot, member, rfl, notOmittable, notNull⟩ :=
      areRequired names isRequired
    obtain ⟨-, omittable⟩ | ⟨document, isGiven, gives⟩ :=
      Slot.givenBy_iff.mp (given slot member)
    · exact absurd omittable notOmittable
    · refine ⟨document, isGiven, ?_⟩
      rintro rfl
      exact notNull gives

theorem FoundIn.givenOnce (found : kind.FoundIn (.object members)) :
    kind.GivenOnce members := by
  cases kind with
  | graph =>
      obtain ⟨graph, reading⟩ := found
      refine givenOnce_of_reading reading rfl ?_
      rw [requiredFields, List.forall_mem_cons, List.forall_mem_singleton]
      exact ⟨⟨_, List.mem_cons_self, rfl, id, not_isListOf_null _⟩,
        ⟨_, List.mem_cons_of_mem _ List.mem_cons_self, rfl, id,
          not_isListOf_null _⟩⟩
  | node =>
      obtain ⟨node, reading⟩ := found
      refine givenOnce_of_reading reading rfl ?_
      rw [requiredFields, List.forall_mem_singleton]
      exact ⟨_, List.mem_cons_self, rfl, id, not_isText_null _⟩
  | payload =>
      obtain ⟨payload, reading⟩ := found
      exact givenOnce_of_reading reading rfl (List.forall_mem_nil _)
  | edge =>
      obtain ⟨edge, reading⟩ := found
      refine givenOnce_of_reading reading rfl ?_
      rw [requiredFields, List.forall_mem_cons, List.forall_mem_singleton]
      exact ⟨⟨_, List.mem_cons_self, rfl, id, not_isText_null _⟩,
        ⟨_, List.mem_cons_of_mem _ List.mem_cons_self, rfl, id,
          not_isText_null _⟩⟩

/-- An object that gives every field at most once gives none of them twice. -/
theorem GivenOnce.not_givesTwice (once : kind.GivenOnce members) :
    ¬ kind.GivesTwice (.object members) := by
  rintro ⟨_, first, second, isObject, sublist, names, isField, firstName,
    firstNamed, secondName, secondNamed, firstDenotes, secondDenotes⟩
  cases isObject
  obtain ⟨entries, named, atMostOnce, -⟩ := once
  obtain ⟨_, entriesSublist, related⟩ :=
    exists_sublist_of_forall₂ sublist named
  obtain _ | ⟨⟨firstEntry, firstSame⟩,
    _ | ⟨⟨secondEntry, secondSame⟩, ⟨⟩⟩⟩ := related
  -- A key denotes one text, so both members are entries under known names.
  have firstKnown := String.toList_inj.mp (firstDenotes.unique firstEntry)
  have secondKnown := String.toList_inj.mp (secondDenotes.unique secondEntry)
  have bothGiven := (entriesSublist.filter fun entry =>
    names.contains entry.1).map Prod.snd |>.length_le
  simp only [← firstKnown, ← secondKnown, firstNamed, secondNamed,
    List.contains_eq_mem, decide_true, List.filter_cons_of_pos,
    List.filter_nil, List.map_cons, List.map_nil, List.length_cons,
    List.length_nil] at bothGiven
  have once := atMostOnce names isField
  simp only [givenFor, List.contains_eq_mem] at once
  omega

end PartKind

theorem outcome_compileJson_of_parse?_eq_none {text : String}
    (compiler : Compiler) (complaints : Complaints)
    (unreadable : Graph.parse? text = none) :
    (compiler.compileJson text complaints).outcome =
      .error (.unreadable (complaints.graph text)) := by
  rw [Compiler.compileJson, Logged.outcome_bind, Logged.outcome_ofExcept,
    Compiler.readGraph, unreadable]
  rfl

/-- A graph holds what its text gives, field by field, and a text that gives a
field twice holds no graph, whatever the reader has to say about it. -/
theorem Graph.read_as_given (text : String) :
    (∀ graph, Graph.parse? text = some graph →
      ∃ document, Padded document text.toList ∧ graph.ReadFrom document ∧
        ∀ kind members, Part document kind (.object members) →
          kind.GivenOnce members) ∧
      ∀ document kind part, Padded document text.toList →
        Part document kind part → kind.GivesTwice part →
          ∀ (compiler : Compiler) (complaints : Complaints),
            (compiler.compileJson text complaints).outcome =
              .error (.unreadable (complaints.graph text)) := by
  have found : ∀ graph, Graph.parse? text = some graph →
      ∃ document, Padded document text.toList ∧ graph.ReadFrom document ∧
        ∀ kind members, Part document kind (.object members) →
          kind.GivenOnce members := by
    intro graph isRead
    obtain ⟨document, written, reading⟩ := Graph.parse?_eq_some_iff.mp isRead
    exact ⟨document, written, reading, fun kind members part =>
      (part.foundIn reading).givenOnce⟩
  refine ⟨found, ?_⟩
  rintro document kind _ written part
    ⟨members, first, second, rfl, sublist, twice⟩ compiler complaints
  apply outcome_compileJson_of_parse?_eq_none
  rw [Option.eq_none_iff_forall_ne_some]
  intro graph isRead
  obtain ⟨other, otherWritten, -, once⟩ := found graph isRead
  obtain rfl := written.unique otherWritten
  exact (once kind members part).not_givesTwice
    ⟨members, first, second, rfl, sublist, twice⟩

/-- An edge that gives its handle under both names, once by an escape and once
as null. -/
def clashingText : String :=
  "\x7b\"nodes\": [], \"edges\": [\x7b\"source\": \"a\", \"targetHandle\": null,
  \"target\": \"b\", \"target\\u005fhandle\": \"x\"\x7d]\x7d"

def clashingEdge : Document :=
  .object [("source".toList.map .character, .string [.character 'a']),
    ("targetHandle".toList.map .character, .null),
    ("target".toList.map .character, .string [.character 'b']),
    ("target".toList.map .character ++ .code 0x5F ::
      "handle".toList.map .character, .string [.character 'x'])]

def clashingDocument : Document :=
  .object [("nodes".toList.map .character, .array []),
    ("edges".toList.map .character, .array [clashingEdge])]

/-- A reader that quotes the graph it cannot read. -/
def quotingComplaints : Complaints :=
  { Complaints.silent with graph := some }

theorem compileJson_clashingText :
    Padded clashingDocument clashingText.toList ∧
      Part clashingDocument .edge clashingEdge ∧
        PartKind.GivesTwice .edge clashingEdge ∧
          (Compiler.standard.compileJson clashingText
              quotingComplaints).outcome =
            .error (.unreadable (some clashingText)) := by
  have written : Padded clashingDocument clashingText.toList :=
    Document.parse?_eq_some_iff.mp (by decide +kernel)
  have part : Part clashingDocument .edge clashingEdge := by
    refine .edge .graph (.byName (List.mem_cons_of_mem _ List.mem_cons_self) ?_
      (List.mem_singleton_self "edges")) List.mem_cons_self
    exact .of_characters? (by decide)
  have twice : PartKind.GivesTwice .edge clashingEdge := by
    refine ⟨_, _, _, rfl, .cons _ (.cons_cons _ (.cons _ (.refl _))),
      ["target_handle", "targetHandle"], by simp [PartKind.fields],
      "targetHandle", by simp, "target_handle", by simp, ?_, ?_⟩
    · exact .of_characters? (by decide)
    · exact .of_characters? (by decide)
  exact ⟨written, part, twice,
    (Graph.read_as_given clashingText).2 _ _ _ written part twice
      Compiler.standard quotingComplaints⟩

end Editor

end PipeGraph
