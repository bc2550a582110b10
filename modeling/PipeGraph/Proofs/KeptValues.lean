import PipeGraph.Proofs.RecordReaders

/-!
# Reading what is kept

A text is read either in place or from the value that is kept of it.  Keeping a
value puts the members of an object in order and lets the last one of each key
win, which no reader notices that refuses a field given twice.  So whatever is
read in place is read from the kept value as well.
-/

namespace PipeGraph

namespace Json

section Insertion

variable {selects : String → Bool} {key : String} {value : Value}
  {members sorted : List (String × Value)}

theorem filter_insertMember_of_not (notSelected : selects key = false) :
    ((Value.insertMember key value sorted).filter fun member =>
        selects member.1) =
      sorted.filter fun member => selects member.1 := by
  induction sorted with
  | nil => simp [Value.insertMember, notSelected]
  | cons member sorted ih =>
      obtain ⟨other, held⟩ := member
      rw [Value.insertMember]
      split_ifs with before same
      · rw [List.filter_cons_of_neg (by simp [notSelected])]
      · subst same
        simp [notSelected]
      · rw [List.filter_cons, List.filter_cons, ih]

theorem filter_insertMember_of_nil (selected : selects key = true)
    (isNil : (sorted.filter fun member => selects member.1) = []) :
    ((Value.insertMember key value sorted).filter fun member =>
      selects member.1) = [(key, value)] := by
  induction sorted with
  | nil => simp [Value.insertMember, selected]
  | cons member sorted ih =>
      obtain ⟨other, held⟩ := member
      obtain ⟨otherNot, othersNil⟩ : selects other = false ∧
          (sorted.filter fun member => selects member.1) = [] := by
        simpa using isNil
      rw [Value.insertMember]
      split_ifs with before same
      · rw [List.filter_cons_of_pos (by simp [selected]), isNil]
      · rw [List.filter_cons_of_pos (by simp [selected]), othersNil]
      · rw [List.filter_cons_of_neg (by simp [otherNot]), ih othersNil]

/-- The members of an object in order, the last one of each key. -/
def inOrder (sorted members : List (String × Value)) : List (String × Value) :=
  members.foldl (fun sorted (key, value) =>
    Value.insertMember key value sorted) sorted

theorem filter_inOrder_of_nil
    (isNil : (members.filter fun member => selects member.1) = []) :
    ((inOrder sorted members).filter fun member => selects member.1) =
      sorted.filter fun member => selects member.1 := by
  induction members generalizing sorted with
  | nil => rfl
  | cons member members ih =>
      obtain ⟨notSelected, othersNil⟩ : selects member.1 = false ∧
          (members.filter fun member => selects member.1) = [] := by
        simpa using isNil
      exact (ih othersNil).trans (filter_insertMember_of_not notSelected)

/-- A member that alone has one of some keys is found where it was put. -/
theorem filter_inOrder_of_singleton {selected : String × Value}
    (isNil : (sorted.filter fun member => selects member.1) = [])
    (isSingle : (members.filter fun member => selects member.1) =
      [selected]) :
    ((inOrder sorted members).filter fun member => selects member.1) =
      [selected] := by
  induction members generalizing sorted with
  | nil => cases isSingle
  | cons member members ih =>
      cases isSelected : selects member.1 with
      | true =>
          rw [List.filter_cons_of_pos (by simp [isSelected])] at isSingle
          obtain ⟨rfl, othersNil⟩ := List.cons_eq_cons.mp isSingle
          exact (filter_inOrder_of_nil othersNil).trans
            (filter_insertMember_of_nil isSelected isNil)
      | false =>
          rw [List.filter_cons_of_neg (by simp [isSelected])] at isSingle
          exact ih ((filter_insertMember_of_not isSelected).trans isNil)
            isSingle

end Insertion

/-- The value that is kept of a place. -/
def Kept (place : Place) (value : Value) : Prop :=
  place.value? = some value

/-- A member of an object under the same name as the value kept of it. -/
def KeptMember (place : String × Place) (member : String × Value) : Prop :=
  place.1 = member.1 ∧ Kept place.2 member.2

section Keeping

variable {room depth : Nat} {value : Value}

theorem keepItems?_eq_some_iff {items : List Document} {values : List Value} :
    Document.keepItems? room items = some values ↔
      List.Forall₂ (fun item value => item.keep? room = some value) items
        values := by
  induction items generalizing values with
  | nil =>
      rw [Document.keepItems?, List.forall₂_nil_left_iff, Option.some.injEq,
        eq_comm]
  | cons item items ih =>
      rw [Document.keepItems?, List.forall₂_cons_left_iff]
      simp only [Option.bind_eq_bind, Option.bind_eq_some_iff, ih]
      constructor
      · rintro ⟨value, isKept, values, areKept, returned⟩
        exact ⟨value, values, isKept, areKept,
          (Option.some.inj returned).symm⟩
      · rintro ⟨value, values, isKept, areKept, rfl⟩
        exact ⟨value, isKept, values, areKept, rfl⟩

theorem keepMembers?_eq_some_iff
    {members : List (List StringUnit × Document)}
    {values : List (String × Value)} :
    Document.keepMembers? room members = some values ↔
      List.Forall₂ (fun member value =>
        StringUnit.text? member.1 = some value.1 ∧
          member.2.keep? room = some value.2) members values := by
  induction members generalizing values with
  | nil =>
      rw [Document.keepMembers?, List.forall₂_nil_left_iff, Option.some.injEq,
        eq_comm]
  | cons member members ih =>
      rw [Document.keepMembers?, List.forall₂_cons_left_iff]
      simp only [Option.bind_eq_bind, Option.bind_eq_some_iff, ih]
      constructor
      · rintro ⟨name, isName, value, isKept, values, areKept, returned⟩
        exact ⟨(name, value), values, ⟨isName, isKept⟩, areKept,
          (Option.some.inj returned).symm⟩
      · rintro ⟨⟨name, value⟩, values, ⟨isName, isKept⟩, areKept, rfl⟩
        exact ⟨name, isName, value, isKept, values, areKept, rfl⟩

/-- What is kept of an array is an array of what is kept of its items. -/
theorem Kept.exists_items {items : List Document}
    (kept : Kept ⟨depth, .array items⟩ value) :
    ∃ values, value = .array values ∧
      List.Forall₂ Kept (items.map (Place.mk (depth + 1))) values := by
  rw [Kept, Place.value?] at kept
  cases isRoom : nestingLimit - depth with
  | zero => simp [isRoom, Document.keep?] at kept
  | succ room =>
      have inside : nestingLimit - (depth + 1) = room := by omega
      rw [isRoom, Document.keep?, Option.map_eq_some_iff] at kept
      obtain ⟨values, areKept, rfl⟩ := kept
      refine ⟨values, rfl, ?_⟩
      rw [List.forall₂_map_left_iff]
      simp only [Kept, Place.value?, inside]
      exact keepItems?_eq_some_iff.mp areKept

/-- What is kept of an object are its members in order. -/
theorem Kept.exists_members {members : List (List StringUnit × Document)}
    (kept : Kept ⟨depth, .object members⟩ value)
    {places : List (String × Place)}
    (found : Source.members? (⟨depth, .object members⟩ : Place) =
      some places) :
    ∃ values, value = .object (inOrder [] values) ∧
      List.Forall₂ KeptMember places values := by
  obtain ⟨entries, named, rfl⟩ := members?_eq_some_iff.mp found
  rw [Kept, Place.value?] at kept
  cases isRoom : nestingLimit - depth with
  | zero => simp [isRoom, Document.keep?] at kept
  | succ room =>
      have inside : nestingLimit - (depth + 1) = room := by omega
      rw [isRoom, Document.keep?, Option.map_eq_some_iff] at kept
      obtain ⟨values, areKept, rfl⟩ := kept
      refine ⟨values, rfl, ?_⟩
      rw [keepMembers?_eq_some_iff] at areKept
      rw [placesAt, List.forall₂_map_left_iff]
      clear found
      -- Places and values both follow the members as they are written.
      induction named generalizing values with
      | nil =>
          cases areKept
          exact .nil
      | cons isEntry _ ih =>
          obtain ⟨denotes, isDocument⟩ := isEntry
          obtain _ | ⟨⟨isName, isKept⟩, othersKept⟩ := areKept
          refine .cons ⟨?_, ?_⟩ (ih _ othersKept)
          · rw [text?_eq_some_iff.mpr denotes] at isName
            exact Option.some.inj isName
          · rw [Kept, Place.value?, inside, ← isDocument]
            exact isKept

theorem Kept.text? {place : Place} (kept : Kept place value) {text : String}
    (found : place.text? = some text) : value.text? = some text := by
  obtain ⟨depth, document⟩ := place
  cases document with
  | string units =>
      have isText : StringUnit.text? units = some text := found
      have isKept : (StringUnit.text? units).map Value.string = some value := by
        rw [← kept, Place.value?, Document.keep?]
      rw [isText] at isKept
      cases isKept
      rfl
  | _ => cases found

theorem Kept.value? {place : Place} (kept : Kept place value) {other : Value}
    (found : place.value? = some other) : value = other :=
  Option.some.inj (kept.symm.trans found)

end Keeping

/-- A record read in place, and the same record read from what is kept. -/
inductive KeptRecord : Record Place → Record Value → Prop
  | byName {places : List (String × Place)} {members : List (String × Value)} :
      List.Forall₂ KeptMember places members →
        KeptRecord (.byName places) (.byName (inOrder [] members))
  | byPosition {places : List Place} {values : List Value} :
      List.Forall₂ Kept places values →
        KeptRecord (.byPosition places) (.byPosition values)

theorem Kept.exists_record {place : Place} {value : Value}
    (kept : Kept place value) {record : Record Place}
    (found : Record.of? place = some record) :
    ∃ keptRecord, Record.of? value = some keptRecord ∧
      KeptRecord record keptRecord := by
  obtain ⟨depth, document⟩ := place
  cases document with
  | object members =>
      rw [of?_object, Option.map_eq_some_iff] at found
      obtain ⟨places, arePlaces, rfl⟩ := found
      obtain ⟨values, rfl, areKept⟩ := kept.exists_members arePlaces
      exact ⟨_, rfl, .byName areKept⟩
  | array items =>
      cases found
      obtain ⟨values, rfl, areKept⟩ := kept.exists_items
      exact ⟨_, rfl, .byPosition areKept⟩
  | _ => cases found

namespace KeptRecord

variable {record : Record Place} {keptRecord : Record Value} {field : Field}

theorem fits (kept : KeptRecord record keptRecord) {count : Nat}
    (fitting : record.fits count = true) : keptRecord.fits count = true := by
  cases kept with
  | byName areKept => rfl
  | byPosition areKept => simpa [Record.fits, areKept.length_eq] using fitting

/-- A field is given by what is kept as it is given in place. -/
theorem given? (kept : KeptRecord record keptRecord) {given : Option Place}
    (found : record.given? field = some given) :
    ∃ keptGiven, keptRecord.given? field = some keptGiven ∧
      Option.Rel Kept given keptGiven := by
  cases kept with
  | @byName places members areKept =>
      have selected : List.Forall₂ KeptMember
          (places.filter fun place => field.names.contains place.1)
          (members.filter fun member => field.names.contains member.1) := by
        refine List.rel_filter ?_ areKept
        intro place member isKept
        have sameName : place.1 = member.1 := isKept.1
        simp only [sameName]
      rw [given?_byName] at found
      rw [given?_byName]
      generalize (places.filter fun place => field.names.contains place.1) =
        chosen at found selected
      rcases chosen with _ | ⟨place, _ | ⟨second, others⟩⟩
      · cases found
        rw [filter_inOrder_of_nil (List.forall₂_nil_left_iff.mp selected)]
        exact ⟨none, rfl, .none⟩
      · -- No other member has one of the names, so none can win over this one.
        cases found
        obtain ⟨member, rest, isKept, isNil, isSingle⟩ :=
          List.forall₂_cons_left_iff.mp selected
        rw [List.forall₂_nil_left_iff.mp isNil] at isSingle
        rw [filter_inOrder_of_singleton rfl isSingle]
        exact ⟨some member.2, rfl, .some isKept.2⟩
      · cases found
  | @byPosition places values areKept =>
      have related := rel_getElem?_of_forall₂ areKept field.position
      rw [given?_byPosition] at found
      rw [given?_byPosition]
      generalize places[field.position]? = place at found related
      generalize values[field.position]? = value at related
      cases related with
      | some isKept =>
          cases found
          exact ⟨_, rfl, .some isKept⟩
      | none =>
          split_ifs at found with mayBeLeftOff
          cases found
          exact ⟨none, by simp [mayBeLeftOff], .none⟩

end KeptRecord

/-- A reader finds in what is kept whatever another one finds in place. -/
def Carries {α : Type} (onPlace : Place → Option α)
    (onValue : Value → Option α) : Prop :=
  ∀ ⦃place : Place⦄ ⦃value : Value⦄ ⦃result : α⦄, Kept place value →
    onPlace place = some result → onValue value = some result

section Carried

variable {α : Type} {onPlace : Place → Option α} {onValue : Value → Option α}

theorem carries_text : Carries Source.text? Source.text? := by
  intro place value text kept found
  exact kept.text? found

theorem carries_value : Carries Source.value? Source.value? := by
  intro place value other kept found
  rw [kept.value? found]
  rfl

theorem Carries.listOf (carries : Carries onPlace onValue) :
    Carries (listOf? onPlace) (listOf? onValue) := by
  intro place value results kept found
  obtain ⟨depth, document⟩ := place
  cases document with
  | array items =>
      obtain ⟨values, rfl, areKept⟩ := kept.exists_items
      replace found : (items.map (Place.mk (depth + 1))).mapM onPlace =
          some results := found
      refine mapM_eq_some_iff.mpr ?_
      rw [mapM_eq_some_iff] at found
      generalize items.map (Place.mk (depth + 1)) = places at found areKept
      clear kept
      induction found generalizing values with
      | nil =>
          cases areKept
          exact .nil
      | cons isFound _ ih =>
          obtain _ | ⟨isKept, othersKept⟩ := areKept
          exact .cons (carries isKept isFound) (ih _ othersKept)
  | _ => cases found

variable {record : Record Place} {keptRecord : Record Value} {field : Field}

theorem Carries.required? (carries : Carries onPlace onValue)
    (kept : KeptRecord record keptRecord) {result : α}
    (found : record.required? field onPlace = some result) :
    keptRecord.required? field onValue = some result := by
  obtain ⟨given, isGiven, read⟩ := Option.bind_eq_some_iff.mp found
  obtain ⟨keptGiven, isKeptGiven, related⟩ := kept.given? isGiven
  rw [Record.required?, isKeptGiven]
  cases related with
  | none => cases read
  | some keptPlace => exact carries keptPlace read

theorem Carries.defaulted? (carries : Carries onPlace onValue)
    (kept : KeptRecord record keptRecord) {default result : α}
    (found : record.defaulted? field default onPlace = some result) :
    keptRecord.defaulted? field default onValue = some result := by
  obtain ⟨given, isGiven, read⟩ := Option.bind_eq_some_iff.mp found
  obtain ⟨keptGiven, isKeptGiven, related⟩ := kept.given? isGiven
  rw [Record.defaulted?, isKeptGiven]
  cases related with
  | none => exact read
  | some keptPlace => exact carries keptPlace read

end Carried

end Json

end PipeGraph
