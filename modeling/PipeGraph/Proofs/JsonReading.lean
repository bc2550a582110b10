import PipeGraph.Proofs.JsonTokens

/-!
# Reading JSON documents

A text is read as a document exactly when the grammar says that it writes that
document.  The reader bounds how deep its calls are nested.  One level of calls
is looked at under the assumption that all calls below are right; the bound
that the reader starts with then turns out to be enough for every text.
-/

namespace PipeGraph

namespace Json

/-- A text that starts neither with a blank nor with the end of a list. -/
def Opens (text : List Char) : Prop :=
  ∃ first others, text = first :: others ∧
    first ∉ [' ', '\t', '\n', '\r', ']', '}']

theorem Opens.skipBlanks {text : List Char} (opens : Opens text) :
    skipBlanks text = text := by
  obtain ⟨first, others, rfl, excluded⟩ := opens
  have notBlank : isBlank first = false := by
    rw [← Bool.not_eq_true, isBlank_iff]
    intro blank
    exact excluded (List.mem_append_left [']', '}'] blank)
  simp [Json.skipBlanks, notBlank]

theorem NumeralWritten.exists_first {numeral : Numeral} {text : List Char}
    (written : NumeralWritten numeral text) :
    ∃ first others, text = first :: others ∧
      (first = '-' ∨ first.isDigit = true) := by
  obtain @⟨negative, whole, fraction, exponent, wholeText, fractionText,
    exponentText, wholeWritten, fractionWritten, exponentWritten⟩ := written
  cases negative with
  | true => exact ⟨_, _, rfl, .inl rfl⟩
  | false =>
      obtain ⟨first, others, rfl, isDigit⟩ := wholeWritten.exists_digit
      exact ⟨_, _, rfl, .inr isDigit⟩

theorem Written.opens {document : Document} {text : List Char}
    (written : Written document text) (rest : List Char) :
    Opens (text ++ rest) := by
  cases written with
  | number numeralWritten =>
      obtain ⟨first, others, rfl, isFirst⟩ := numeralWritten.exists_first
      refine ⟨first, _, rfl, ?_⟩
      rcases isFirst with rfl | isDigit
      · decide
      · intro member
        fin_cases member <;> cases isDigit
  | _ => exact ⟨_, _, rfl, by decide⟩

theorem Stops.of_blank {after rest : List Char} (blank : Blank after)
    (stops : Stops ['.', 'e', 'E'] rest) :
    Stops ['.', 'e', 'E'] (after ++ rest) := by
  cases after with
  | nil => exact stops
  | cons first others =>
      have member := blank first (by simp)
      fin_cases member <;> exact .cons _ (by decide) (by decide)

theorem Stops.nil {marks : List Char} : Stops marks [] := by
  intro character isHead
  cases isHead

variable {bound : Nat} {before text rest : List Char} {document : Document}
  {items : List Document} {members : List (List StringUnit × Document)}

theorem document?_numeral {first : Char} {others : List Char}
    (isFirst : first = '-' ∨ first.isDigit = true)
    (starts : skipBlanks text = first :: others) :
    document? (bound + 1) text =
      (numeral? (first :: others)).bind fun read =>
        some (.number read.1, read.2) := by
  rw [document?, starts]
  split
  case h_7 => rfl
  all_goals
    next isStart =>
      cases isStart
      simp at isFirst

/-- An array behind its opening bracket. -/
def arrayAfter? (bound : Nat) (others : List Char) :
    Option (Document × List Char) :=
  match skipBlanks others with
  | ']' :: remaining => some (.array [], remaining)
  | _ => (items? bound others).bind fun read => some (.array read.1, read.2)

/-- An object behind its opening brace. -/
def objectAfter? (bound : Nat) (others : List Char) :
    Option (Document × List Char) :=
  match skipBlanks others with
  | '}' :: remaining => some (.object [], remaining)
  | _ => (members? bound others).bind fun read => some (.object read.1, read.2)

theorem document?_array {others : List Char}
    (starts : skipBlanks text = '[' :: others)
    (continues : ∀ remaining, skipBlanks others ≠ ']' :: remaining) :
    document? (bound + 1) text =
      (items? bound others).bind fun read => some (.array read.1, read.2) := by
  have dispatched : document? (bound + 1) text = arrayAfter? bound others := by
    rw [document?, starts]
    rfl
  rw [dispatched, arrayAfter?]
  split
  · next closed => exact absurd closed (continues _)
  · rfl

theorem document?_object {others : List Char}
    (starts : skipBlanks text = '{' :: others)
    (continues : ∀ remaining, skipBlanks others ≠ '}' :: remaining) :
    document? (bound + 1) text =
      (members? bound others).bind fun read =>
        some (.object read.1, read.2) := by
  have dispatched : document? (bound + 1) text = objectAfter? bound others := by
    rw [document?, starts]
    rfl
  rw [dispatched, objectAfter?]
  split
  · next closed => exact absurd closed (continues _)
  · rfl

theorem skipBlanks_comma (rest : List Char) :
    skipBlanks (',' :: rest) = ',' :: rest :=
  rfl

theorem items?_succ (bound : Nat) (text : List Char) :
    items? (bound + 1) text =
      (document? bound text).bind fun read =>
        match skipBlanks read.2 with
        | ',' :: rest => (items? bound rest).bind fun others =>
            some (read.1 :: others.1, others.2)
        | ']' :: remaining => some ([read.1], remaining)
        | _ => none :=
  rfl

theorem members?_succ {others afterKey : List Char} {key : List StringUnit}
    (starts : skipBlanks text = '"' :: others)
    (keyFound : stringBody? others = some (key, afterKey))
    {afterColon : List Char}
    (colon : skipBlanks afterKey = ':' :: afterColon) :
    members? (bound + 1) text =
      (document? bound afterColon).bind fun read =>
        match skipBlanks read.2 with
        | ',' :: rest => (members? bound rest).bind fun others =>
            some ((key, read.1) :: others.1, others.2)
        | '}' :: remaining => some ([(key, read.1)], remaining)
        | _ => none := by
  simp only [members?, starts, keyFound, colon, Option.bind_eq_bind,
    Option.bind_some]
  rfl

theorem exists_key_of_members?
    (found : members? (bound + 1) text = some (members, rest)) :
    ∃ others key afterKey afterColon, skipBlanks text = '"' :: others ∧
      stringBody? others = some (key, afterKey) ∧
        skipBlanks afterKey = ':' :: afterColon := by
  rw [members?] at found
  split at found
  · next others starts =>
      obtain ⟨⟨key, afterKey⟩, keyFound, found⟩ :=
        Option.bind_eq_some_iff.mp found
      dsimp only at found
      split at found
      · next afterColon colon =>
          exact ⟨others, key, afterKey, afterColon, starts, keyFound, colon⟩
      · cases found
  · cases found

theorem Padded.opens (padded : Padded document text) (rest : List Char) :
    Opens (skipBlanks (text ++ rest)) := by
  obtain @⟨_, before, body, after, blankBefore, written, blankAfter⟩ := padded
  have opens := written.opens (after ++ rest)
  rw [List.append_assoc, List.append_assoc, skipBlanks_append blankBefore,
    opens.skipBlanks]
  exact opens

theorem ItemsWritten.opens (written : ItemsWritten items text)
    (rest : List Char) : Opens (skipBlanks (text ++ rest)) := by
  cases written with
  | last padded => exact padded.opens rest
  | more padded others =>
      rw [List.append_assoc]
      exact padded.opens _

theorem KeyWritten.skipBlanks_eq {key : List StringUnit}
    (written : KeyWritten key text) (rest : List Char) :
    ∃ body after, UnitsWritten key body ∧ Blank after ∧
      skipBlanks (text ++ rest) = '"' :: (body ++ '"' :: (after ++ rest)) := by
  obtain @⟨before, body, after, blankBefore, unitsWritten, blankAfter⟩ :=
    written
  refine ⟨body, after, unitsWritten, blankAfter, ?_⟩
  rw [List.append_assoc, skipBlanks_append blankBefore]
  simp [skipBlanks, isBlank]

theorem MembersWritten.opens (written : MembersWritten members text)
    (rest : List Char) : Opens (skipBlanks (text ++ rest)) := by
  cases written with
  | last keyWritten padded =>
      obtain ⟨body, after, -, -, starts⟩ := keyWritten.skipBlanks_eq _
      rw [List.append_assoc, starts]
      exact ⟨_, _, rfl, by decide⟩
  | more keyWritten padded others =>
      obtain ⟨body, after, -, -, starts⟩ := keyWritten.skipBlanks_eq _
      rw [List.append_assoc, starts]
      exact ⟨_, _, rfl, by decide⟩

theorem Opens.ne_cons {close : Char} (opens : Opens text)
    (closes : close = ']' ∨ close = '}') (remaining : List Char) :
    text ≠ close :: remaining := by
  rintro rfl
  obtain ⟨_, _, isFirst, excluded⟩ := opens
  cases isFirst
  rcases closes with rfl | rfl <;> simp at excluded

/-- Reading finds every document, list of items and list of members that the
grammar allows, if its bound is at least twice the length of the text. -/
structure Complete (bound : Nat) : Prop where
  document : ∀ {document : Document} {before text rest : List Char},
    Blank before → Written document text → Stops ['.', 'e', 'E'] rest →
      2 * text.length ≤ bound →
        document? bound (before ++ (text ++ rest)) = some (document, rest)
  items : ∀ {items : List Document} {text : List Char},
    ItemsWritten items text → 2 * text.length < bound →
      ∀ rest, items? bound (text ++ ']' :: rest) = some (items, rest)
  members : ∀ {members : List (List StringUnit × Document)} {text : List Char},
    MembersWritten members text → 2 * text.length < bound →
      ∀ rest, members? bound (text ++ '}' :: rest) = some (members, rest)

namespace Complete

theorem document_succ (complete : Complete bound) (blank : Blank before)
    (written : Written document text) (stops : Stops ['.', 'e', 'E'] rest)
    (enough : 2 * text.length ≤ bound + 1) :
    document? (bound + 1) (before ++ (text ++ rest)) =
      some (document, rest) := by
  have starts : skipBlanks (before ++ (text ++ rest)) = text ++ rest := by
    rw [skipBlanks_append blank, (written.opens rest).skipBlanks]
  cases written with
  | null => rw [document?, starts]; rfl
  | true => rw [document?, starts]; rfl
  | false => rw [document?, starts]; rfl
  | number numeralWritten =>
      obtain ⟨first, others, rfl, isFirst⟩ := numeralWritten.exists_first
      have found := numeral?_append numeralWritten stops
      rw [List.cons_append] at found starts ⊢
      rw [document?_numeral isFirst starts, found, Option.bind_some]
  | @string units body unitsWritten =>
      have found := stringBody?_append unitsWritten rest
      rw [document?, starts]
      simp only [List.cons_append, List.append_assoc, List.nil_append, found]
      rfl
  | @emptyArray between blankBetween =>
      rw [document?, starts]
      simp only [List.cons_append, List.append_assoc, List.nil_append,
        skipBlanks_append blankBetween]
      rfl
  | @array items body itemsWritten =>
      simp only [List.cons_append, List.append_assoc, List.nil_append]
        at starts ⊢
      have shorter : 2 * body.length < bound := by
        simp only [List.length_cons, List.length_append] at enough
        omega
      rw [document?_array starts
          ((itemsWritten.opens (']' :: rest)).ne_cons (.inl rfl)),
        complete.items itemsWritten shorter, Option.bind_some]
  | @emptyObject between blankBetween =>
      rw [document?, starts]
      simp only [List.cons_append, List.append_assoc, List.nil_append,
        skipBlanks_append blankBetween]
      rfl
  | @object members body membersWritten =>
      simp only [List.cons_append, List.append_assoc, List.nil_append]
        at starts ⊢
      have shorter : 2 * body.length < bound := by
        simp only [List.length_cons, List.length_append] at enough
        omega
      rw [document?_object starts
          ((membersWritten.opens ('}' :: rest)).ne_cons (.inr rfl)),
        complete.members membersWritten shorter, Option.bind_some]

theorem padded (complete : Complete bound) (padded : Padded document text)
    (stops : Stops ['.', 'e', 'E'] rest) (enough : 2 * text.length ≤ bound) :
    ∃ after, Blank after ∧
      document? bound (text ++ rest) = some (document, after ++ rest) := by
  obtain @⟨_, before, body, after, blankBefore, written, blankAfter⟩ := padded
  refine ⟨after, blankAfter, ?_⟩
  simp only [List.length_append] at enough
  rw [List.append_assoc, List.append_assoc]
  exact complete.document blankBefore written (stops.of_blank blankAfter)
    (by omega)

theorem items_succ (complete : Complete bound)
    (written : ItemsWritten items text)
    (enough : 2 * text.length < bound + 1) (rest : List Char) :
    items? (bound + 1) (text ++ ']' :: rest) = some (items, rest) := by
  cases written with
  | last padded =>
      have stops : Stops ['.', 'e', 'E'] (']' :: rest) :=
        .cons rest (by decide) (by decide)
      obtain ⟨after, blank, found⟩ :=
        complete.padded padded stops (by omega)
      rw [items?_succ, found, Option.bind_some]
      simp only [skipBlanks_append blank]
      rfl
  | @more item items itemText others padded othersWritten =>
      have stops : Stops ['.', 'e', 'E'] (',' :: (others ++ ']' :: rest)) :=
        .cons _ (by decide) (by decide)
      simp only [List.length_cons, List.length_append] at enough
      obtain ⟨after, blank, found⟩ :=
        complete.padded padded stops (by omega)
      have othersFound := complete.items othersWritten (by omega) rest
      rw [List.append_assoc, List.cons_append, items?_succ, found,
        Option.bind_some]
      simp only [skipBlanks_append blank, skipBlanks_comma, othersFound,
        Option.bind_some]

theorem members_succ (complete : Complete bound)
    (written : MembersWritten members text)
    (enough : 2 * text.length < bound + 1) (rest : List Char) :
    members? (bound + 1) (text ++ '}' :: rest) = some (members, rest) := by
  cases written with
  | @last key value keyText valueText keyWritten padded =>
      have stops : Stops ['.', 'e', 'E'] ('}' :: rest) :=
        .cons rest (by decide) (by decide)
      simp only [List.length_cons, List.length_append] at enough
      obtain ⟨after, blank, found⟩ :=
        complete.padded padded stops (by omega)
      obtain ⟨body, afterKey, unitsWritten, blankAfterKey, starts⟩ :=
        keyWritten.skipBlanks_eq (':' :: (valueText ++ '}' :: rest))
      rw [List.append_assoc, List.cons_append,
        members?_succ starts (stringBody?_append unitsWritten _)
          (skipBlanks_append blankAfterKey _), found, Option.bind_some]
      simp only [skipBlanks_append blank]
      rfl
  | @more key value members keyText valueText others keyWritten padded
      othersWritten =>
      have stops : Stops ['.', 'e', 'E'] (',' :: (others ++ '}' :: rest)) :=
        .cons _ (by decide) (by decide)
      simp only [List.length_cons, List.length_append] at enough
      obtain ⟨after, blank, found⟩ :=
        complete.padded padded stops (by omega)
      obtain ⟨body, afterKey, unitsWritten, blankAfterKey, starts⟩ :=
        keyWritten.skipBlanks_eq
          (':' :: (valueText ++ ',' :: (others ++ '}' :: rest)))
      have othersFound := complete.members othersWritten (by omega) rest
      rw [List.append_assoc, List.cons_append, List.append_assoc,
        List.cons_append,
        members?_succ starts (stringBody?_append unitsWritten _)
          (skipBlanks_append blankAfterKey _), found, Option.bind_some]
      simp only [skipBlanks_append blank, skipBlanks_comma, othersFound,
        Option.bind_some]

end Complete

theorem complete (bound : Nat) : Complete bound := by
  induction bound with
  | zero =>
      refine ⟨?_, fun _ enough => absurd enough (Nat.not_lt_zero _),
        fun _ enough => absurd enough (Nat.not_lt_zero _)⟩
      intro document before text rest blank written stops enough
      obtain ⟨first, others, isText, -⟩ := written.opens []
      rw [List.append_nil] at isText
      rw [isText, List.length_cons] at enough
      omega
  | succ bound ih =>
      exact ⟨ih.document_succ, ih.items_succ, ih.members_succ⟩

/-- Everything that reading finds is written by the text that it takes. -/
structure Sound (bound : Nat) : Prop where
  document : ∀ {text rest : List Char} {document : Document},
    document? bound text = some (document, rest) →
      ∃ before body, Blank before ∧ Written document body ∧
        text = before ++ (body ++ rest)
  items : ∀ {text rest : List Char} {items : List Document},
    items? bound text = some (items, rest) →
      ∃ body, ItemsWritten items body ∧ text = body ++ ']' :: rest
  members : ∀ {text rest : List Char}
      {members : List (List StringUnit × Document)},
    members? bound text = some (members, rest) →
      ∃ body, MembersWritten members body ∧ text = body ++ '}' :: rest

namespace Sound

theorem array_or_empty (sound : Sound bound) {others : List Char}
    (found : arrayAfter? bound others = some (document, rest)) :
    ∃ body, Written document body ∧ '[' :: others = body ++ rest := by
  rw [arrayAfter?] at found
  obtain ⟨between, blank, isOthers⟩ := exists_blank_append_skipBlanks others
  split at found
  · next closed =>
      cases found
      refine ⟨_, .emptyArray blank, ?_⟩
      rw [isOthers, closed]
      simp
  · obtain ⟨⟨items, _⟩, itemsFound, returned⟩ :=
      Option.bind_eq_some_iff.mp found
    cases returned
    obtain ⟨body, written, rfl⟩ := sound.items itemsFound
    exact ⟨_, .array written, by simp⟩

theorem object_or_empty (sound : Sound bound) {others : List Char}
    (found : objectAfter? bound others = some (document, rest)) :
    ∃ body, Written document body ∧ '{' :: others = body ++ rest := by
  rw [objectAfter?] at found
  obtain ⟨between, blank, isOthers⟩ := exists_blank_append_skipBlanks others
  split at found
  · next closed =>
      cases found
      refine ⟨_, .emptyObject blank, ?_⟩
      rw [isOthers, closed]
      simp
  · obtain ⟨⟨members, _⟩, membersFound, returned⟩ :=
      Option.bind_eq_some_iff.mp found
    cases returned
    obtain ⟨body, written, rfl⟩ := sound.members membersFound
    exact ⟨_, .object written, by simp⟩

theorem document_succ (sound : Sound bound)
    (found : document? (bound + 1) text = some (document, rest)) :
    ∃ before body, Blank before ∧ Written document body ∧
      text = before ++ (body ++ rest) := by
  obtain ⟨before, blank, isText⟩ := exists_blank_append_skipBlanks text
  suffices written :
      ∃ body, Written document body ∧ skipBlanks text = body ++ rest by
    obtain ⟨body, bodyWritten, isRest⟩ := written
    exact ⟨before, body, blank, bodyWritten, isRest ▸ isText⟩
  rw [document?] at found
  split at found
  · next starts =>
      cases found
      exact ⟨_, .null, starts⟩
  · next starts =>
      cases found
      exact ⟨_, .true, starts⟩
  · next starts =>
      cases found
      exact ⟨_, .false, starts⟩
  · next starts =>
      obtain ⟨⟨units, _⟩, unitsFound, returned⟩ :=
        Option.bind_eq_some_iff.mp found
      cases returned
      obtain ⟨body, written, isRest⟩ := exists_of_stringBody? unitsFound
      refine ⟨_, .string written, ?_⟩
      rw [starts, isRest]
      simp
  · next starts =>
      rw [starts]
      exact sound.array_or_empty found
  · next starts =>
      rw [starts]
      exact sound.object_or_empty found
  · obtain ⟨⟨numeral, _⟩, numeralFound, returned⟩ :=
      Option.bind_eq_some_iff.mp found
    cases returned
    obtain ⟨body, written, isRest⟩ := exists_of_numeral? numeralFound
    exact ⟨body, .number written, isRest⟩

theorem padded (sound : Sound bound) {close : Char} {remaining : List Char}
    (found : document? bound text = some (document, rest))
    (closes : skipBlanks rest = close :: remaining) :
    ∃ body, Padded document body ∧ text = body ++ close :: remaining := by
  obtain ⟨before, body, blankBefore, written, rfl⟩ := sound.document found
  obtain ⟨after, blankAfter, isRest⟩ := exists_blank_append_skipBlanks rest
  refine ⟨_, .mk blankBefore written blankAfter, ?_⟩
  rw [isRest, closes]
  simp only [List.append_assoc]

theorem items_succ (sound : Sound bound)
    (found : items? (bound + 1) text = some (items, rest)) :
    ∃ body, ItemsWritten items body ∧ text = body ++ ']' :: rest := by
  rw [items?_succ] at found
  obtain ⟨⟨item, afterItem⟩, itemFound, found⟩ :=
    Option.bind_eq_some_iff.mp found
  dsimp only at found
  split at found
  · next comma =>
      obtain ⟨⟨others, _⟩, othersFound, returned⟩ :=
        Option.bind_eq_some_iff.mp found
      cases returned
      obtain ⟨itemText, padded, rfl⟩ := sound.padded itemFound comma
      obtain ⟨othersText, othersWritten, rfl⟩ := sound.items othersFound
      exact ⟨_, .more padded othersWritten, by simp⟩
  · next close =>
      cases found
      obtain ⟨itemText, padded, rfl⟩ := sound.padded itemFound close
      exact ⟨_, .last padded, rfl⟩
  · cases found

theorem members_succ (sound : Sound bound)
    (found : members? (bound + 1) text = some (members, rest)) :
    ∃ body, MembersWritten members body ∧ text = body ++ '}' :: rest := by
  obtain ⟨afterQuote, key, afterKey, afterColon, starts, keyFound, colon⟩ :=
    exists_key_of_members? found
  rw [members?_succ starts keyFound colon] at found
  -- Up to the colon the text is a key between blanks.
  obtain ⟨keyText, keyWritten, isText⟩ :
      ∃ keyText, KeyWritten key keyText ∧
        text = keyText ++ ':' :: afterColon := by
    obtain ⟨before, blankBefore, isText⟩ := exists_blank_append_skipBlanks text
    obtain ⟨after, blankAfter, isAfterKey⟩ :=
      exists_blank_append_skipBlanks afterKey
    obtain ⟨body, unitsWritten, rfl⟩ := exists_of_stringBody? keyFound
    refine ⟨_, .mk blankBefore unitsWritten blankAfter, ?_⟩
    rw [isText, starts, isAfterKey, colon]
    simp
  obtain ⟨⟨value, afterValue⟩, valueFound, found⟩ :=
    Option.bind_eq_some_iff.mp found
  dsimp only at found
  split at found
  · next comma =>
      obtain ⟨⟨others, _⟩, othersFound, returned⟩ :=
        Option.bind_eq_some_iff.mp found
      cases returned
      obtain ⟨valueText, padded, rfl⟩ := sound.padded valueFound comma
      obtain ⟨othersText, othersWritten, rfl⟩ := sound.members othersFound
      exact ⟨_, .more keyWritten padded othersWritten, by simp [isText]⟩
  · next close =>
      cases found
      obtain ⟨valueText, padded, rfl⟩ := sound.padded valueFound close
      exact ⟨_, .last keyWritten padded, by simp [isText]⟩
  · cases found

end Sound

theorem sound (bound : Nat) : Sound bound := by
  induction bound with
  | zero =>
      refine ⟨?_, ?_, ?_⟩
      · intro text rest document found
        cases found
      · intro text rest items found
        cases found
      · intro text rest members found
        cases found
  | succ bound ih =>
      exact ⟨ih.document_succ, ih.items_succ, ih.members_succ⟩

theorem Document.parse?_eq_some_iff {text : String} {document : Document} :
    Document.parse? text = some document ↔ Padded document text.toList := by
  constructor
  · intro parsed
    obtain ⟨⟨found, remaining⟩, documentFound, parsed⟩ :=
      Option.bind_eq_some_iff.mp parsed
    obtain ⟨_, ended, returned⟩ := Option.bind_eq_some_iff.mp parsed
    cases returned
    obtain ⟨before, body, blank, written, isText⟩ :=
      (sound _).document documentFound
    have blankRemaining : Blank remaining := by
      rw [blank_iff_skipBlanks]
      simpa using ended
    rw [isText]
    exact .mk blank written blankRemaining
  · intro padded
    have enough : 2 * text.toList.length ≤ 2 * text.toList.length + 2 := by
      omega
    obtain ⟨after, blank, found⟩ :=
      (complete _).padded padded Stops.nil enough
    rw [List.append_nil, List.append_nil] at found
    have ended : (skipBlanks after).isEmpty = true := by
      rw [blank_iff_skipBlanks.mp blank, List.isEmpty_nil]
    rw [Document.parse?]
    simp only [found, Option.bind_eq_bind, Option.bind_some, ended]
    rfl

theorem Padded.unique {document other : Document} {text : String}
    (written : Padded document text.toList)
    (otherWritten : Padded other text.toList) : document = other :=
  Option.some.inj ((Document.parse?_eq_some_iff.mpr written).symm.trans
    (Document.parse?_eq_some_iff.mpr otherWritten))

end Json

end PipeGraph
