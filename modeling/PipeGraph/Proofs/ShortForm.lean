import PipeGraph.Proofs.FlagRecovery

/-!
# What comes before the long name of a flag

The first short mark divides a flag declaration into its long name, its short
form, and what stands behind the short form.  By the rule for flags, only a
short form comes before the long name.  The search for a short form does not
stop at the parenthesis that closes it, so that what stands behind comes before
the long name as well.  That breaks the rule for one kind of declaration: there
is no word in the short form, but one before it and another one behind it.
-/

namespace PipeGraph

/-! ## The first run among several texts -/

namespace Text

/-- A text has an ASCII letter or digit. -/
def HasRun (text : List Char) : Prop :=
  ∃ character ∈ text, character.isAlphanum = true

instance (text : List Char) : Decidable (HasRun text) :=
  decidable_of_iff (text.any Char.isAlphanum = true) List.any_eq_true

/-- The first run of the first text that has one. -/
def runOfFirst : List (List Char) → List Char
  | [] => []
  | text :: texts => if HasRun text then firstRun text else runOfFirst texts

variable {text front rest : List Char}

theorem firstRun_eq_nil_iff_not_hasRun :
    firstRun text = [] ↔ ¬ HasRun text := by
  simp [firstRun_eq_nil_iff, HasRun]

theorem firstRun_append_of_not_hasRun (noRun : ¬ HasRun front) :
    firstRun (front ++ rest) = firstRun rest := by
  have skipped : ∀ character ∈ front, (!character.isAlphanum) = true := by
    intro character member
    rw [Bool.not_eq_true', Bool.eq_false_iff]
    exact fun isAlphanum => noRun ⟨character, member, isAlphanum⟩
  rw [firstRun, List.dropWhile_append_of_pos skipped, firstRun]

/-- A stretch of characters ends at the latest where one does not belong to
it. -/
theorem takeWhile_append_of_apart {belongs : Char → Bool}
    (apart : ∀ character ∈ rest.head?, belongs character = false) :
    (front ++ rest).takeWhile belongs = front.takeWhile belongs := by
  induction front with
  | nil =>
      cases rest with
      | nil => rfl
      | cons first others => simp [apart first rfl]
  | cons first front ih =>
      cases doesBelong : belongs first with
      | true => simp [doesBelong, ih]
      | false => simp [doesBelong]

/-- A run does not go on behind a character that is no letter or digit. -/
theorem firstRun_append_of_hasRun (hasRun : HasRun front)
    (apart : ∀ character ∈ rest.head?, character.isAlphanum = false) :
    firstRun (front ++ rest) = firstRun front := by
  have found :
      (front.dropWhile fun character => !character.isAlphanum) ≠ [] := by
    intro isNil
    have noRun : firstRun front = [] := by
      rw [firstRun, isNil, List.takeWhile_nil]
    exact firstRun_eq_nil_iff_not_hasRun.mp noRun hasRun
  rw [firstRun, List.dropWhile_append,
    if_neg (by simpa only [List.isEmpty_iff] using found),
    takeWhile_append_of_apart apart, firstRun]

@[simp] theorem runOfFirst_singleton (text : List Char) :
    runOfFirst [text] = firstRun text := by
  by_cases hasRun : HasRun text
  · rw [runOfFirst, if_pos hasRun]
  · rw [runOfFirst, if_neg hasRun, runOfFirst,
      firstRun_eq_nil_iff_not_hasRun.mpr hasRun]

theorem runOfFirst_append (texts others : List (List Char)) :
    runOfFirst (texts ++ others) =
      if runOfFirst texts = [] then runOfFirst others
      else runOfFirst texts := by
  induction texts with
  | nil => rfl
  | cons text texts ih =>
      by_cases hasRun : HasRun text
      · have someRun : firstRun text ≠ [] := fun isNil =>
          firstRun_eq_nil_iff_not_hasRun.mp isNil hasRun
        simp [runOfFirst, hasRun, someRun]
      · simpa [runOfFirst, hasRun] using ih

/-- Two texts that no run connects are searched one after the other. -/
theorem firstRun_append
    (apart : ∀ character ∈ rest.head?, character.isAlphanum = false) :
    firstRun (front ++ rest) = runOfFirst [front, rest] := by
  by_cases hasRun : HasRun front
  · rw [firstRun_append_of_hasRun hasRun apart, runOfFirst, if_pos hasRun]
  · rw [firstRun_append_of_not_hasRun hasRun, runOfFirst, if_neg hasRun,
      runOfFirst_singleton]

/-- The order of two texts makes a difference only if they have different
runs, and the text before them has none. -/
theorem runOfFirst_swap_iff {first second third : List Char} :
    runOfFirst [first, third, second] = runOfFirst [first, second, third] ↔
      ¬ (¬ HasRun first ∧ HasRun second ∧ HasRun third ∧
        firstRun third ≠ firstRun second) := by
  by_cases firstHas : HasRun first
  · simp [runOfFirst, firstHas]
  by_cases secondHas : HasRun second
  · by_cases thirdHas : HasRun third
    · -- Only here does each of the two come first in its own order.
      simp [runOfFirst, firstHas, secondHas, thirdHas]
    · simp [runOfFirst, firstHas, secondHas, thirdHas]
  · simp [runOfFirst, firstHas, secondHas]

end Text

/-! ## The parts of a declaration -/

namespace Flag

open Text

/-- The parts into which the first short mark divides a text: the long name in
front of it, the short form up to the next closing parenthesis or the end, and
what stands behind the short form, from that parenthesis on. -/
@[ext] structure Parts (text : List Char) where
  long : List Char
  short : List Char
  trailing : List Char
  split : text = long ++ '(' :: '-' :: (short ++ trailing)
  notMarked : ¬ ['(', '-'] <:+: long
  notClosed : ')' ∉ short
  closing : ∀ character ∈ trailing.head?, character = ')'

/-- The rule for flags, on a declaration without its leading dashes: the word
comes from the short form if that has a run, and otherwise it is the first run
of the whole declaration. -/
inductive Ruled (text : List Char) : List Char → Prop
  | short (parts : Parts text) (hasRun : HasRun parts.short) :
      Ruled text (firstRun parts.short)
  | whole (noShort : ∀ parts : Parts text, ¬ HasRun parts.short) :
      Ruled text (firstRun text)

namespace Parts

variable {text : List Char}

/-- The short form has no run, and behind it stands another word than that of
the long name. -/
def Overridden (parts : Parts text) : Prop :=
  ¬ HasRun parts.short ∧ HasRun parts.long ∧ HasRun parts.trailing ∧
    firstRun parts.trailing ≠ firstRun parts.long

theorem afterShortMark?_eq (parts : Parts text) :
    afterShortMark? text = some (parts.short ++ parts.trailing) :=
  afterShortMark?_eq_some_iff.mpr ⟨parts.long, parts.split, parts.notMarked⟩

theorem marked (parts : Parts text) : ['(', '-'] <:+: text :=
  ⟨parts.long, parts.short ++ parts.trailing, by simp [parts.split]⟩

theorem nonempty_of_marked (isMarked : ['(', '-'] <:+: text) :
    Nonempty (Parts text) := by
  obtain ⟨rest, found⟩ := Option.ne_none_iff_exists'.mp
    fun isNone => afterShortMark?_eq_none_iff.mp isNone isMarked
  obtain ⟨long, isSplit, notMarked⟩ := afterShortMark?_eq_some_iff.mp found
  refine ⟨⟨long, rest.takeWhile (· != ')'), rest.dropWhile (· != ')'), ?_,
    notMarked, ?_, ?_⟩⟩
  · rw [List.takeWhile_append_dropWhile, isSplit]
  · intro member
    simpa using List.mem_takeWhile_imp member
  · intro character isHead
    simpa using eq_false_of_mem_head?_dropWhile isHead

theorem takeWhile_eq_short (parts : Parts text) :
    (parts.short ++ parts.trailing).takeWhile (· != ')') = parts.short := by
  have apart : ∀ character ∈ parts.trailing.head?,
      (character != ')') = false := by
    intro character isHead
    simp [parts.closing character isHead]
  rw [takeWhile_append_of_apart apart, List.takeWhile_eq_self_iff]
  intro character member
  rw [bne_iff_ne]
  rintro rfl
  exact parts.notClosed member

/-- A text is divided in one way only. -/
instance : Subsingleton (Parts text) where
  allEq parts others := by
    have sameRest : parts.short ++ parts.trailing =
        others.short ++ others.trailing :=
      Option.some.inj
        (parts.afterShortMark?_eq.symm.trans others.afterShortMark?_eq)
    have sameShort : parts.short = others.short := by
      rw [← parts.takeWhile_eq_short, sameRest, others.takeWhile_eq_short]
    have sameTrailing : parts.trailing = others.trailing := by
      rw [sameShort] at sameRest
      exact List.append_cancel_left sameRest
    have sameLong : parts.long = others.long := by
      have sameText := parts.split.symm.trans others.split
      rw [sameRest] at sameText
      exact List.append_cancel_right sameText
    exact Parts.ext sameLong sameShort sameTrailing

theorem not_isAlphanum_head_trailing (parts : Parts text) :
    ∀ character ∈ parts.trailing.head?, character.isAlphanum = false := by
  intro character isHead
  rw [parts.closing character isHead]
  decide

theorem firstRun_rest (parts : Parts text) :
    firstRun (parts.short ++ parts.trailing) =
      runOfFirst [parts.short, parts.trailing] :=
  firstRun_append parts.not_isAlphanum_head_trailing

/-- The whole declaration is searched part by part. -/
theorem firstRun_eq (parts : Parts text) :
    firstRun text =
      runOfFirst [parts.long, parts.short, parts.trailing] := by
  have apart : ∀ character ∈
      ('(' :: '-' :: (parts.short ++ parts.trailing)).head?,
      character.isAlphanum = false := by
    simp
  have behindMark : firstRun ('(' :: '-' :: (parts.short ++ parts.trailing)) =
      runOfFirst [parts.short, parts.trailing] := by
    have noRun : ¬ HasRun ['(', '-'] := by decide
    rw [← parts.firstRun_rest]
    exact firstRun_append_of_not_hasRun noRun
  conv_lhs => rw [parts.split]
  rw [firstRun_append apart, runOfFirst, runOfFirst_singleton, behindMark]
  rfl

theorem firstRun_eq_of_not_hasRun_short (parts : Parts text)
    (noShort : ¬ HasRun parts.short) :
    firstRun text =
      runOfFirst [parts.short, parts.long, parts.trailing] := by
  rw [parts.firstRun_eq]
  simp only [runOfFirst, noShort, if_false]

/-- By the rule, the short form comes first, and the long name second. -/
theorem ruled_iff (parts : Parts text) {word : List Char} :
    Ruled text word ↔
      word = runOfFirst [parts.short, parts.long, parts.trailing] := by
  constructor
  · intro isRuled
    cases isRuled with
    | short others hasRun =>
        obtain rfl : others = parts := Subsingleton.elim others parts
        rw [runOfFirst, if_pos hasRun]
    | whole noShort =>
        exact parts.firstRun_eq_of_not_hasRun_short (noShort parts)
  · rintro rfl
    by_cases hasRun : HasRun parts.short
    · rw [runOfFirst, if_pos hasRun]
      exact Ruled.short parts hasRun
    · rw [← parts.firstRun_eq_of_not_hasRun_short hasRun]
      apply Ruled.whole
      intro others
      rwa [Subsingleton.elim others parts]

end Parts

section Words

variable {declaration : List Char}

/-- A recovered flag, too, takes the short form first, but what stands behind it
second. -/
theorem word_eq_runOfFirst (parts : Parts (undashed declaration)) :
    word declaration =
      runOfFirst [parts.short, parts.trailing, parts.long] := by
  have ranked := runOfFirst_append [parts.short, parts.trailing] [parts.long]
  rw [List.cons_append, List.cons_append, List.nil_append] at ranked
  rcases word_cases declaration with
    ⟨rest, found, someRun, isWord⟩ | ⟨noRun, isWord⟩
  · obtain rfl : parts.short ++ parts.trailing = rest :=
      Option.some.inj (parts.afterShortMark?_eq.symm.trans found)
    rw [parts.firstRun_rest] at someRun isWord
    rw [isWord, ranked, if_neg someRun]
  · -- Only the long name is left, wherever it is ranked.
    have noRest := noRun _ parts.afterShortMark?_eq
    rw [parts.firstRun_rest] at noRest
    have whole := runOfFirst_append [parts.long] [parts.short, parts.trailing]
    rw [List.singleton_append, noRest] at whole
    rw [isWord, parts.firstRun_eq, whole, ranked, if_pos noRest]
    simp

/-- Without a short mark, the word is the first run, as the rule has it. -/
theorem ruled_iff_of_not_marked
    (notMarked : ¬ ['(', '-'] <:+: undashed declaration) {other : List Char} :
    Ruled (undashed declaration) other ↔ other = word declaration := by
  rw [word_eq_firstRun notMarked]
  constructor
  · intro isRuled
    cases isRuled with
    | short parts => exact absurd parts.marked notMarked
    | whole => rfl
  · rintro rfl
    exact Ruled.whole fun parts => absurd parts.marked notMarked

theorem recover_eq_iff {declaration : String} {other : List Char} :
    recover declaration = "--" ++ String.ofList other ↔
      word declaration.toList = other := by
  constructor
  · exact recover_eq_inj rfl
  · rintro rfl
    rfl

/-- The rule allows one word for every declaration.  A recovered flag has that
word exactly if no word behind a short form without a run overrides that of the
long name.  For a recovered flag looks at the short form first, then behind it,
and at the long name last. -/
theorem recover_keeps_rule_iff (declaration : String) :
    ∃ ruled : List Char,
      (∀ other, Ruled (undashed declaration.toList) other ↔ other = ruled) ∧
      (recover declaration = "--" ++ String.ofList ruled ↔
        ∀ parts : Parts (undashed declaration.toList), ¬ parts.Overridden) ∧
      (Nonempty (Parts (undashed declaration.toList)) ↔
        ['(', '-'] <:+: undashed declaration.toList) ∧
      ∀ parts : Parts (undashed declaration.toList),
        recover declaration = "--" ++ String.ofList
          (runOfFirst [parts.short, parts.trailing, parts.long]) := by
  have ranked : ∀ parts : Parts (undashed declaration.toList),
      recover declaration = "--" ++ String.ofList
        (runOfFirst [parts.short, parts.trailing, parts.long]) :=
    fun parts => recover_eq_iff.mpr (word_eq_runOfFirst parts)
  by_cases isMarked : ['(', '-'] <:+: undashed declaration.toList
  · obtain ⟨parts⟩ := Parts.nonempty_of_marked isMarked
    refine ⟨runOfFirst [parts.short, parts.long, parts.trailing],
      fun _ => parts.ruled_iff, ?_, ⟨fun _ => isMarked, fun _ => ⟨parts⟩⟩,
      ranked⟩
    rw [recover_eq_iff, word_eq_runOfFirst parts, runOfFirst_swap_iff]
    constructor
    · intro kept others
      rw [Subsingleton.elim others parts]
      exact kept
    · intro kept
      exact kept parts
  · have noParts : ¬ Nonempty (Parts (undashed declaration.toList)) := by
      rintro ⟨parts⟩
      exact isMarked parts.marked
    refine ⟨word declaration.toList, fun _ => ruled_iff_of_not_marked isMarked,
      ?_, iff_of_false noParts isMarked, ranked⟩
    exact iff_of_true rfl fun parts => absurd ⟨parts⟩ noParts

end Words

/-- The parts of a declaration with an empty short form between two words. -/
def hiddenName : Parts (undashed "--long(-)rest".toList) where
  long := "long".toList
  short := []
  trailing := ")rest".toList
  split := by decide
  notMarked := by decide
  notClosed := by decide
  closing := by simp

/-- The rule asks for the long name, but the flag is the word behind the
parenthesis. -/
theorem recover_hiddenName :
    hiddenName.Overridden ∧
      Ruled (undashed "--long(-)rest".toList) "long".toList ∧
      recover "--long(-)rest" = "--rest" ∧
      ¬ ∃ ruled, Ruled (undashed "--long(-)rest".toList) ruled ∧
        recover "--long(-)rest" = "--" ++ String.ofList ruled := by
  have recovered : recover "--long(-)rest" = "--rest" := by decide
  refine ⟨⟨by decide, by decide, by decide, by decide⟩,
    hiddenName.ruled_iff.mpr (by decide), recovered, ?_⟩
  rintro ⟨ruled, isRuled, isRecovered⟩
  have isLong : ruled = "long".toList :=
    (hiddenName.ruled_iff.mp isRuled).trans (by decide)
  rw [recovered, isLong] at isRecovered
  exact absurd isRecovered (by decide)

end Flag

end PipeGraph
