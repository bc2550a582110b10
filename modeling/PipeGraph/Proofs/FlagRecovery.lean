import Mathlib.Data.List.Infix
import Mathlib.Data.List.TakeWhile
import PipeGraph.Proofs.Readability

/-!
# Which word of a declaration becomes its flag

The word of a recovered flag is never cut out of a longer one.  It is a whole
run of ASCII letters and digits, because it is searched for from a place where
no run can be under way: behind the leading dashes, or behind the dash of a
short form.  Without a short form it is the first run of the declaration.  A
recovered flag holds nothing but its word, so recovering it again finds the same
word.
-/

namespace PipeGraph

/-! ## Runs of a text -/

namespace Text

/-- A word occurs in a text so that no ASCII letter or digit stands right before
or right after it. -/
def OccursWhole (word text : List Char) : Prop :=
  ∃ before after, text = before ++ word ++ after ∧
    (∀ character ∈ before.getLast?, character.isAlphanum = false) ∧
      ∀ character ∈ after.head?, character.isAlphanum = false

/-- A word occurs in a text so that no ASCII letter or digit stands anywhere
before or right after it. -/
def OccursFirst (word text : List Char) : Prop :=
  ∃ before after, text = before ++ word ++ after ∧
    (∀ character ∈ before, character.isAlphanum = false) ∧
      ∀ character ∈ after.head?, character.isAlphanum = false

variable {word text front : List Char}

theorem OccursFirst.behind (first : OccursFirst word text)
    (without : ∀ character ∈ front, character.isAlphanum = false) :
    OccursFirst word (front ++ text) := by
  obtain ⟨before, after, rfl, none, ends⟩ := first
  refine ⟨front ++ before, after, by simp, ?_, ends⟩
  rw [List.forall_mem_append]
  exact ⟨without, none⟩

/-- What comes first in a part of a text occurs as a whole in the text, if no
letter or digit stands right before the part. -/
theorem OccursFirst.occursWhole_behind (first : OccursFirst word text)
    (apart : ∀ character ∈ front.getLast?, character.isAlphanum = false) :
    OccursWhole word (front ++ text) := by
  obtain ⟨before, after, rfl, none, ends⟩ := first
  refine ⟨front ++ before, after, by simp, ?_, ends⟩
  intro character isLast
  rw [List.getLast?_append, Option.mem_def, Option.or_eq_some_iff] at isLast
  rcases isLast with inBefore | ⟨-, inFront⟩
  · exact none character (List.mem_of_getLast? inBefore)
  · exact apart character inFront

theorem eq_false_of_mem_head?_dropWhile {skips : Char → Bool}
    {character : Char} (isHead : character ∈ (text.dropWhile skips).head?) :
    skips character = false := by
  have stopped := List.head?_dropWhile_not skips text
  rw [Option.mem_def.mp isHead] at stopped
  simpa using stopped

theorem occursFirst_firstRun (text : List Char) :
    OccursFirst (firstRun text) text := by
  refine ⟨text.takeWhile fun character => !character.isAlphanum,
    (text.dropWhile fun character => !character.isAlphanum).dropWhile
      Char.isAlphanum, ?_, ?_, ?_⟩
  · rw [List.append_assoc, firstRun, List.takeWhile_append_dropWhile,
      List.takeWhile_append_dropWhile]
  · intro character member
    simpa using List.mem_takeWhile_imp member
  · intro character isHead
    exact eq_false_of_mem_head?_dropWhile isHead

theorem firstRun_eq_nil_iff :
    firstRun text = [] ↔
      ∀ character ∈ text, character.isAlphanum = false := by
  induction text with
  | nil => simp [firstRun]
  | cons first rest ih =>
      cases isAlphanum : first.isAlphanum with
      | true => simp [firstRun, isAlphanum]
      | false => simpa [firstRun, isAlphanum] using ih

/-- A text of letters and digits is its own first run. -/
theorem firstRun_eq_self
    (all : ∀ character ∈ text, character.isAlphanum = true) :
    firstRun text = text := by
  cases text with
  | nil => rfl
  | cons first rest =>
      have isAlphanum := all first List.mem_cons_self
      rw [firstRun, List.dropWhile_cons_of_neg (by simp [isAlphanum])]
      exact List.takeWhile_eq_self_iff.mpr all

end Text

/-! ## Flags -/

namespace Flag

open Text

theorem afterShortMark?_eq_none_iff {text : List Char} :
    afterShortMark? text = none ↔ ¬ ['(', '-'] <:+: text := by
  fun_induction afterShortMark? text with
  | case1 rest =>
      have marked : ['(', '-'] <:+: '(' :: '-' :: rest := ⟨[], rest, rfl⟩
      simp [marked]
  | case2 first rest notMarked ih =>
      have notHere : ¬ ['(', '-'] <+: first :: rest := by
        rintro ⟨behind, same⟩
        obtain ⟨rfl, rfl⟩ := List.cons.inj same
        exact notMarked behind rfl rfl
      rw [ih, List.infix_cons_iff, not_or]
      exact ⟨fun notLater => ⟨notHere, notLater⟩, And.right⟩
  | case3 => simp

/-- What follows the short mark that has no other one before it. -/
theorem afterShortMark?_eq_some_iff {text rest : List Char} :
    afterShortMark? text = some rest ↔
      ∃ before, text = before ++ '(' :: '-' :: rest ∧
        ¬ ['(', '-'] <:+: before := by
  constructor
  · intro found
    fun_induction afterShortMark? text with
    | case1 behind =>
        cases found
        exact ⟨[], rfl, by simp⟩
    | case2 first behind notMarked ih =>
        obtain ⟨before, rfl, notBefore⟩ := ih found
        refine ⟨first :: before, rfl, ?_⟩
        rw [List.infix_cons_iff, not_or]
        refine ⟨?_, notBefore⟩
        rintro ⟨others, same⟩
        obtain ⟨rfl, rfl⟩ := List.cons.inj same
        exact notMarked (others ++ '(' :: '-' :: rest) rfl rfl
    | case3 => cases found
  · rintro ⟨before, rfl, notBefore⟩
    induction before with
    | nil => rfl
    | cons first before ih =>
        rw [List.infix_cons_iff, not_or] at notBefore
        have notMarked : ∀ behind, first = '(' →
            before ++ '(' :: '-' :: rest = '-' :: behind → False := by
          rintro behind rfl same
          cases before with
          | nil => simp at same
          | cons next others =>
              obtain ⟨rfl, -⟩ := List.cons.inj same
              exact notBefore.1 ⟨others, rfl⟩
        rw [List.cons_append, afterShortMark?.eq_2 _ _ notMarked]
        exact ih notBefore.2

/-- A declaration without its leading dashes. -/
def undashed (declaration : List Char) : List Char :=
  declaration.dropWhile (· == '-')

/-- The leading dashes of a declaration. -/
def dashes (declaration : List Char) : List Char :=
  declaration.takeWhile (· == '-')

theorem dashes_append_undashed (declaration : List Char) :
    dashes declaration ++ undashed declaration = declaration :=
  List.takeWhile_append_dropWhile

theorem not_isAlphanum_of_mem_dashes (declaration : List Char) :
    ∀ character ∈ dashes declaration, character.isAlphanum = false := by
  intro character member
  have isDash : character = '-' := by simpa using List.mem_takeWhile_imp member
  rw [isDash]
  decide

/-- The word of a flag is the first run behind a short mark, or there is no run
behind a short mark and the word is the first run of the declaration. -/
theorem word_cases (declaration : List Char) :
    (∃ rest, afterShortMark? (undashed declaration) = some rest ∧
      firstRun rest ≠ [] ∧ word declaration = firstRun rest) ∨
    ((∀ rest, afterShortMark? (undashed declaration) = some rest →
        firstRun rest = []) ∧
      word declaration = firstRun (undashed declaration)) := by
  simp only [word, undashed]
  cases found : afterShortMark? (declaration.dropWhile (· == '-')) with
  | none => exact .inr ⟨by simp, rfl⟩
  | some rest =>
      cases isRun : firstRun rest with
      | nil =>
          refine .inr ⟨by simp [isRun], ?_⟩
          simp only [Option.map_some, isRun]
      | cons first others =>
          refine .inl ⟨rest, rfl, by simp [isRun], ?_⟩
          simp only [Option.map_some, isRun]

theorem word_eq_firstRun {declaration : List Char}
    (noShortForm : ¬ ['(', '-'] <:+: undashed declaration) :
    word declaration = firstRun (undashed declaration) := by
  rcases word_cases declaration with
    ⟨rest, found, -, -⟩ | ⟨-, isWord⟩
  · rw [afterShortMark?_eq_none_iff.mpr noShortForm] at found
    cases found
  · exact isWord

theorem word_eq_nil_iff {declaration : List Char} :
    word declaration = [] ↔
      ∀ character ∈ declaration, character.isAlphanum = false := by
  rcases word_cases declaration with
    ⟨rest, found, someRun, isWord⟩ | ⟨-, isWord⟩
  · -- A letter or digit behind the short mark is one of the declaration.
    obtain ⟨before, isSplit, -⟩ := afterShortMark?_eq_some_iff.mp found
    have part : rest ⊆ declaration := by
      rw [← dashes_append_undashed declaration, isSplit]
      intro character member
      simp [member]
    rw [isWord]
    refine ⟨fun isNil => (someRun isNil).elim, fun noRun => ?_⟩
    exact firstRun_eq_nil_iff.mpr fun character member =>
      noRun character (part member)
  · have inUndashed :
        (∀ character ∈ dashes declaration ++ undashed declaration,
          character.isAlphanum = false) ↔
        ∀ character ∈ undashed declaration, character.isAlphanum = false := by
      rw [List.forall_mem_append]
      exact and_iff_right (not_isAlphanum_of_mem_dashes declaration)
    rw [isWord, firstRun_eq_nil_iff, ← inUndashed, dashes_append_undashed]

/-- The word of a flag is a whole run of its declaration. -/
theorem occursWhole_word (declaration : List Char) :
    OccursWhole (word declaration) declaration := by
  rcases word_cases declaration with
    ⟨rest, found, -, isWord⟩ | ⟨-, isWord⟩
  · obtain ⟨before, isSplit, -⟩ := afterShortMark?_eq_some_iff.mp found
    have split : declaration =
        (dashes declaration ++ before ++ ['(', '-']) ++ rest := by
      rw [List.append_assoc, List.append_assoc, List.cons_append,
        List.cons_append, List.nil_append, ← isSplit, dashes_append_undashed]
    rw [isWord, split]
    apply (occursFirst_firstRun rest).occursWhole_behind
    simp
  · have whole : OccursWhole (firstRun (undashed declaration))
        (dashes declaration ++ undashed declaration) := by
      apply (occursFirst_firstRun _).occursWhole_behind
      intro character isLast
      exact not_isAlphanum_of_mem_dashes declaration character
        (List.mem_of_getLast? isLast)
    rwa [← isWord, dashes_append_undashed] at whole

/-- Without a short form, the word of a flag is the first run of its
declaration. -/
theorem occursFirst_word {declaration : List Char}
    (noShortForm : ¬ ['(', '-'] <:+: undashed declaration) :
    OccursFirst (word declaration) declaration := by
  have first := (occursFirst_firstRun (undashed declaration)).behind
    (not_isAlphanum_of_mem_dashes declaration)
  rwa [← word_eq_firstRun noShortForm, dashes_append_undashed] at first

/-- A flag that consists of letters and digits is its own word. -/
theorem word_eq_self {text : List Char}
    (all : ∀ character ∈ text, character.isAlphanum = true) :
    word (longMark.toList ++ text) = text := by
  have noDash : undashed (longMark.toList ++ text) = text := by
    cases text with
    | nil => rfl
    | cons first rest =>
        have notDash : first ≠ '-' := by
          rintro rfl
          exact absurd (all '-' List.mem_cons_self) (by decide)
        simp [undashed, longMark, notDash]
  have noShortForm : ¬ ['(', '-'] <:+: undashed (longMark.toList ++ text) := by
    rw [noDash]
    intro marked
    have isAlphanum := all '(' (marked.subset (by simp))
    exact absurd isAlphanum (by decide)
  rw [word_eq_firstRun noShortForm, noDash, firstRun_eq_self all]

/-- A recovered flag is two dashes and a word.  The word is a whole run of the
declaration, and the first one where there is no short form; it is empty only if
there is no run at all.  Recovering a recovered flag changes nothing. -/
theorem recover_picks_run (declaration : String) :
    ∃ word : List Char,
      recover declaration = "--" ++ String.ofList word ∧
      (∀ character ∈ word, character.isAlphanum = true) ∧
      (word = [] ↔
        ∀ character ∈ declaration.toList, character.isAlphanum = false) ∧
      (word ≠ [] → OccursWhole word declaration.toList) ∧
      (¬ ['(', '-'] <:+: undashed declaration.toList →
        OccursFirst word declaration.toList) ∧
      recover (recover declaration) = recover declaration := by
  have all : ∀ character ∈ word declaration.toList,
      character.isAlphanum = true :=
    fun _ member => isAlphanum_of_mem_word member
  refine ⟨word declaration.toList, rfl, all, word_eq_nil_iff,
    fun _ => occursWhole_word _, occursFirst_word, ?_⟩
  have again : word (recover declaration).toList = word declaration.toList := by
    rw [recover, String.toList_append, String.toList_ofList]
    exact word_eq_self all
  rw [recover, again, recover]

theorem recover_eq_inj {declaration : String} {word other : List Char}
    (isFlag : recover declaration = "--" ++ String.ofList word)
    (isOther : recover declaration = "--" ++ String.ofList other) :
    word = other := by
  rw [isFlag, String.append_right_inj] at isOther
  simpa using congrArg String.toList isOther

/-- A short form behind a long name with a letter that is not in ASCII, and a
long name that has a dash but no short form. -/
theorem recover_picks_run_of_samples :
    recover "--größe2(-g)" = "--g" ∧
      OccursWhole ['g'] "--größe2(-g)".toList ∧ recover "--g" = "--g" ∧
    recover "--dry-run(n)" = "--dry" ∧
      OccursFirst ['d', 'r', 'y'] "--dry-run(n)".toList := by
  obtain ⟨short, isShort, -, -, whole, -, stable⟩ :=
    recover_picks_run "--größe2(-g)"
  obtain ⟨long, isLong, -, -, -, first, -⟩ := recover_picks_run "--dry-run(n)"
  have shortRecovered : recover "--größe2(-g)" = "--g" := by decide
  have longRecovered : recover "--dry-run(n)" = "--dry" := by decide
  rw [shortRecovered] at stable
  have shortWord : short = ['g'] := recover_eq_inj isShort shortRecovered
  have longWord : long = ['d', 'r', 'y'] := recover_eq_inj isLong longRecovered
  subst shortWord longWord
  exact ⟨shortRecovered, whole (by simp), stable, longRecovered,
    first (by decide)⟩

end Flag

end PipeGraph
