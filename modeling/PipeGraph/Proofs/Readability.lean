import PipeGraph.Proofs.Reading

/-!
# Source text can be read in one way only

Text is compared from the left.  A word ends where a character stands that no
word can hold, and a reading ends with its last word or parenthesis.  So equal
texts fall into equal parts, and where no word of a tree holds a parenthesis
or a blank, no two readings have the same text.
-/

namespace PipeGraph

/-! ## Where words and readings end -/

/-- No parenthesis and no blank interrupts the text. -/
def PlainText (text : String) : Prop :=
  ∀ character ∈ text.toList,
    character ≠ '(' ∧ character ≠ ')' ∧ character ≠ ' '

/-- A text that can stand as a flag: it starts with a dash, and nothing in it
could be taken for the end of a flag. -/
def FlagText (text : String) : Prop :=
  text.toList.head? = some '-' ∧
    ∀ character ∈ text.toList,
      character ≠ '=' ∧ character ≠ ')' ∧ character ≠ ' '

/-- What may follow a reading: nothing, or the parenthesis that closes it. -/
def Closes (rest : List Char) : Prop :=
  ∀ character ∈ rest.head?, character = ')'

/-- What may follow an argument: the blank before the next one, or what may
follow a reading. -/
def Breaks (rest : List Char) : Prop :=
  ∀ character ∈ rest.head?, character = ')' ∨ character = ' '

mutual

/-- All words of a reading can be told from what stands around them. -/
def Reading.Plain : Reading → Prop
  | .atom head arguments => PlainText head ∧ argumentsPlain arguments
  | .pipe left right => left.Plain ∧ right.Plain
  | .operation _ left right => left.Plain ∧ right.Plain

def argumentsPlain : List Argument → Prop
  | [] => True
  | argument :: others => argument.Plain ∧ argumentsPlain others

def Argument.Plain : Argument → Prop
  | .spread value => valuePlain value
  | .flag token value => FlagText token ∧ valuePlain value
  | .positional value => value.Plain

def valuePlain : Option Reading → Prop
  | none => True
  | some value => value.Plain

end

theorem closes_cons (rest : List Char) : Closes (')' :: rest) := by
  simp [Closes]

theorem breaks_argumentsOnto (arguments : List Argument) {rest : List Char}
    (closes : Closes rest) : Breaks (argumentsOnto arguments rest) := by
  cases arguments with
  | nil =>
      intro character first
      exact .inl (closes character first)
  | cons argument others => simp [argumentsOnto, Breaks]

/-- Two words end at the same place, if none of their letters can stand right
behind them. -/
theorem word_inj {α : Type} {isLetter : α → Prop}
    {word otherWord rest otherRest : List α}
    (letters : ∀ character ∈ word, isLetter character)
    (otherLetters : ∀ character ∈ otherWord, isLetter character)
    (stops : ∀ character ∈ rest.head?, ¬ isLetter character)
    (otherStops : ∀ character ∈ otherRest.head?, ¬ isLetter character)
    (same : word ++ rest = otherWord ++ otherRest) :
    word = otherWord ∧ rest = otherRest := by
  induction word generalizing otherWord with
  | nil =>
      cases otherWord with
      | nil => exact ⟨rfl, same⟩
      | cons character others =>
          simp only [List.nil_append] at same
          exact (stops character (by simp [same])
            (otherLetters character (by simp))).elim
  | cons character others ih =>
      cases otherWord with
      | nil =>
          simp only [List.nil_append] at same
          exact (otherStops character (by simp [← same])
            (letters character (by simp))).elim
      | cons otherCharacter otherOthers =>
          simp only [List.cons_append, List.cons.injEq] at same
          simp only [List.forall_mem_cons] at letters otherLetters
          obtain ⟨othersEq, restEq⟩ := ih letters.2 otherLetters.2 same.2
          exact ⟨by rw [same.1, othersEq], restEq⟩

/-! ## Unique readability -/

theorem Operator.token_inj {first second : Operator}
    (same : first.token = second.token) : first = second := by
  have found := Operator.ofToken?_token first
  rw [same, Operator.ofToken?_token] at found
  exact (Option.some.inj found).symm

theorem Operator.ne_blank_of_mem_token (operator : Operator) :
    ∀ character ∈ operator.token.toList, character ≠ ' ' := by
  cases operator <;> simp [Operator.token]

/-- The characters by which the forms of an argument differ at once. -/
def Argument.mark : Argument → Char
  | .spread _ => '.'
  | .flag _ _ => '-'
  | .positional _ => '('

theorem Argument.head?_onto {argument : Argument} (plain : argument.Plain)
    (rest : List Char) :
    (argument.onto rest).head? = some argument.mark := by
  cases argument with
  | spread value => rfl
  | flag token value =>
      simp only [Argument.Plain] at plain
      obtain ⟨⟨dash, _⟩, _⟩ := plain
      simp [Argument.onto, Argument.mark, List.head?_append, dash]
  | positional value => rfl

/-- The text of an atom does not open with a parenthesis. -/
theorem Reading.head?_atom_ne {head : String} {arguments : List Argument}
    {rest : List Char} (plain : PlainText head) (closes : Closes rest) :
    ((Reading.atom head arguments).onto rest).head? ≠ some '(' := by
  intro opens
  simp only [Reading.onto, List.head?_append, Option.or_eq_some_iff] at opens
  rcases opens with inHead | ⟨_, behind⟩
  · exact (plain '(' (List.mem_of_head? inHead)).1 rfl
  · rcases breaks_argumentsOnto arguments closes '(' behind with close | blank
    · exact absurd close (by decide)
    · exact absurd blank (by decide)

/-- Behind the head of an atom stands the blank before its arguments, or what
may follow the atom. -/
theorem head_stops (arguments : List Argument) {rest : List Char}
    (closes : Closes rest) :
    ∀ character ∈ (argumentsOnto arguments rest).head?,
      ¬ (character ≠ '(' ∧ character ≠ ')' ∧ character ≠ ' ') := by
  intro character behind
  rcases breaks_argumentsOnto arguments closes character behind with
    rfl | rfl <;> simp

/-- Behind a flag stands its value, or what may follow the argument. -/
theorem flag_stops (value : Option Reading) {rest : List Char}
    (breaks : Breaks rest) :
    ∀ character ∈ (valueOnto ['='] value rest).head?,
      ¬ (character ≠ '=' ∧ character ≠ ')' ∧ character ≠ ' ') := by
  intro character behind
  cases value with
  | none => rcases breaks character behind with rfl | rfl <;> simp
  | some value =>
      simp only [valueOnto, List.cons_append, List.head?_cons,
        Option.mem_def, Option.some.injEq] at behind
      simp [← behind]

/-- A value cannot be taken for what may follow an argument. -/
theorem not_breaks_valueOnto {lead : List Char}
    (leads : ¬ Breaks (lead ++ ['('])) (value : Reading) (rest : List Char) :
    ¬ Breaks (valueOnto lead (some value) rest) := by
  cases lead with
  | nil => simp [valueOnto, Breaks]
  | cons character others => simpa [valueOnto, Breaks] using leads

mutual

/-- The text of a reading tells the reading and where it ends. -/
theorem Reading.onto_inj (first second : Reading) {rest otherRest : List Char}
    (plain : first.Plain) (otherPlain : second.Plain)
    (closes : Closes rest) (otherCloses : Closes otherRest)
    (same : first.onto rest = second.onto otherRest) :
    first = second ∧ rest = otherRest := by
  match first, second with
  | .atom head arguments, .atom otherHead otherArguments =>
      simp only [Reading.Plain] at plain otherPlain
      simp only [Reading.onto] at same
      obtain ⟨headEq, behindEq⟩ := word_inj plain.1 otherPlain.1
        (head_stops arguments closes) (head_stops otherArguments otherCloses)
        same
      obtain ⟨argumentsEq, restEq⟩ := argumentsOnto_inj arguments
        otherArguments plain.2 otherPlain.2 closes otherCloses behindEq
      rw [String.toList_inj.mp headEq, argumentsEq]
      exact ⟨rfl, restEq⟩
  | .atom head arguments, .pipe left right =>
      simp only [Reading.Plain] at plain
      exact (Reading.head?_atom_ne plain.1 closes
        (by rw [same, Reading.onto, List.head?_cons])).elim
  | .atom head arguments, .operation operator left right =>
      simp only [Reading.Plain] at plain
      exact (Reading.head?_atom_ne plain.1 closes
        (by rw [same, Reading.onto, List.head?_cons])).elim
  | .pipe left right, .atom head arguments =>
      simp only [Reading.Plain] at otherPlain
      exact (Reading.head?_atom_ne otherPlain.1 otherCloses
        (by rw [← same, Reading.onto, List.head?_cons])).elim
  | .operation operator left right, .atom head arguments =>
      simp only [Reading.Plain] at otherPlain
      exact (Reading.head?_atom_ne otherPlain.1 otherCloses
        (by rw [← same, Reading.onto, List.head?_cons])).elim
  | .pipe left right, .pipe otherLeft otherRight =>
      simp only [Reading.Plain] at plain otherPlain
      simp only [Reading.onto, List.cons.injEq, true_and] at same
      obtain ⟨leftEq, behindLeft⟩ := Reading.onto_inj left otherLeft
        plain.1 otherPlain.1 (closes_cons _) (closes_cons _) same
      simp only [List.cons.injEq, true_and] at behindLeft
      obtain ⟨rightEq, behindRight⟩ := Reading.onto_inj right otherRight
        plain.2 otherPlain.2 (closes_cons _) (closes_cons _) behindLeft
      rw [leftEq, rightEq]
      exact ⟨rfl, (List.cons.inj behindRight).2⟩
  | .pipe left right, .operation operator otherLeft otherRight =>
      simp only [Reading.Plain] at plain otherPlain
      simp only [Reading.onto, List.cons.injEq, true_and] at same
      obtain ⟨_, behindLeft⟩ := Reading.onto_inj left otherLeft
        plain.1 otherPlain.1 (closes_cons _) (closes_cons _) same
      -- behind equal left sides stands a bar here and a blank there
      simp at behindLeft
  | .operation operator left right, .pipe otherLeft otherRight =>
      simp only [Reading.Plain] at plain otherPlain
      simp only [Reading.onto, List.cons.injEq, true_and] at same
      obtain ⟨_, behindLeft⟩ := Reading.onto_inj left otherLeft
        plain.1 otherPlain.1 (closes_cons _) (closes_cons _) same
      simp at behindLeft
  | .operation operator left right,
    .operation otherOperator otherLeft otherRight =>
      simp only [Reading.Plain] at plain otherPlain
      simp only [Reading.onto, List.cons.injEq, true_and] at same
      obtain ⟨leftEq, behindLeft⟩ := Reading.onto_inj left otherLeft
        plain.1 otherPlain.1 (closes_cons _) (closes_cons _) same
      simp only [List.cons.injEq, true_and] at behindLeft
      obtain ⟨tokenEq, behindToken⟩ := word_inj
        operator.ne_blank_of_mem_token otherOperator.ne_blank_of_mem_token
        (by simp) (by simp) behindLeft
      simp only [List.cons.injEq, true_and] at behindToken
      obtain ⟨rightEq, behindRight⟩ := Reading.onto_inj right otherRight
        plain.2 otherPlain.2 (closes_cons _) (closes_cons _) behindToken
      have operatorEq := Operator.token_inj (String.toList_inj.mp tokenEq)
      rw [leftEq, operatorEq, rightEq]
      exact ⟨rfl, (List.cons.inj behindRight).2⟩

theorem argumentsOnto_inj (first second : List Argument)
    {rest otherRest : List Char}
    (plain : argumentsPlain first) (otherPlain : argumentsPlain second)
    (closes : Closes rest) (otherCloses : Closes otherRest)
    (same : argumentsOnto first rest = argumentsOnto second otherRest) :
    first = second ∧ rest = otherRest := by
  match first, second with
  | [], [] => exact ⟨rfl, same⟩
  | [], otherArgument :: otherOthers =>
      -- the blank before an argument cannot close a reading
      simp only [argumentsOnto] at same
      exact absurd (closes ' ' (by simp [same])) (by decide)
  | argument :: others, [] =>
      simp only [argumentsOnto] at same
      exact absurd (otherCloses ' ' (by simp [← same])) (by decide)
  | argument :: others, otherArgument :: otherOthers =>
      simp only [argumentsPlain] at plain otherPlain
      simp only [argumentsOnto, List.cons.injEq, true_and] at same
      obtain ⟨argumentEq, behindEq⟩ := Argument.onto_inj argument
        otherArgument plain.1 otherPlain.1
        (breaks_argumentsOnto others closes)
        (breaks_argumentsOnto otherOthers otherCloses) same
      obtain ⟨othersEq, restEq⟩ := argumentsOnto_inj others otherOthers
        plain.2 otherPlain.2 closes otherCloses behindEq
      rw [argumentEq, othersEq]
      exact ⟨rfl, restEq⟩

theorem Argument.onto_inj (first second : Argument)
    {rest otherRest : List Char}
    (plain : first.Plain) (otherPlain : second.Plain)
    (breaks : Breaks rest) (otherBreaks : Breaks otherRest)
    (same : first.onto rest = second.onto otherRest) :
    first = second ∧ rest = otherRest := by
  -- the marks leave only the cases in which both arguments have one form
  have sameMark : first.mark = second.mark := by
    have heads := congrArg List.head? same
    rw [Argument.head?_onto plain, Argument.head?_onto otherPlain] at heads
    exact Option.some.inj heads
  match first, second with
  | .spread value, .spread otherValue =>
      simp only [Argument.Plain] at plain otherPlain
      simp only [Argument.onto, List.cons.injEq, true_and] at same
      obtain ⟨valueEq, restEq⟩ := valueOnto_inj [] value otherValue
        (by simp [Breaks]) plain otherPlain breaks otherBreaks same
      rw [valueEq]
      exact ⟨rfl, restEq⟩
  | .flag token value, .flag otherToken otherValue =>
      simp only [Argument.Plain] at plain otherPlain
      simp only [Argument.onto] at same
      obtain ⟨tokenEq, behindToken⟩ := word_inj plain.1.2 otherPlain.1.2
        (flag_stops value breaks) (flag_stops otherValue otherBreaks) same
      obtain ⟨valueEq, restEq⟩ := valueOnto_inj ['='] value otherValue
        (by simp [Breaks]) plain.2 otherPlain.2 breaks otherBreaks behindToken
      rw [String.toList_inj.mp tokenEq, valueEq]
      exact ⟨rfl, restEq⟩
  | .positional value, .positional otherValue =>
      simp only [Argument.Plain] at plain otherPlain
      simp only [Argument.onto, List.cons.injEq, true_and] at same
      obtain ⟨valueEq, restEq⟩ := Reading.onto_inj value otherValue plain
        otherPlain (closes_cons rest) (closes_cons otherRest) same
      rw [valueEq]
      exact ⟨rfl, (List.cons.inj restEq).2⟩

theorem valueOnto_inj (lead : List Char) (first second : Option Reading)
    {rest otherRest : List Char}
    (leads : ¬ Breaks (lead ++ ['(']))
    (plain : valuePlain first) (otherPlain : valuePlain second)
    (breaks : Breaks rest) (otherBreaks : Breaks otherRest)
    (same : valueOnto lead first rest = valueOnto lead second otherRest) :
    first = second ∧ rest = otherRest := by
  match first, second with
  | none, none => exact ⟨rfl, same⟩
  | none, some otherValue =>
      exact (not_breaks_valueOnto leads otherValue otherRest
        (same ▸ breaks)).elim
  | some value, none =>
      exact (not_breaks_valueOnto leads value rest
        (same ▸ otherBreaks)).elim
  | some value, some otherValue =>
      simp only [valuePlain] at plain otherPlain
      simp only [valueOnto, List.append_cancel_left_eq, List.cons.injEq,
        true_and] at same
      obtain ⟨valueEq, restEq⟩ := Reading.onto_inj value otherValue plain
        otherPlain (closes_cons rest) (closes_cons otherRest) same
      rw [valueEq]
      exact ⟨rfl, (List.cons.inj restEq).2⟩

end

/-! ## Trees with plain words -/

theorem Flag.isAlphanum_of_mem_word {declaration : List Char}
    {character : Char} (member : character ∈ word declaration) :
    character.isAlphanum = true := by
  simp only [word] at member
  split at member
  · exact Text.isAlphanum_of_mem_firstRun member
  · exact Text.isAlphanum_of_mem_firstRun member
  · rename_i short _ found
    obtain ⟨rest, _, rfl⟩ := Option.map_eq_some_iff.mp found
    exact Text.isAlphanum_of_mem_firstRun member

theorem Flag.flagText_recover (name : String) : FlagText (recover name) := by
  refine ⟨by simp [recover, longMark], ?_⟩
  intro character member
  simp only [recover, longMark, String.toList_append, String.toList_ofList,
    List.mem_append] at member
  rcases member with inMark | inWord
  · have isDash : character = '-' := by simpa using inMark
    subst isDash
    decide
  · have alphanumeric := Flag.isAlphanum_of_mem_word inWord
    refine ⟨?_, ?_, ?_⟩ <;>
      (rintro rfl; exact absurd alphanumeric (by decide))

theorem argumentsPlain_append {arguments others : List Argument}
    (plain : argumentsPlain arguments) (othersPlain : argumentsPlain others) :
    argumentsPlain (arguments ++ others) := by
  induction arguments with
  | nil => exact othersPlain
  | cons argument arguments ih =>
      simp only [argumentsPlain] at plain
      simp only [List.cons_append, argumentsPlain]
      exact ⟨plain.1, ih plain.2⟩

theorem Argument.plain_ofParameter (name : String) {value : Option Reading}
    (plain : valuePlain value) :
    argumentsPlain (Argument.ofParameter name value) := by
  unfold Argument.ofParameter
  split
  · simpa [argumentsPlain, Argument.Plain] using plain
  · split
    · simpa [argumentsPlain, Argument.Plain] using
        ⟨Flag.flagText_recover name, plain⟩
    · cases value with
      | none => simp [argumentsPlain]
      | some value =>
          simpa [argumentsPlain, Argument.Plain, valuePlain] using plain

namespace SyntaxTree

mutual

/-- A tree with plain words has a plain reading: its flags are plain in any
case. -/
theorem plain_erase (tree : SyntaxTree)
    (plain : ∀ word ∈ tree.words, PlainText word) : tree.erase.Plain := by
  match tree with
  | command name parameters =>
      simp only [words, List.forall_mem_cons] at plain
      simp only [erase, Reading.Plain]
      exact ⟨plain.1, plain_eraseParameters parameters plain.2⟩
  | pipe left right =>
      simp only [words, List.forall_mem_append] at plain
      simp only [erase, Reading.Plain]
      exact ⟨plain_erase left plain.1, plain_erase right plain.2⟩
  | literal literalType text =>
      simp only [words, List.forall_mem_cons] at plain
      simp only [erase, Reading.Plain, argumentsPlain]
      exact ⟨plain.1, trivial⟩
  | operation operator left right =>
      simp only [words, List.forall_mem_append] at plain
      simp only [erase, Reading.Plain]
      exact ⟨plain_erase left plain.1, plain_erase right plain.2⟩

theorem plain_eraseParameters
    (parameters : List (String × Option SyntaxTree))
    (plain : ∀ word ∈ parameterWords parameters, PlainText word) :
    argumentsPlain (eraseParameters parameters) := by
  match parameters with
  | [] => simp [eraseParameters, argumentsPlain]
  | (name, none) :: others =>
      simp only [parameterWords] at plain
      rw [eraseParameters]
      exact argumentsPlain_append
        (Argument.plain_ofParameter name (by simp [valuePlain]))
        (plain_eraseParameters others plain)
  | (name, some value) :: others =>
      simp only [parameterWords, List.forall_mem_append] at plain
      rw [eraseParameters]
      exact argumentsPlain_append
        (Argument.plain_ofParameter name
          (by simpa only [valuePlain] using plain_erase value plain.1))
        (plain_eraseParameters others plain.2)

end

theorem toList_render (tree : SyntaxTree) :
    tree.render.toList = tree.erase.onto [] := by
  rw [← toList_render_append, List.append_nil]

/-- Trees with equal readings have equal source text, and if their words are
plain, trees with equal source text have equal readings. -/
theorem render_readable (first second : SyntaxTree) :
    (first.erase = second.erase → first.render = second.render) ∧
      ((∀ word ∈ first.words, PlainText word) →
        (∀ word ∈ second.words, PlainText word) →
        first.render = second.render → first.erase = second.erase) := by
  constructor
  · intro sameReading
    apply String.toList_injective
    rw [toList_render, toList_render, sameReading]
  · intro plain otherPlain sameText
    have same : first.erase.onto [] = second.erase.onto [] := by
      rw [← toList_render, ← toList_render, sameText]
    exact (Reading.onto_inj first.erase second.erase
      (plain_erase first plain) (plain_erase second otherPlain)
      (by simp [Closes]) (by simp [Closes]) same).1

/-- A tree with every kind of argument, an empty name and a flag whose word is
empty. -/
def sampleTree : SyntaxTree :=
  pipe (operation .add (literal .int "1") (command "" []))
    (command "each"
      [("...rest", some (operation .append (literal .string "a-b")
          (command "range" [("--", some (literal .int "2"))]))),
        ("--help(-h)", none), ("label", none),
        ("closure", some (literal .string ""))])

/-- A tree that differs from the sample tree in everything that source text
leaves out. -/
def respelledTree : SyntaxTree :=
  pipe (operation .add (command "1" [("label", none)]) (literal .float ""))
    (command "each"
      [("...rest", some (operation .append (command "a-b" [])
          (command "range" [("--(-)", some (literal .duration "2"))]))),
        ("--h", none), ("block", some (command "" []))])

theorem sampleTree_readable :
    (∀ word ∈ sampleTree.words, PlainText word) ∧
      (∀ word ∈ respelledTree.words, PlainText word) ∧
      sampleTree.render = respelledTree.render ∧
      sampleTree.erase = respelledTree.erase := by
  have plain : ∀ word ∈ sampleTree.words, PlainText word := by
    simp [sampleTree, words, parameterWords, PlainText]
  have otherPlain : ∀ word ∈ respelledTree.words, PlainText word := by
    simp [respelledTree, words, parameterWords, PlainText]
  have sameText : sampleTree.render = respelledTree.render := by decide
  exact ⟨plain, otherPlain, sameText,
    (render_readable sampleTree respelledTree).2 plain otherPlain sameText⟩

end SyntaxTree

end PipeGraph
