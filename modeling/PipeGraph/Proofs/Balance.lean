import PipeGraph.Proofs.Readability

/-!
# Parentheses match

Source text takes over the words of a tree and puts parentheses around its
parts, so its parentheses match as soon as those of the words do.  The names of
parameters cannot upset this.  Of a name nothing reaches the text but three
dots, or two dashes and a word of letters and digits.  To say what comes from
where, the text is cut into pieces that remember it.
-/

namespace PipeGraph

/-! ## Balanced texts -/

/-- Read from the left, a text never closes a parenthesis that it has not
opened, and in the end it has closed all of them. -/
structure Balanced (text : String) : Prop where
  opened : ∀ length, (text.toList.take length).count ')' ≤
    (text.toList.take length).count '('
  closed : text.toList.count ')' = text.toList.count '('

instance (text : String) : Decidable (Balanced text) :=
  decidable_of_iff
    ((∀ length < text.toList.length, (text.toList.take length).count ')' ≤
        (text.toList.take length).count '(') ∧
      text.toList.count ')' = text.toList.count '(')
    ⟨fun ⟨opened, closed⟩ => ⟨fun length => by
        rcases Nat.lt_or_ge length text.toList.length with inside | beyond
        · exact opened length inside
        · rw [List.take_of_length_le beyond]
          exact Nat.le_of_eq closed, closed⟩,
      fun balanced => ⟨fun length _ => balanced.opened length,
        balanced.closed⟩⟩

/-- A text without any parenthesis is balanced. -/
theorem balanced_of_forall_ne {text : String}
    (none : ∀ character ∈ text.toList, character ≠ '(' ∧ character ≠ ')') :
    Balanced text := by
  have noOpening : '(' ∉ text.toList := fun member => (none '(' member).1 rfl
  have noClosing : ')' ∉ text.toList := fun member => (none ')' member).2 rfl
  refine ⟨fun length => ?_, ?_⟩
  · rw [List.count_eq_zero.mpr fun member =>
      noClosing (List.mem_of_mem_take member)]
    exact Nat.zero_le _
  · rw [List.count_eq_zero.mpr noClosing, List.count_eq_zero.mpr noOpening]

theorem Balanced.append {first second : String} (firstBalanced : Balanced first)
    (secondBalanced : Balanced second) : Balanced (first ++ second) := by
  refine ⟨fun length => ?_, ?_⟩
  · rw [String.toList_append, List.take_append, List.count_append,
      List.count_append]
    exact Nat.add_le_add (firstBalanced.opened _) (secondBalanced.opened _)
  · rw [String.toList_append, List.count_append, List.count_append,
      firstBalanced.closed, secondBalanced.closed]

/-- Inside a new pair of parentheses one more is open all the time. -/
theorem Balanced.parenthesize {source : String} (balanced : Balanced source) :
    Balanced (SyntaxTree.parenthesize source) := by
  have text : (SyntaxTree.parenthesize source).toList =
      '(' :: (source.toList ++ [')']) := by
    simp [SyntaxTree.parenthesize]
  refine ⟨fun length => ?_, ?_⟩
  · rw [text]
    cases length with
    | zero => simp
    | succ length =>
        have inside := balanced.opened length
        have closing : ([')'].take (length - source.toList.length)).count ')' ≤
            [')'].count ')' :=
          (List.take_sublist _ _).count_le ')'
        rw [List.take_succ_cons, List.take_append, List.count_cons_self,
          List.count_cons_of_ne (by decide), List.count_append,
          List.count_append]
        have one : [')'].count ')' = 1 := rfl
        omega
  · rw [text]
    simp [balanced.closed]

theorem Operator.balanced_token (operator : Operator) :
    Balanced operator.token := by
  apply balanced_of_forall_ne
  cases operator <;> simp [Operator.token]

/-! ## What names leave in the text -/

/-- What the name of a parameter leaves in source text. -/
def nameText (name : String) : String :=
  if name = restMarker then spreadToken
  else if Flag.isDeclaration name then Flag.recover name
  else ""

/-- The texts that a name can leave: nothing, three dots, or two dashes and
then only ASCII letters and digits. -/
inductive IsNameText : String → Prop
  | nothing : IsNameText ""
  | spread : IsNameText "..."
  | flag {word : List Char} :
      (∀ character ∈ word, character.isAlphanum = true) →
      IsNameText ("--" ++ String.ofList word)

/-- Whatever a name is, it leaves one of these texts. -/
theorem isNameText_nameText (name : String) : IsNameText (nameText name) := by
  unfold nameText
  split
  · exact .spread
  · split
    · exact .flag fun _ member => Flag.isAlphanum_of_mem_word member
    · exact .nothing

theorem IsNameText.balanced {text : String} (isNameText : IsNameText text) :
    Balanced text := by
  cases isNameText with
  | nothing => decide
  | spread => decide
  | flag alphanumeric =>
      refine Balanced.append (by decide) (balanced_of_forall_ne ?_)
      intro character member
      rw [String.toList_ofList] at member
      have isAlphanum := alphanumeric character member
      constructor <;> (rintro rfl; exact absurd isAlphanum (by decide))

theorem Flag.recover_ne_empty (declaration : String) :
    recover declaration ≠ "" := by
  intro isEmpty
  have characters := congrArg String.toList isEmpty
  simp [recover, longMark] at characters

namespace SyntaxTree

/-- Without a value, a parameter is written as what its name leaves. -/
theorem renderParameter_none (name : String) :
    renderParameter name none =
      if nameText name = "" then "" else " " ++ nameText name := by
  by_cases isRest : name = restMarker
  · simp [renderParameter, nameText, isRest, spreadToken]
  · by_cases isFlag : Flag.isDeclaration name
    · simp [renderParameter, nameText, isRest, isFlag, Flag.recover_ne_empty]
    · simp [renderParameter, nameText, isRest, isFlag]

/-- With a value, what its name leaves stands in front of the value, and an
equals sign between them if the name declares a flag. -/
theorem renderParameter_some (name value : String) :
    renderParameter name (some value) =
      " " ++ nameText name ++
        (if Flag.isDeclaration name then "=" else "") ++
        parenthesize value := by
  by_cases isRest : name = restMarker
  · have notFlag : Flag.isDeclaration restMarker = false := by decide
    simp [renderParameter, nameText, isRest, notFlag]
  · by_cases isFlag : Flag.isDeclaration name
    · simp [renderParameter, nameText, isRest, isFlag]
    · simp [renderParameter, nameText, isRest, isFlag]

theorem balanced_renderParameter_none (name : String) :
    Balanced (renderParameter name none) := by
  rw [renderParameter_none]
  split
  · decide
  · exact Balanced.append (by decide) (isNameText_nameText name).balanced

theorem balanced_renderParameter_some (name : String) {value : String}
    (balanced : Balanced value) :
    Balanced (renderParameter name (some value)) := by
  have signBalanced :
      Balanced (if Flag.isDeclaration name then "=" else "") := by
    split <;> decide
  rw [renderParameter_some]
  exact (((by decide : Balanced " ").append
    (isNameText_nameText name).balanced).append signBalanced).append
      balanced.parenthesize

mutual

/-- If the words of a tree are balanced, so is its source text. -/
theorem balanced_render (tree : SyntaxTree)
    (balanced : ∀ word ∈ tree.words, Balanced word) :
    Balanced tree.render := by
  match tree with
  | command name parameters =>
      simp only [words, List.forall_mem_cons] at balanced
      rw [render]
      exact balanced.1.append (balanced_renderParameters parameters balanced.2)
  | pipe left right =>
      simp only [words, List.forall_mem_append] at balanced
      rw [render]
      have leftBalanced := balanced_render left balanced.1
      have rightBalanced := balanced_render right balanced.2
      exact (leftBalanced.parenthesize.append (by decide)).append
        rightBalanced.parenthesize
  | literal literalType text =>
      simp only [words, List.forall_mem_cons] at balanced
      rw [render]
      exact balanced.1
  | operation operator left right =>
      simp only [words, List.forall_mem_append] at balanced
      rw [render]
      have leftBalanced := balanced_render left balanced.1
      have rightBalanced := balanced_render right balanced.2
      exact (((leftBalanced.parenthesize.append (by decide)).append
        operator.balanced_token).append (by decide)).append
          rightBalanced.parenthesize

/-- If the words in the parameters of a command are balanced, so is the text of
the parameters, whatever their names are. -/
theorem balanced_renderParameters
    (parameters : List (String × Option SyntaxTree))
    (balanced : ∀ word ∈ parameterWords parameters, Balanced word) :
    Balanced (renderParameters parameters) := by
  match parameters with
  | [] =>
      rw [renderParameters]
      decide
  | (name, none) :: others =>
      simp only [parameterWords] at balanced
      rw [renderParameters]
      exact (balanced_renderParameter_none name).append
        (balanced_renderParameters others balanced)
  | (name, some value) :: others =>
      simp only [parameterWords, List.forall_mem_append] at balanced
      rw [renderParameters]
      have valueBalanced := balanced_render value balanced.1
      exact (balanced_renderParameter_some name valueBalanced).append
        (balanced_renderParameters others balanced.2)

end

end SyntaxTree

/-! ## Where the text comes from -/

/-- The characters that join the parts of source text. -/
inductive Mark where
  | opening
  | closing
  | bar
  | blank
  | equals
  deriving DecidableEq, Repr

def Mark.text : Mark → String
  | opening => "("
  | closing => ")"
  | bar => "|"
  | blank => " "
  | equals => "="

/-- A piece of source text, by what it comes from. -/
inductive Piece where
  /-- A character that belongs to a construct. -/
  | mark (sign : Mark)
  | operator (applied : Operator)
  /-- The name of a command or the text of a literal. -/
  | word (text : String)
  /-- The name of a parameter. -/
  | parameter (name : String)
  deriving DecidableEq, Repr

namespace Piece

def text : Piece → String
  | mark sign => sign.text
  | operator applied => applied.token
  | word text => text
  | parameter name => nameText name

/-- The word that a piece stands for. -/
def word? : Piece → Option String
  | word text => some text
  | _ => none

/-- A piece in parentheses. -/
def enclose (pieces : List Piece) : List Piece :=
  mark .opening :: (pieces ++ [mark .closing])

/-- The pieces of one parameter, given those of its value. -/
def ofParameter (name : String) : Option (List Piece) → List Piece
  | none =>
      if nameText name = "" then [parameter name]
      else [mark .blank, parameter name]
  | some value =>
      [mark .blank, parameter name] ++
        (if Flag.isDeclaration name then [mark .equals] else []) ++
        enclose value

end Piece

namespace SyntaxTree

mutual

/-- The pieces that the source text of a tree consists of. -/
def pieces : SyntaxTree → List Piece
  | command name parameters => .word name :: parameterPieces parameters
  | pipe left right =>
      Piece.enclose left.pieces ++ [.mark .bar] ++ Piece.enclose right.pieces
  | literal _ text => [.word text]
  | operation operator left right =>
      Piece.enclose left.pieces ++
        [.mark .blank, .operator operator, .mark .blank] ++
        Piece.enclose right.pieces

def parameterPieces : List (String × Option SyntaxTree) → List Piece
  | [] => []
  | (name, none) :: others =>
      Piece.ofParameter name none ++ parameterPieces others
  | (name, some value) :: others =>
      Piece.ofParameter name (some value.pieces) ++ parameterPieces others

end

theorem join_enclose {pieces : List Piece} {source : String}
    (written : String.join (pieces.map Piece.text) = source) :
    String.join ((Piece.enclose pieces).map Piece.text) =
      parenthesize source := by
  simp [Piece.enclose, Piece.text, Mark.text, parenthesize, written,
    String.append_assoc]

theorem join_ofParameter_none (name : String) :
    String.join ((Piece.ofParameter name none).map Piece.text) =
      renderParameter name none := by
  rw [renderParameter_none, Piece.ofParameter]
  split
  · rename_i leavesNothing
    simp [Piece.text, leavesNothing]
  · simp [Piece.text, Mark.text]

theorem join_ofParameter_some (name : String) {pieces : List Piece}
    {source : String}
    (written : String.join (pieces.map Piece.text) = source) :
    String.join ((Piece.ofParameter name (some pieces)).map Piece.text) =
      renderParameter name (some source) := by
  rw [renderParameter_some, Piece.ofParameter, List.map_append,
    String.join_append, join_enclose written]
  split <;> simp [Piece.text, Mark.text, String.append_assoc]

mutual

/-- Put together, the pieces of a tree are its source text. -/
theorem join_pieces (tree : SyntaxTree) :
    String.join (tree.pieces.map Piece.text) = tree.render := by
  match tree with
  | command name parameters =>
      simp [pieces, render, Piece.text, join_parameterPieces parameters]
  | pipe left right =>
      simp [pieces, render, Piece.text, Mark.text,
        join_enclose (join_pieces left), join_enclose (join_pieces right),
        String.append_assoc]
  | literal literalType text => simp [pieces, render, Piece.text]
  | operation operator left right =>
      simp [pieces, render, Piece.text, Mark.text,
        join_enclose (join_pieces left), join_enclose (join_pieces right),
        String.append_assoc]

theorem join_parameterPieces
    (parameters : List (String × Option SyntaxTree)) :
    String.join ((parameterPieces parameters).map Piece.text) =
      renderParameters parameters := by
  match parameters with
  | [] => rfl
  | (name, none) :: others =>
      rw [parameterPieces, renderParameters, List.map_append,
        String.join_append, join_ofParameter_none,
        join_parameterPieces others]
  | (name, some value) :: others =>
      rw [parameterPieces, renderParameters, List.map_append,
        String.join_append, join_ofParameter_some name (join_pieces value),
        join_parameterPieces others]

end

theorem words_enclose (pieces : List Piece) :
    (Piece.enclose pieces).filterMap Piece.word? =
      pieces.filterMap Piece.word? := by
  simp [Piece.enclose, List.filterMap_cons, Piece.word?]

theorem words_ofParameter (name : String) (pieces : Option (List Piece)) :
    (Piece.ofParameter name pieces).filterMap Piece.word? =
      (pieces.getD []).filterMap Piece.word? := by
  cases pieces with
  | none =>
      rw [Piece.ofParameter]
      split <;> simp [Piece.word?]
  | some value =>
      rw [Piece.ofParameter, List.filterMap_append, words_enclose]
      split <;> simp [Piece.word?]

mutual

/-- The pieces that are words are those of the tree, in order. -/
theorem words_pieces (tree : SyntaxTree) :
    tree.pieces.filterMap Piece.word? = tree.words := by
  match tree with
  | command name parameters =>
      simp [pieces, words, Piece.word?, words_parameterPieces parameters]
  | pipe left right =>
      simp [pieces, words, List.filterMap_cons, Piece.word?, words_enclose,
        words_pieces left, words_pieces right]
  | literal literalType text => simp [pieces, words, Piece.word?]
  | operation operator left right =>
      simp [pieces, words, List.filterMap_cons, Piece.word?, words_enclose,
        words_pieces left, words_pieces right]

theorem words_parameterPieces
    (parameters : List (String × Option SyntaxTree)) :
    (parameterPieces parameters).filterMap Piece.word? =
      parameterWords parameters := by
  match parameters with
  | [] => rfl
  | (name, none) :: others =>
      simp [parameterPieces, parameterWords, words_ofParameter,
        words_parameterPieces others]
  | (name, some value) :: others =>
      simp [parameterPieces, parameterWords, words_ofParameter,
        words_pieces value, words_parameterPieces others]

end

/-- If the words of a tree are balanced, so is its source text, whatever the
names of its parameters are: the text consists of marks, operators and these
words, and of pieces that the names leave, none of which is more than three dots
or a flag of letters and digits. -/
theorem render_names_harmless (tree : SyntaxTree) :
    ((∀ word ∈ tree.words, Balanced word) → Balanced tree.render) ∧
      String.join (tree.pieces.map Piece.text) = tree.render ∧
      tree.pieces.filterMap Piece.word? = tree.words ∧
      ∀ name, IsNameText (Piece.parameter name).text :=
  ⟨balanced_render tree, join_pieces tree, words_pieces tree,
    isNameText_nameText⟩

/-- A tree whose parameter names are full of parentheses. -/
def hostileTree : SyntaxTree :=
  pipe (literal .string "(a)(b)")
    (command "f(x)"
      [("--x)((-)", some (operation .power (literal .int "1")
          (command "g" [(")))", some (literal .int "2")), ("((", none)]))),
        ("--)(-(q)(", none), ("...rest", none), ("...rest)", some (command ""
          [("--(", none)]))])

theorem hostileTree_names_harmless :
    (∀ word ∈ hostileTree.words, Balanced word) ∧
      Balanced hostileTree.render ∧
      hostileTree.render =
        "((a)(b))|(f(x) --x=((1) ** (g (2))) --q ... ( --))" := by
  have balanced : ∀ word ∈ hostileTree.words, Balanced word := by
    decide
  exact ⟨balanced, (render_names_harmless hostileTree).1 balanced, by decide⟩

end SyntaxTree

end PipeGraph
