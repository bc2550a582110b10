import Mathlib.Data.List.TakeWhile
import Mathlib.Tactic.FinCases
import Mathlib.Tactic.IntervalCases
import PipeGraph.Json.Parser
import PipeGraph.Proofs.JsonGrammar

/-!
# Reading JSON tokens

Blanks, numerals and strings are read as the grammar writes them.  For each
kind of token there are two facts: what is written in front of a rest is read
and the rest is left, and what is read was written.  Numerals are read for as
long as they go on, so that the first fact asks how the rest starts.
-/

namespace PipeGraph

namespace Json

section Blanks

variable {before text : List Char}

theorem isBlank_iff (character : Char) :
    isBlank character = true ↔ character ∈ [' ', '\t', '\n', '\r'] := by
  simp only [isBlank, Bool.or_eq_true, beq_iff_eq, or_assoc, List.mem_cons,
    List.not_mem_nil, or_false]

theorem skipBlanks_append (blank : Blank before) (text : List Char) :
    skipBlanks (before ++ text) = skipBlanks text := by
  apply List.dropWhile_append_of_pos
  intro character member
  exact (isBlank_iff character).mpr (blank character member)

theorem exists_blank_append_skipBlanks (text : List Char) :
    ∃ before, Blank before ∧ text = before ++ skipBlanks text := by
  refine ⟨text.takeWhile isBlank, ?_, List.takeWhile_append_dropWhile.symm⟩
  intro character member
  exact (isBlank_iff character).mp (List.mem_takeWhile_imp member)

theorem blank_iff_skipBlanks : Blank text ↔ skipBlanks text = [] := by
  rw [skipBlanks, List.dropWhile_eq_nil_iff]
  simp only [Blank, isBlank_iff]

end Blanks

section Numerals

/-- A text that goes on neither with a digit nor with one of some other
characters. -/
def Stops (marks rest : List Char) : Prop :=
  ∀ character ∈ rest.head?, character.isDigit = false ∧ character ∉ marks

theorem Stops.cons {marks : List Char} {first : Char} (others : List Char)
    (notDigit : first.isDigit = false) (notMark : first ∉ marks) :
    Stops marks (first :: others) := by
  intro character isHead
  cases isHead
  exact ⟨notDigit, notMark⟩

theorem Stops.mono {fewer marks rest : List Char} (stops : Stops marks rest)
    (subset : fewer ⊆ marks) : Stops fewer rest := by
  intro character isHead
  exact ⟨(stops character isHead).1,
    fun member => (stops character isHead).2 (subset member)⟩

theorem Stops.takeWhile_isDigit {marks rest : List Char}
    (stops : Stops marks rest) :
    rest.takeWhile Char.isDigit = [] ∧ rest.dropWhile Char.isDigit = rest := by
  cases rest with
  | nil => exact ⟨rfl, rfl⟩
  | cons first others =>
      have notDigit := (stops first rfl).1
      simp [notDigit]

theorem isDigit_digitChar {value : Nat} (small : value < 10) :
    (Nat.digitChar value).isDigit = true ∧
      digitValue (Nat.digitChar value) = value := by
  interval_cases value <;> decide

theorem digitChar_digitValue {digit : Char} (isDigit : digit.isDigit = true) :
    Nat.digitChar (digitValue digit) = digit ∧ digitValue digit < 10 := by
  have bounds : 48 ≤ digit.toNat ∧ digit.toNat ≤ 57 := by
    simpa [Char.isDigit, UInt32.le_iff_toNat_le] using isDigit
  have small : digitValue digit < 10 := by
    have zero : '0'.toNat = 48 := rfl
    simp only [digitValue]
    omega
  refine ⟨?_, small⟩
  apply Char.toNat_inj.mp
  rw [Nat.toNat_digitChar_of_lt_ten small]
  have zero : '0'.toNat = 48 := rfl
  simp only [digitValue]
  omega


variable {marks text rest : List Char} {values : List Nat}

theorem digits_append (written : DigitsWritten values text)
    (stops : Stops marks rest) : digits (text ++ rest) = (values, rest) := by
  obtain ⟨small, rfl⟩ := written
  have allDigits :
      ∀ digit ∈ values.map Nat.digitChar, digit.isDigit = true := by
    intro digit member
    obtain ⟨value, valueMember, rfl⟩ := List.mem_map.mp member
    exact (isDigit_digitChar (small value valueMember)).1
  have sameValues : (values.map Nat.digitChar).map digitValue = values := by
    rw [List.map_map]
    conv_rhs => rw [← List.map_id values]
    apply List.map_congr_left
    intro value member
    exact (isDigit_digitChar (small value member)).2
  rw [digits, List.takeWhile_append_of_pos allDigits,
    List.dropWhile_append_of_pos allDigits, stops.takeWhile_isDigit.1,
    stops.takeWhile_isDigit.2, List.append_nil, sameValues]

theorem exists_of_digits (text : List Char) :
    ∃ body, DigitsWritten (digits text).1 body ∧
      text = body ++ (digits text).2 := by
  have allDigits : ∀ digit ∈ text.takeWhile Char.isDigit,
      Nat.digitChar (digitValue digit) = digit ∧ digitValue digit < 10 := by
    intro digit member
    exact digitChar_digitValue (List.mem_takeWhile_imp member)
  refine ⟨text.takeWhile Char.isDigit, ⟨?_, ?_⟩,
    List.takeWhile_append_dropWhile.symm⟩
  · intro value member
    obtain ⟨digit, digitMember, rfl⟩ := List.mem_map.mp member
    exact (allDigits digit digitMember).2
  · simp only [digits, List.map_map]
    conv_lhs => rw [← List.map_id (text.takeWhile Char.isDigit)]
    apply List.map_congr_left
    intro digit member
    exact (allDigits digit member).1.symm

theorem someDigits?_append (nonempty : values ≠ [])
    (written : DigitsWritten values text) (stops : Stops marks rest) :
    someDigits? (text ++ rest) = some (values, rest) := by
  rw [someDigits?, digits_append written stops]
  split
  · next isNil => cases isNil; contradiction
  · rfl

theorem exists_of_someDigits? (found : someDigits? text = some (values, rest)) :
    ∃ body, values ≠ [] ∧ DigitsWritten values body ∧ text = body ++ rest := by
  obtain ⟨body, written, split⟩ := exists_of_digits text
  rw [someDigits?] at found
  split at found
  · cases found
  · next nonempty =>
      cases found
      refine ⟨body, ?_, written, split⟩
      intro isNil
      exact nonempty _ (Prod.ext isNil rfl)

theorem whole?_append (written : WholeWritten values text)
    (stops : Stops marks rest) :
    whole? (text ++ rest) = some (values, rest) := by
  cases written with
  | zero => rfl
  | @positive first others _ positive digitsWritten =>
      rw [← someDigits?_append (List.cons_ne_nil first others) digitsWritten
        stops]
      obtain ⟨small, rfl⟩ := digitsWritten
      have notZero : Nat.digitChar first ≠ '0' := by
        intro isZero
        have value := (isDigit_digitChar (small first (by simp))).2
        rw [isZero] at value
        exact positive value.symm
      rw [whole?]
      intro others isZero
      exact notZero (List.cons.inj isZero).1

theorem exists_of_whole? (found : whole? text = some (values, rest)) :
    ∃ body, WholeWritten values body ∧ text = body ++ rest := by
  unfold whole? at found
  split at found
  · cases found
    exact ⟨['0'], .zero, rfl⟩
  · next notZero =>
      obtain ⟨body, nonempty, written, rfl⟩ := exists_of_someDigits? found
      obtain ⟨first, others, rfl⟩ := List.exists_cons_of_ne_nil nonempty
      refine ⟨body, .positive ?_ written, rfl⟩
      rintro rfl
      obtain ⟨-, rfl⟩ := written
      exact notZero _ rfl

theorem fraction?_append (written : FractionWritten values text)
    (stops : Stops ['.'] rest) :
    fraction? (text ++ rest) = some (values, rest) := by
  cases written with
  | absent =>
      unfold fraction?
      split
      · next others isPoint =>
          rw [List.nil_append] at isPoint
          subst isPoint
          exact absurd (stops '.' rfl).2 (by decide)
      · rfl
  | present nonempty digitsWritten =>
      exact someDigits?_append nonempty digitsWritten stops

theorem exists_of_fraction? (found : fraction? text = some (values, rest)) :
    ∃ body, FractionWritten values body ∧ text = body ++ rest := by
  unfold fraction? at found
  split at found
  · obtain ⟨body, nonempty, written, rfl⟩ := exists_of_someDigits? found
    exact ⟨'.' :: body, .present nonempty written, rfl⟩
  · cases found
    exact ⟨[], .absent, rfl⟩

theorem exponentSign_append {negative : Bool} {signText : List Char}
    (nonempty : values ≠ []) (digitsWritten : DigitsWritten values text)
    (written : ExponentSignWritten negative signText) (rest : List Char) :
    exponentSign (signText ++ (text ++ rest)) = (negative, text ++ rest) := by
  cases written with
  | plus => rfl
  | minus => rfl
  | absent =>
      obtain ⟨first, others, rfl⟩ := List.exists_cons_of_ne_nil nonempty
      obtain ⟨small, rfl⟩ := digitsWritten
      have isDigit := (isDigit_digitChar (small first (by simp))).1
      unfold exponentSign
      split
      · next isMinus =>
          rw [(List.cons.inj isMinus).1] at isDigit
          cases isDigit
      · next isPlus =>
          rw [(List.cons.inj isPlus).1] at isDigit
          cases isDigit
      · rfl

theorem exists_of_exponentSign (text : List Char) :
    ∃ signText, ExponentSignWritten (exponentSign text).1 signText ∧
      text = signText ++ (exponentSign text).2 := by
  unfold exponentSign
  split
  · exact ⟨['-'], .minus, rfl⟩
  · exact ⟨['+'], .plus, rfl⟩
  · exact ⟨[], .absent, rfl⟩

variable {exponent : Option (Bool × List Nat)} {numeral : Numeral}

theorem exponent?_append (written : ExponentWritten exponent text)
    (stops : Stops ['e', 'E'] rest) :
    exponent? (text ++ rest) = some (exponent, rest) := by
  cases written with
  | absent =>
      unfold exponent?
      split
      · next others isMark =>
          rw [List.nil_append] at isMark
          subst isMark
          exact absurd (stops 'e' rfl).2 (by decide)
      · next others isMark =>
          rw [List.nil_append] at isMark
          subst isMark
          exact absurd (stops 'E' rfl).2 (by decide)
      · rfl
  | present isMark signWritten nonempty digitsWritten =>
      have found := someDigits?_append nonempty digitsWritten stops
      have sign :=
        exponentSign_append nonempty digitsWritten signWritten rest
      rcases isMark with rfl | rfl
      · simp only [List.cons_append, List.append_assoc, exponent?, sign, found]
        rfl
      · simp only [List.cons_append, List.append_assoc, exponent?, sign, found]
        rfl

theorem exists_of_exponent? (found : exponent? text = some (exponent, rest)) :
    ∃ body, ExponentWritten exponent body ∧ text = body ++ rest := by
  have marked : ∀ {mark : Char} {after : List Char}, mark = 'e' ∨ mark = 'E' →
      ((someDigits? (exponentSign after).2).bind fun read =>
        some (some ((exponentSign after).1, read.1), read.2)) =
          some (exponent, rest) →
      ∃ body, ExponentWritten exponent body ∧ mark :: after = body ++ rest := by
    intro mark after isMark read
    obtain ⟨⟨values, remaining⟩, digitsFound, returned⟩ :=
      Option.bind_eq_some_iff.mp read
    cases returned
    obtain ⟨signText, signWritten, afterSplit⟩ := exists_of_exponentSign after
    obtain ⟨body, nonempty, written, signSplit⟩ :=
      exists_of_someDigits? digitsFound
    refine ⟨mark :: (signText ++ body),
      .present isMark signWritten nonempty written, ?_⟩
    rw [List.cons_append, List.append_assoc, ← signSplit, ← afterSplit]
  unfold exponent? at found
  split at found
  · exact marked (.inl rfl) found
  · exact marked (.inr rfl) found
  · cases found
    exact ⟨[], .absent, rfl⟩

theorem WholeWritten.exists_digit (written : WholeWritten values text) :
    ∃ first others, text = first :: others ∧ first.isDigit = true := by
  cases written with
  | zero => exact ⟨'0', [], rfl, rfl⟩
  | @positive first others _ positive digitsWritten =>
      obtain ⟨small, rfl⟩ := digitsWritten
      exact ⟨_, _, rfl, (isDigit_digitChar (small first (by simp))).1⟩

/-- What may follow a numeral, seen from the end of its whole part. -/
theorem FractionWritten.stops (written : FractionWritten values text)
    (stops : Stops ['.'] rest) : Stops [] (text ++ rest) := by
  cases written with
  | absent => exact stops.mono (List.nil_subset _)
  | present nonempty digitsWritten =>
      exact .cons _ (by decide) List.not_mem_nil

theorem ExponentWritten.stops (written : ExponentWritten exponent text)
    (stops : Stops ['.', 'e', 'E'] rest) : Stops ['.'] (text ++ rest) := by
  cases written with
  | absent => exact stops.mono (by simp)
  | present isMark signWritten nonempty digitsWritten =>
      rcases isMark with rfl | rfl
      · exact .cons _ (by decide) (by decide)
      · exact .cons _ (by decide) (by decide)

theorem sign_append (written : WholeWritten values text) (negative : Bool)
    (rest : List Char) :
    sign ((if negative then ['-'] else []) ++ (text ++ rest)) =
      (negative, text ++ rest) := by
  cases negative with
  | true => rfl
  | false =>
      obtain ⟨first, others, rfl, isDigit⟩ := written.exists_digit
      simp only [Bool.false_eq_true, if_false, List.nil_append,
        List.cons_append]
      unfold sign
      split
      · next isMinus =>
          rw [(List.cons.inj isMinus).1] at isDigit
          cases isDigit
      · rfl

theorem exists_of_sign (text : List Char) :
    text = (if (sign text).1 then ['-'] else []) ++ (sign text).2 := by
  unfold sign
  split <;> rfl

theorem numeral?_eq (text : List Char) :
    numeral? text =
      (whole? (sign text).2).bind fun whole =>
        (fraction? whole.2).bind fun fraction =>
          (exponent? fraction.2).bind fun exponent =>
            some (⟨(sign text).1, whole.1, fraction.1, exponent.1⟩,
              exponent.2) :=
  rfl

theorem numeral?_append (written : NumeralWritten numeral text)
    (stops : Stops ['.', 'e', 'E'] rest) :
    numeral? (text ++ rest) = some (numeral, rest) := by
  obtain @⟨negative, whole, fraction, exponent, wholeText, fractionText,
    exponentText, wholeWritten, fractionWritten, exponentWritten⟩ := written
  have afterFraction := exponentWritten.stops stops
  have exponentFound :=
    exponent?_append exponentWritten (stops.mono (by simp))
  have fractionFound := fraction?_append fractionWritten afterFraction
  have wholeFound :=
    whole?_append wholeWritten (fractionWritten.stops afterFraction)
  simp only [List.append_assoc, numeral?_eq, sign_append wholeWritten,
    wholeFound, fractionFound, exponentFound, Option.bind_some]

theorem exists_of_numeral? (found : numeral? text = some (numeral, rest)) :
    ∃ body, NumeralWritten numeral body ∧ text = body ++ rest := by
  simp only [numeral?_eq, Option.bind_eq_some_iff] at found
  obtain ⟨⟨whole, afterWhole⟩, wholeFound, ⟨fraction, afterFraction⟩,
    fractionFound, ⟨exponent, remaining⟩, exponentFound, returned⟩ := found
  cases returned
  obtain ⟨wholeText, wholeWritten, wholeSplit⟩ := exists_of_whole? wholeFound
  obtain ⟨fractionText, fractionWritten, rfl⟩ :=
    exists_of_fraction? fractionFound
  obtain ⟨exponentText, exponentWritten, rfl⟩ :=
    exists_of_exponent? exponentFound
  refine ⟨_, .mk wholeWritten fractionWritten exponentWritten, ?_⟩
  conv_lhs => rw [exists_of_sign text, wholeSplit]
  simp only [List.append_assoc]

end Numerals

section Strings

instance (value : Nat) (digit : Char) :
    Decidable (HexDigitWritten value digit) :=
  inferInstanceAs (Decidable (_ ∧ _))

theorem hexValue?_eq_some_iff {digit : Char} {value : Nat} :
    hexValue? digit = some value ↔ HexDigitWritten value digit := by
  constructor
  · intro found
    -- Each of the three ranges is gone through code by code.
    rw [← Char.ofNat_toNat digit]
    unfold hexValue? at found
    split at found
    · next isDigit =>
        have bounds : 48 ≤ digit.toNat ∧ digit.toNat ≤ 57 := by
          simpa [Char.isDigit, UInt32.le_iff_toNat_le] using isDigit
        obtain rfl := Option.some.inj found
        generalize digit.toNat = code at bounds ⊢
        obtain ⟨low, high⟩ := bounds
        interval_cases code <;> decide
    · split at found
      · next isLower =>
          have bounds : 97 ≤ digit.toNat ∧ digit.toNat ≤ 102 := by
            simpa [Char.le_def, UInt32.le_iff_toNat_le] using isLower
          obtain rfl := Option.some.inj found
          generalize digit.toNat = code at bounds ⊢
          obtain ⟨low, high⟩ := bounds
          interval_cases code <;> decide
      · split at found
        · next isUpper =>
            have bounds : 65 ≤ digit.toNat ∧ digit.toNat ≤ 70 := by
              simpa [Char.le_def, UInt32.le_iff_toNat_le] using isUpper
            obtain rfl := Option.some.inj found
            generalize digit.toNat = code at bounds ⊢
            obtain ⟨low, high⟩ := bounds
            interval_cases code <;> decide
        · cases found
  · rintro ⟨small, rfl | rfl⟩
    · interval_cases value <;> decide
    · interval_cases value <;> decide

theorem hexCode?_eq_some_iff {a b c d : Char} {code : Nat} :
    hexCode? a b c d = some code ↔
      ∃ first second third fourth, HexDigitWritten first a ∧
        HexDigitWritten second b ∧ HexDigitWritten third c ∧
          HexDigitWritten fourth d ∧
            code = ((first * 16 + second) * 16 + third) * 16 + fourth := by
  simp only [hexCode?, Option.bind_eq_bind, Option.bind_eq_some_iff,
    hexValue?_eq_some_iff, Option.pure_def, Option.some.injEq]
  constructor
  · rintro ⟨first, isFirst, second, isSecond, third, isThird, fourth, isFourth,
      rfl⟩
    exact ⟨first, second, third, fourth, isFirst, isSecond, isThird, isFourth,
      rfl⟩
  · rintro ⟨first, second, third, fourth, isFirst, isSecond, isThird, isFourth,
      rfl⟩
    exact ⟨first, isFirst, second, isSecond, third, isThird, fourth, isFourth,
      rfl⟩

theorem shortEscape?_eq_some_iff {letter character : Char} :
    shortEscape? letter = some character ↔
      (letter, character) ∈ shortEscapes := by
  constructor
  · intro found
    unfold shortEscape? at found
    split at found <;> cases found <;> decide
  · intro member
    fin_cases member <;> rfl

theorem stringBody?_append {units : List StringUnit} {body : List Char}
    (written : UnitsWritten units body) (rest : List Char) :
    stringBody? (body ++ '"' :: rest) = some (units, rest) := by
  induction written with
  | nil => rw [List.nil_append, stringBody?]
  | @cons unit units text others unitWritten othersWritten ih =>
      rw [List.append_assoc]
      cases unitWritten with
      | @plain character printable notQuote notBackslash =>
          have unescaped : ¬ (character.toNat < 0x20 ∨ character = '\\') := by
            rintro (control | isBackslash)
            · omega
            · exact notBackslash isBackslash
          rw [List.singleton_append, stringBody?, if_neg unescaped, ih]
          · rfl
          · exact notQuote
          · exact fun _ _ _ _ _ isBackslash => absurd isBackslash notBackslash
          · exact fun _ _ isBackslash => absurd isBackslash notBackslash
      | @escaped letter character isEscape =>
          have escape := shortEscape?_eq_some_iff.mpr isEscape
          have notCode : letter ≠ 'u' := by
            rintro rfl
            cases escape
          rw [List.cons_append, List.singleton_append, stringBody?, escape, ih]
          · rfl
          · exact fun _ _ _ _ _ isCode => absurd isCode notCode
      | coded isFirst isSecond isThird isFourth =>
          have code := hexCode?_eq_some_iff.mpr
            ⟨_, _, _, _, isFirst, isSecond, isThird, isFourth, rfl⟩
          simp only [List.cons_append, List.nil_append, stringBody?, code, ih]
          rfl

theorem exists_of_stringBody? {units : List StringUnit}
    {text rest : List Char} (found : stringBody? text = some (units, rest)) :
    ∃ body, UnitsWritten units body ∧ text = body ++ '"' :: rest := by
  fun_induction stringBody? text generalizing units with
  | case1 => cases found
  | case2 remaining =>
      cases found
      exact ⟨[], .nil, rfl⟩
  | case3 a b c d remaining ih =>
      obtain ⟨code, codeFound, found⟩ := Option.bind_eq_some_iff.mp found
      obtain ⟨⟨others, _⟩, othersFound, returned⟩ :=
        Option.bind_eq_some_iff.mp found
      cases returned
      obtain ⟨first, second, third, fourth, isFirst, isSecond, isThird,
        isFourth, rfl⟩ := hexCode?_eq_some_iff.mp codeFound
      obtain ⟨body, written, rfl⟩ := ih othersFound
      exact ⟨_, .cons (.coded isFirst isSecond isThird isFourth) written, rfl⟩
  | case4 letter remaining notCode ih =>
      obtain ⟨character, escape, found⟩ := Option.bind_eq_some_iff.mp found
      obtain ⟨⟨others, _⟩, othersFound, returned⟩ :=
        Option.bind_eq_some_iff.mp found
      cases returned
      obtain ⟨body, written, rfl⟩ := ih othersFound
      exact ⟨_, .cons (.escaped (shortEscape?_eq_some_iff.mp escape)) written,
        rfl⟩
  | case5 => cases found
  | case6 character remaining notQuote _ _ unescaped ih =>
      obtain ⟨⟨others, _⟩, othersFound, returned⟩ :=
        Option.map_eq_some_iff.mp found
      cases returned
      obtain ⟨body, written, rfl⟩ := ih othersFound
      obtain ⟨printable, notBackslash⟩ := not_or.mp unescaped
      exact ⟨_, .cons (.plain (by omega) notQuote notBackslash) written, rfl⟩

theorem isLeading_iff (code : Nat) :
    StringUnit.isLeading code = true ↔ 0xD800 ≤ code ∧ code ≤ 0xDBFF := by
  simp [StringUnit.isLeading]

theorem isTrailing_iff (code : Nat) :
    StringUnit.isTrailing code = true ↔ 0xDC00 ≤ code ∧ code ≤ 0xDFFF := by
  simp [StringUnit.isTrailing]

theorem Denotes.of_characters? {units : List StringUnit} {text : List Char}
    (found : StringUnit.characters? units = some text) :
    Denotes units text := by
  fun_induction StringUnit.characters? units generalizing text with
  | case1 =>
      cases found
      exact .nil
  | case2 character units ih =>
      obtain ⟨others, othersFound, rfl⟩ := Option.map_eq_some_iff.mp found
      exact .character character (ih othersFound)
  | case3 leading trailing units isLeading isTrailing ih =>
      obtain ⟨others, othersFound, rfl⟩ := Option.map_eq_some_iff.mp found
      rw [isLeading_iff] at isLeading
      rw [isTrailing_iff] at isTrailing
      exact .pair isLeading.1 isLeading.2 isTrailing.1 isTrailing.2
        (ih othersFound)
  | case4 => cases found
  | case5 => cases found
  | case6 leading trailing units notLeading notTrailing ih =>
      obtain ⟨others, othersFound, rfl⟩ := Option.map_eq_some_iff.mp found
      rw [isLeading_iff] at notLeading
      rw [isTrailing_iff] at notTrailing
      exact .code (by omega) (ih othersFound)
  | case7 => cases found
  | case8 code units _ notSurrogate ih =>
      obtain ⟨others, othersFound, rfl⟩ := Option.map_eq_some_iff.mp found
      rw [Bool.or_eq_true, isLeading_iff, isTrailing_iff] at notSurrogate
      exact .code (by omega) (ih othersFound)

theorem Denotes.characters? {units : List StringUnit} {text : List Char}
    (denotes : Denotes units text) :
    StringUnit.characters? units = some text := by
  induction denotes with
  | nil => rw [StringUnit.characters?]
  | character character _ ih =>
      rw [StringUnit.characters?, ih, Option.map_some]
  | @code units text code outside _ ih =>
      have notLeading : StringUnit.isLeading code = false := by
        rw [← Bool.not_eq_true, isLeading_iff]
        omega
      have notTrailing : StringUnit.isTrailing code = false := by
        rw [← Bool.not_eq_true, isTrailing_iff]
        omega
      have alone : StringUnit.characters? (.code code :: units) =
          (StringUnit.characters? units).map (Char.ofNat code :: ·) := by
        -- Whether another code follows decides which equation applies.
        match units with
        | [] | .character _ :: _ | .code _ :: _ =>
            conv_lhs => unfold StringUnit.characters?
            simp only [notLeading, notTrailing]
            rfl
      rw [alone, ih, Option.map_some]
  | @pair units text leading trailing low high trailingLow trailingHigh _ ih =>
      have isLeading := (isLeading_iff leading).mpr ⟨low, high⟩
      have isTrailing :=
        (isTrailing_iff trailing).mpr ⟨trailingLow, trailingHigh⟩
      rw [StringUnit.characters?, if_pos isLeading, if_pos isTrailing, ih,
        Option.map_some, StringUnit.paired]

theorem Denotes.unique {units : List StringUnit} {text other : List Char}
    (denotes : Denotes units text) (otherDenotes : Denotes units other) :
    text = other :=
  Option.some.inj (denotes.characters?.symm.trans otherDenotes.characters?)

theorem text?_eq_some_iff {units : List StringUnit} {text : String} :
    StringUnit.text? units = some text ↔ Denotes units text.toList := by
  rw [StringUnit.text?, Option.map_eq_some_iff]
  constructor
  · rintro ⟨characters, found, rfl⟩
    rw [String.toList_ofList]
    exact .of_characters? found
  · intro denotes
    exact ⟨text.toList, denotes.characters?, String.ofList_toList⟩

end Strings

end Json

end PipeGraph
