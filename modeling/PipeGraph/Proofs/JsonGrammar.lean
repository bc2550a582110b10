import PipeGraph.Json.Document

/-!
# The grammar of JSON texts

Which texts write a document, said as a grammar and without any mention of a
reader: tokens are put side by side, and blanks may stand between them.  A
numeral is written by its digits and a string by the spellings of its units.
What text the units of a string denote is said here as well.
-/

namespace PipeGraph

namespace Json

/-- A text of blanks only. -/
def Blank (text : List Char) : Prop :=
  ∀ character ∈ text, character ∈ [' ', '\t', '\n', '\r']

/-- Decimal digits, given by their values. -/
def DigitsWritten (values : List Nat) (text : List Char) : Prop :=
  (∀ value ∈ values, value < 10) ∧ text = values.map Nat.digitChar

/-- The whole part of a numeral has no leading zero. -/
inductive WholeWritten : List Nat → List Char → Prop
  | zero : WholeWritten [0] ['0']
  | positive {first : Nat} {others : List Nat} {text : List Char} :
      first ≠ 0 → DigitsWritten (first :: others) text →
        WholeWritten (first :: others) text

inductive FractionWritten : List Nat → List Char → Prop
  | absent : FractionWritten [] []
  | present {values : List Nat} {text : List Char} :
      values ≠ [] → DigitsWritten values text →
        FractionWritten values ('.' :: text)

/-- The sign of an exponent, true when negative. -/
inductive ExponentSignWritten : Bool → List Char → Prop
  | absent : ExponentSignWritten false []
  | plus : ExponentSignWritten false ['+']
  | minus : ExponentSignWritten true ['-']

inductive ExponentWritten : Option (Bool × List Nat) → List Char → Prop
  | absent : ExponentWritten none []
  | present {mark : Char} {negative : Bool} {signText : List Char}
      {values : List Nat} {text : List Char} :
      mark = 'e' ∨ mark = 'E' → ExponentSignWritten negative signText →
        values ≠ [] → DigitsWritten values text →
          ExponentWritten (some (negative, values)) (mark :: (signText ++ text))

/-- The parts of a numeral follow one another without blanks. -/
inductive NumeralWritten : Numeral → List Char → Prop
  | mk {negative : Bool} {whole fraction : List Nat}
      {exponent : Option (Bool × List Nat)}
      {wholeText fractionText exponentText : List Char} :
      WholeWritten whole wholeText → FractionWritten fraction fractionText →
        ExponentWritten exponent exponentText →
          NumeralWritten ⟨negative, whole, fraction, exponent⟩
            ((if negative then ['-'] else []) ++
              (wholeText ++ (fractionText ++ exponentText)))

/-- A hexadecimal digit in either case, by its value. -/
def HexDigitWritten (value : Nat) (digit : Char) : Prop :=
  value < 16 ∧
    (digit = Nat.digitChar value ∨ digit = (Nat.digitChar value).toUpper)

/-- The letters behind a backslash with the characters they stand for. -/
def shortEscapes : List (Char × Char) :=
  [('"', '"'), ('\\', '\\'), ('/', '/'), ('b', '\x08'), ('f', '\x0c'),
    ('n', '\n'), ('r', '\r'), ('t', '\t')]

inductive UnitWritten : StringUnit → List Char → Prop
  | plain {character : Char} :
      0x20 ≤ character.toNat → character ≠ '"' → character ≠ '\\' →
        UnitWritten (.character character) [character]
  | escaped {letter character : Char} :
      (letter, character) ∈ shortEscapes →
        UnitWritten (.character character) ['\\', letter]
  | coded {first second third fourth : Nat} {a b c d : Char} :
      HexDigitWritten first a → HexDigitWritten second b →
        HexDigitWritten third c → HexDigitWritten fourth d →
          UnitWritten
            (.code (((first * 16 + second) * 16 + third) * 16 + fourth))
            ['\\', 'u', a, b, c, d]

/-- A string between its quotes. -/
inductive UnitsWritten : List StringUnit → List Char → Prop
  | nil : UnitsWritten [] []
  | cons {unit : StringUnit} {units : List StringUnit}
      {text others : List Char} :
      UnitWritten unit text → UnitsWritten units others →
        UnitsWritten (unit :: units) (text ++ others)

/-- The text that a string denotes: a code outside the range of surrogates is a
character, and two codes inside it are one if they form a pair. -/
inductive Denotes : List StringUnit → List Char → Prop
  | nil : Denotes [] []
  | character {units : List StringUnit} {text : List Char}
      (character : Char) :
      Denotes units text →
        Denotes (.character character :: units) (character :: text)
  | code {units : List StringUnit} {text : List Char} {code : Nat} :
      code < 0xD800 ∨ 0xDFFF < code → Denotes units text →
        Denotes (.code code :: units) (Char.ofNat code :: text)
  | pair {units : List StringUnit} {text : List Char}
      {leading trailing : Nat} :
      0xD800 ≤ leading → leading ≤ 0xDBFF → 0xDC00 ≤ trailing →
        trailing ≤ 0xDFFF → Denotes units text →
          Denotes (.code leading :: .code trailing :: units)
            (Char.ofNat
              (0x10000 + (leading - 0xD800) * 0x400 + (trailing - 0xDC00)) ::
                text)

/-- The key of a member, in quotes and between blanks. -/
inductive KeyWritten : List StringUnit → List Char → Prop
  | mk {units : List StringUnit} {before body after : List Char} :
      Blank before → UnitsWritten units body → Blank after →
        KeyWritten units (before ++ '"' :: (body ++ '"' :: after))

mutual

/-- A document from its first to its last character. -/
inductive Written : Document → List Char → Prop
  | null : Written .null ['n', 'u', 'l', 'l']
  | true : Written (.bool true) ['t', 'r', 'u', 'e']
  | false : Written (.bool false) ['f', 'a', 'l', 's', 'e']
  | number {numeral : Numeral} {text : List Char} :
      NumeralWritten numeral text → Written (.number numeral) text
  | string {units : List StringUnit} {body : List Char} :
      UnitsWritten units body →
        Written (.string units) ('"' :: (body ++ ['"']))
  | emptyArray {between : List Char} :
      Blank between → Written (.array []) ('[' :: (between ++ [']']))
  | array {items : List Document} {body : List Char} :
      ItemsWritten items body → Written (.array items) ('[' :: (body ++ [']']))
  | emptyObject {between : List Char} :
      Blank between → Written (.object []) ('{' :: (between ++ ['}']))
  | object {members : List (List StringUnit × Document)} {body : List Char} :
      MembersWritten members body →
        Written (.object members) ('{' :: (body ++ ['}']))

/-- A document between blanks. -/
inductive Padded : Document → List Char → Prop
  | mk {document : Document} {before text after : List Char} :
      Blank before → Written document text → Blank after →
        Padded document (before ++ (text ++ after))

/-- One or more items with commas between them. -/
inductive ItemsWritten : List Document → List Char → Prop
  | last {item : Document} {text : List Char} :
      Padded item text → ItemsWritten [item] text
  | more {item : Document} {items : List Document} {text others : List Char} :
      Padded item text → ItemsWritten items others →
        ItemsWritten (item :: items) (text ++ ',' :: others)

/-- One or more members with commas between them. -/
inductive MembersWritten :
    List (List StringUnit × Document) → List Char → Prop
  | last {key : List StringUnit} {value : Document}
      {keyText valueText : List Char} :
      KeyWritten key keyText → Padded value valueText →
        MembersWritten [(key, value)] (keyText ++ ':' :: valueText)
  | more {key : List StringUnit} {value : Document}
      {members : List (List StringUnit × Document)}
      {keyText valueText others : List Char} :
      KeyWritten key keyText → Padded value valueText →
        MembersWritten members others →
          MembersWritten ((key, value) :: members)
            (keyText ++ ':' :: (valueText ++ ',' :: others))

end

end Json

end PipeGraph
