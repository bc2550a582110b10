/-!
# JSON documents as they are written

A document keeps everything that a JSON text says apart from blanks: numerals
digit by digit, strings with their `\u` escapes not yet combined into
characters, and object members in order with repeated keys.  What a reader
later keeps or skips of a document is decided elsewhere, since a skipped part
only has to be well formed.
-/

namespace PipeGraph

namespace Json

/-- A number as it is written, digit by digit. -/
structure Numeral where
  negative : Bool
  whole : List Nat
  /-- The digits behind the point, empty when no point is written. -/
  fraction : List Nat
  /-- The exponent's sign, true when negative, and its digits. -/
  exponent : Option (Bool × List Nat)
  deriving DecidableEq, Repr

/-- One element of a written string: a character, plain or by a short escape,
or the 16-bit code of a `\u` escape. -/
inductive StringUnit where
  | character (value : Char)
  | code (value : Nat)
  deriving DecidableEq, Repr

/-- A JSON text without its blanks. -/
inductive Document where
  | null
  | bool (value : Bool)
  | number (numeral : Numeral)
  | string (units : List StringUnit)
  | array (items : List Document)
  | object (members : List (List StringUnit × Document))

namespace StringUnit

/-- Codes that open a surrogate pair. -/
def isLeading (code : Nat) : Bool := 0xD800 ≤ code && code ≤ 0xDBFF

/-- Codes that close a surrogate pair. -/
def isTrailing (code : Nat) : Bool := 0xDC00 ≤ code && code ≤ 0xDFFF

/-- The character that a surrogate pair stands for. -/
def paired (leading trailing : Nat) : Char :=
  Char.ofNat (0x10000 + (leading - 0xD800) * 0x400 + (trailing - 0xDC00))

/-- The characters of a written string.  Surrogate codes have to come in pairs:
one that stands alone denotes no character. -/
def characters? : List StringUnit → Option (List Char)
  | [] => some []
  | .character value :: rest => (characters? rest).map (value :: ·)
  | .code leading :: .code trailing :: rest =>
      if isLeading leading then
        if isTrailing trailing then
          (characters? rest).map (paired leading trailing :: ·)
        else none
      else if isTrailing leading then none
      else (characters? (.code trailing :: rest)).map (Char.ofNat leading :: ·)
  | .code single :: rest =>
      if isLeading single || isTrailing single then none
      else (characters? rest).map (Char.ofNat single :: ·)

/-- The text of a written string. -/
def text? (units : List StringUnit) : Option String :=
  (characters? units).map String.ofList

end StringUnit

namespace Document

mutual

/-- Whether two documents are the same. -/
def same : Document → Document → Bool
  | null, null => true
  | bool first, bool second => first == second
  | number first, number second => first == second
  | string first, string second => first == second
  | array first, array second => sameItems first second
  | object first, object second => sameMembers first second
  | _, _ => false

/-- Whether two arrays have the same items. -/
def sameItems : List Document → List Document → Bool
  | [], [] => true
  | first :: firsts, second :: seconds =>
      same first second && sameItems firsts seconds
  | _, _ => false

/-- Whether two objects have the same members in the same order. -/
def sameMembers : List (List StringUnit × Document) →
    List (List StringUnit × Document) → Bool
  | [], [] => true
  | (firstKey, first) :: firsts, (secondKey, second) :: seconds =>
      firstKey == secondKey && same first second && sameMembers firsts seconds
  | _, _ => false

end

mutual

theorem same_iff (first second : Document) :
    same first second = true ↔ first = second := by
  cases first <;> cases second <;>
    simp [same, sameItems_iff, sameMembers_iff]

theorem sameItems_iff (firsts seconds : List Document) :
    sameItems firsts seconds = true ↔ firsts = seconds := by
  cases firsts <;> cases seconds <;> simp [sameItems, same_iff, sameItems_iff]

theorem sameMembers_iff (firsts seconds : List (List StringUnit × Document)) :
    sameMembers firsts seconds = true ↔ firsts = seconds := by
  cases firsts with
  | nil => cases seconds <;> simp [sameMembers]
  | cons first firsts =>
      cases seconds with
      | nil => simp [sameMembers]
      | cons second seconds =>
          obtain ⟨firstKey, first⟩ := first
          obtain ⟨secondKey, second⟩ := second
          simp [sameMembers, same_iff, sameMembers_iff, and_assoc]

end

instance : DecidableEq Document := fun first second =>
  decidable_of_iff (same first second = true) (same_iff first second)

end Document

end Json

end PipeGraph
