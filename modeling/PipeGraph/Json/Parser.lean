import PipeGraph.Json.Document

/-!
# Reading JSON text

The reader follows the JSON grammar strictly: four blank characters, no
trailing commas, no leading zeros, no bare control characters in strings, and
nothing but blanks after the document.  It puts no limit on nesting or on the
size of numbers, because those matter only for the parts that are kept.
-/

namespace PipeGraph

namespace Json

/-- The characters that may stand between the tokens of a JSON text. -/
def isBlank (character : Char) : Bool :=
  character == ' ' || character == '\t' || character == '\n' ||
    character == '\r'

/-- A text without its leading blanks. -/
def skipBlanks (text : List Char) : List Char := text.dropWhile isBlank

/-- The value of a decimal digit. -/
def digitValue (digit : Char) : Nat := digit.toNat - '0'.toNat

/-- The leading decimal digits of a text by value, and what follows them. -/
def digits (text : List Char) : List Nat × List Char :=
  ((text.takeWhile Char.isDigit).map digitValue, text.dropWhile Char.isDigit)

/-- At least one decimal digit. -/
def someDigits? (text : List Char) : Option (List Nat × List Char) :=
  match digits text with
  | ([], _) => none
  | found => some found

/-- The whole part of a numeral: a single zero, or digits that start with
another one. -/
def whole? : List Char → Option (List Nat × List Char)
  | '0' :: rest => some ([0], rest)
  | text => someDigits? text

/-- The fraction of a numeral, when a point introduces one. -/
def fraction? : List Char → Option (List Nat × List Char)
  | '.' :: rest => someDigits? rest
  | text => some ([], text)

/-- The sign of an exponent, true when negative. -/
def exponentSign : List Char → Bool × List Char
  | '-' :: rest => (true, rest)
  | '+' :: rest => (false, rest)
  | text => (false, text)

/-- The exponent of a numeral, when its mark introduces one. -/
def exponent? : List Char → Option (Option (Bool × List Nat) × List Char)
  | 'e' :: rest | 'E' :: rest => do
      let (negative, unsigned) := exponentSign rest
      let (found, remaining) ← someDigits? unsigned
      return (some (negative, found), remaining)
  | text => some (none, text)

/-- The sign of a numeral, true when negative. -/
def sign : List Char → Bool × List Char
  | '-' :: rest => (true, rest)
  | text => (false, text)

/-- A numeral at the start of a text. -/
def numeral? (text : List Char) : Option (Numeral × List Char) := do
  let (negative, unsigned) := sign text
  let (whole, afterWhole) ← whole? unsigned
  let (fraction, afterFraction) ← fraction? afterWhole
  let (exponent, remaining) ← exponent? afterFraction
  return (⟨negative, whole, fraction, exponent⟩, remaining)

/-- The value of a hexadecimal digit. -/
def hexValue? (digit : Char) : Option Nat :=
  if digit.isDigit then some (digit.toNat - '0'.toNat)
  else if 'a' ≤ digit ∧ digit ≤ 'f' then some (digit.toNat - 'a'.toNat + 10)
  else if 'A' ≤ digit ∧ digit ≤ 'F' then some (digit.toNat - 'A'.toNat + 10)
  else none

/-- The code written by four hexadecimal digits. -/
def hexCode? (first second third fourth : Char) : Option Nat := do
  let first ← hexValue? first
  let second ← hexValue? second
  let third ← hexValue? third
  let fourth ← hexValue? fourth
  return ((first * 16 + second) * 16 + third) * 16 + fourth

/-- The character that a short escape stands for. -/
def shortEscape? : Char → Option Char
  | '"' => some '"'
  | '\\' => some '\\'
  | '/' => some '/'
  | 'b' => some '\x08'
  | 'f' => some '\x0c'
  | 'n' => some '\n'
  | 'r' => some '\r'
  | 't' => some '\t'
  | _ => none

/-- Put a unit in front of the string that was read behind it. -/
def consUnit (unit : StringUnit) (read : List StringUnit × List Char) :
    List StringUnit × List Char :=
  (unit :: read.1, read.2)

/-- A string behind its opening quote, up to and with its closing one. -/
def stringBody? : List Char → Option (List StringUnit × List Char)
  | [] => none
  | '"' :: rest => some ([], rest)
  | '\\' :: 'u' :: first :: second :: third :: fourth :: rest => do
      let code ← hexCode? first second third fourth
      let read ← stringBody? rest
      return consUnit (.code code) read
  | '\\' :: letter :: rest => do
      let value ← shortEscape? letter
      let read ← stringBody? rest
      return consUnit (.character value) read
  | plain :: rest =>
      if plain.toNat < 0x20 ∨ plain = '\\' then none
      else (stringBody? rest).map (consUnit (.character plain))

mutual

/-- A document at the start of a text, behind any blanks.  The first argument
bounds the number of nested calls. -/
def document? : Nat → List Char → Option (Document × List Char)
  | 0, _ => none
  | bound + 1, text =>
      match skipBlanks text with
      | 'n' :: 'u' :: 'l' :: 'l' :: rest => some (.null, rest)
      | 't' :: 'r' :: 'u' :: 'e' :: rest => some (.bool true, rest)
      | 'f' :: 'a' :: 'l' :: 's' :: 'e' :: rest => some (.bool false, rest)
      | '"' :: rest => do
          let (units, remaining) ← stringBody? rest
          return (.string units, remaining)
      | '[' :: rest =>
          match skipBlanks rest with
          | ']' :: remaining => some (.array [], remaining)
          | _ => do
              let (items, remaining) ← items? bound rest
              return (.array items, remaining)
      | '{' :: rest =>
          match skipBlanks rest with
          | '}' :: remaining => some (.object [], remaining)
          | _ => do
              let (members, remaining) ← members? bound rest
              return (.object members, remaining)
      | other => do
          let (numeral, remaining) ← numeral? other
          return (.number numeral, remaining)

/-- One or more array items, up to and with the closing bracket. -/
def items? : Nat → List Char → Option (List Document × List Char)
  | 0, _ => none
  | bound + 1, text => do
      let (item, afterItem) ← document? bound text
      match skipBlanks afterItem with
      | ',' :: rest => do
          let (others, remaining) ← items? bound rest
          return (item :: others, remaining)
      | ']' :: remaining => return ([item], remaining)
      | _ => none

/-- One or more object members, up to and with the closing brace. -/
def members? :
    Nat → List Char → Option (List (List StringUnit × Document) × List Char)
  | 0, _ => none
  | bound + 1, text =>
      match skipBlanks text with
      | '"' :: afterQuote => do
          let (key, afterKey) ← stringBody? afterQuote
          match skipBlanks afterKey with
          | ':' :: afterColon => do
              let (value, afterValue) ← document? bound afterColon
              match skipBlanks afterValue with
              | ',' :: rest => do
                  let (others, remaining) ← members? bound rest
                  return ((key, value) :: others, remaining)
              | '}' :: remaining => return ([(key, value)], remaining)
              | _ => none
          | _ => none
      | _ => none

end

/-- The document that a whole text writes, when it is well formed. -/
def Document.parse? (text : String) : Option Document := do
  let characters := text.toList
  let (document, remaining) ← document? (2 * characters.length + 2) characters
  guard (skipBlanks remaining).isEmpty
  return document

end Json

end PipeGraph
