import PipeGraph.Text.Printable

/-!
# Quoted texts

Log lines show some fields in double quotes.  A quote, a backslash and the
common control characters are escaped by a backslash; any other character that
would not show on its own is spelled by its code point.
-/

namespace PipeGraph

namespace Text

/-- A code point spelled in hexadecimal between braces. -/
def codeEscape (character : Char) : List Char :=
  "\\u\x7b".toList ++ Nat.toDigits 16 character.toNat ++ "\x7d".toList

/-- One character of a quoted text. -/
def quotedCharacter : Char → List Char
  | '\x00' => ['\\', '0']
  | '\t' => ['\\', 't']
  | '\r' => ['\\', 'r']
  | '\n' => ['\\', 'n']
  | '"' => ['\\', '"']
  | '\\' => ['\\', '\\']
  | character =>
      if showsAlone character then [character] else codeEscape character

/-- A text in double quotes. -/
def quoted (text : String) : String :=
  "\"" ++ String.ofList (text.toList.flatMap quotedCharacter) ++ "\""

end Text

end PipeGraph
