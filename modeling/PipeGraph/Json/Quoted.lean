/-!
# Writing JSON strings

A string is written between double quotes with the fewest escapes that JSON
asks for: quotes, backslashes and control characters, by their short escapes
where there is one.
-/

namespace PipeGraph

namespace Json

/-- The two low hexadecimal digits of a code. -/
def lowHexDigits (code : Nat) : List Char :=
  [Nat.digitChar (code / 16 % 16), Nat.digitChar (code % 16)]

/-- One character of a written string. -/
def quotedCharacter : Char → List Char
  | '"' => ['\\', '"']
  | '\\' => ['\\', '\\']
  | '\x08' => ['\\', 'b']
  | '\x0c' => ['\\', 'f']
  | '\n' => ['\\', 'n']
  | '\r' => ['\\', 'r']
  | '\t' => ['\\', 't']
  | character =>
      if character.toNat < 0x20 then
        ['\\', 'u', '0', '0'] ++ lowHexDigits character.toNat
      else [character]

/-- A text as a JSON string. -/
def quoted (text : String) : String :=
  "\"" ++ String.ofList (text.toList.flatMap quotedCharacter) ++ "\""

end Json

end PipeGraph
