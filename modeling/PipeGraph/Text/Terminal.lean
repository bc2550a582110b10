import PipeGraph.Text.Quoted

/-!
# Texts that a terminal shows as they are

Some control characters make a terminal ring, move its cursor or start a command
to it.  A text that is shown to people spells these out, and keeps every other
character, line breaks included.
-/

namespace PipeGraph

namespace Text

/-- One character of a text that is safe to show: the controls that a terminal
acts upon are spelled by their code, in the short form if they are in ASCII. -/
def terminalCharacter : Char → List Char
  | '\x07' => ['\\', 'x', '0', '7']
  | '\x08' => ['\\', 'x', '0', '8']
  | '\x0c' => ['\\', 'x', '0', 'c']
  | '\x1b' => ['\\', 'x', '1', 'b']
  | '\x7f' => ['\\', 'x', '7', 'f']
  | character =>
      if 0x80 ≤ character.toNat && character.toNat ≤ 0x9F then
        codeEscape character
      else [character]

/-- A text that a terminal shows without acting upon it. -/
def terminalSafe (text : String) : String :=
  String.ofList (text.toList.flatMap terminalCharacter)

end Text

end PipeGraph
