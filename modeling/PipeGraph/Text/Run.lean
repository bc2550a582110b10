/-!
# Alphanumeric runs

A run is a maximal stretch of ASCII letters and digits in a text.
-/

namespace PipeGraph

namespace Text

/-- The first maximal run of ASCII letters and digits in a text, empty when the
text has none. -/
def firstRun (text : List Char) : List Char :=
  (text.dropWhile fun character => !character.isAlphanum).takeWhile
    Char.isAlphanum

/-- Every character of a run is an ASCII letter or digit. -/
theorem isAlphanum_of_mem_firstRun {text : List Char} {character : Char}
    (member : character ∈ firstRun text) : character.isAlphanum = true :=
  List.all_eq_true.mp (List.all_takeWhile) character member

end Text

end PipeGraph
