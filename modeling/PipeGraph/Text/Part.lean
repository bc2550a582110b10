/-!
# Parts of a text

A text contains another one when that occurs in it without gaps.
-/

namespace PipeGraph

namespace Text

/-- Whether `part` occurs in a text without gaps. -/
def contains (part : List Char) : List Char → Bool
  | [] => part.isEmpty
  | first :: rest =>
      part.isPrefixOf (first :: rest) || contains part rest

end Text

end PipeGraph
