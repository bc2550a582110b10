import PipeGraph.Text.Run

/-!
# Flags

Command signatures declare a flag by its long name, optionally followed by a
short form in parentheses, as in `--help(-h)`.  Source text takes the short
form where one is declared, always behind two dashes.
-/

namespace PipeGraph

namespace Flag

/-- The two dashes in front of every flag. -/
def longMark : String := "--"

/-- Whether a parameter name declares a flag. -/
def isDeclaration (name : String) : Bool :=
  longMark.toList.isPrefixOf name.toList

/-- What follows the first opening parenthesis that has a dash right behind
it. -/
def afterShortMark? : List Char → Option (List Char)
  | '(' :: '-' :: rest => some rest
  | _ :: rest => afterShortMark? rest
  | [] => none

/-- The word behind the dashes of a recovered flag: the first run of the short
form when that has one, otherwise the first run of the whole declaration. -/
def word (declaration : List Char) : List Char :=
  let remainder := declaration.dropWhile (· == '-')
  match (afterShortMark? remainder).map Text.firstRun with
  | none | some [] => Text.firstRun remainder
  | some short => short

/-- The flag that stands in source text for a flag declaration. -/
def recover (declaration : String) : String :=
  longMark ++ String.ofList (word declaration.toList)

end Flag

end PipeGraph
