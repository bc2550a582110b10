import PipeGraph.Json.Value

/-!
# Complaints about JSON

Reading JSON gives a value or nothing.  Hosts want to know more about an input
that cannot be read, such as the place where it goes wrong, and different
readers word that differently.  The wording is therefore not fixed here: it is a
function of the input, for each kind of reading, and reaches every error that
quotes it.
-/

namespace PipeGraph

namespace Json

/-- What a reader has to say about inputs that it cannot read, if anything. -/
structure Complaints where
  /-- About a text that is no graph. -/
  graph : String → Option String
  /-- About a text that is no catalog. -/
  catalog : String → Option String
  /-- About a text that is no JSON value. -/
  value : String → Option String
  /-- About a value that is no list of commands. -/
  commands : Value → Option String

/-- A reader that refuses without a word. -/
def Complaints.silent : Complaints where
  graph _ := none
  catalog _ := none
  value _ := none
  commands _ := none

end Json

end PipeGraph
