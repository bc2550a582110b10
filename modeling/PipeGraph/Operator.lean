/-!
# Binary operators

The closed set of binary operators of the target shell.  Every operator has the
token that stands for it in source text and belongs to one group, which is
shown when a tree is drawn.
-/

namespace PipeGraph

/-- The families into which the operators fall. -/
inductive OperatorGroup where
  | arithmetic
  | comparison
  | logical
  | bitwise
  | stringMatch
  deriving DecidableEq, Repr

/-- The name of an operator group. -/
def OperatorGroup.name : OperatorGroup → String
  | .arithmetic => "arithmetic"
  | .comparison => "comparison"
  | .logical => "logical"
  | .bitwise => "bitwise"
  | .stringMatch => "string-match"

/-- A binary operator. -/
inductive Operator where
  | add
  | subtract
  | multiply
  | divide
  | floorDivide
  | modulo
  | power
  | append
  | equal
  | notEqual
  | lessThan
  | lessThanOrEqual
  | greaterThan
  | greaterThanOrEqual
  | and
  | or
  | xor
  | bitAnd
  | bitOr
  | bitXor
  | shiftLeft
  | shiftRight
  | regexMatch
  | notRegexMatch
  | like
  | notLike
  | memberOf
  | notMemberOf
  | startsWith
  | endsWith
  deriving DecidableEq, Repr

namespace Operator

/-- Every operator, group by group. -/
def all : List Operator :=
  [add, subtract, multiply, divide, floorDivide, modulo, power, append,
    equal, notEqual, lessThan, lessThanOrEqual, greaterThan,
    greaterThanOrEqual,
    and, or, xor,
    bitAnd, bitOr, bitXor, shiftLeft, shiftRight,
    regexMatch, notRegexMatch, like, notLike, memberOf, notMemberOf,
    startsWith, endsWith]

/-- The token of an operator in source text. -/
def token : Operator → String
  | add => "+"
  | subtract => "-"
  | multiply => "*"
  | divide => "/"
  | floorDivide => "//"
  | modulo => "mod"
  | power => "**"
  | append => "++"
  | equal => "=="
  | notEqual => "!="
  | lessThan => "<"
  | lessThanOrEqual => "<="
  | greaterThan => ">"
  | greaterThanOrEqual => ">="
  | and => "and"
  | or => "or"
  | xor => "xor"
  | bitAnd => "bit-and"
  | bitOr => "bit-or"
  | bitXor => "bit-xor"
  | shiftLeft => "bit-shl"
  | shiftRight => "bit-shr"
  | regexMatch => "=~"
  | notRegexMatch => "!~"
  | like => "like"
  | notLike => "not-like"
  | memberOf => "in"
  | notMemberOf => "not-in"
  | startsWith => "starts-with"
  | endsWith => "ends-with"

/-- The group of an operator. -/
def group : Operator → OperatorGroup
  | add | subtract | multiply | divide | floorDivide | modulo | power
  | append => .arithmetic
  | equal | notEqual | lessThan | lessThanOrEqual | greaterThan
  | greaterThanOrEqual => .comparison
  | and | or | xor => .logical
  | bitAnd | bitOr | bitXor | shiftLeft | shiftRight => .bitwise
  | regexMatch | notRegexMatch | like | notLike | memberOf | notMemberOf
  | startsWith | endsWith => .stringMatch

/-- The operator of a given token, when there is one. -/
def ofToken? (token : String) : Option Operator :=
  all.find? fun operator => operator.token == token

theorem mem_all (operator : Operator) : operator ∈ all := by
  cases operator <;> simp [all]

/-- No two operators share a token. -/
@[simp]
theorem ofToken?_token (operator : Operator) :
    ofToken? operator.token = some operator := by
  cases operator <;> decide

end Operator

end PipeGraph
