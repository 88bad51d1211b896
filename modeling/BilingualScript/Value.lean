import BilingualScript.Number.Decimal

/-!
# Runtime values

A value is nothing at all (`hampa`), a truth value (`ril` or `impossible`), a number or a
text.  No value of one kind equals a value of another.
-/

namespace BilingualScript

inductive Value where
  | hampa
  | truth (value : Bool)
  | number (value : Number)
  | text (value : String)
  deriving DecidableEq, Repr, Inhabited

namespace Value

/-- Only `hampa` and `impossible` do not hold as a condition. -/
def holds : Value → Bool
  | .hampa => false
  | .truth value => value
  | _ => true

def isNumber : Value → Bool
  | .number _ => true
  | _ => false

/-- The equality of the language: values of two kinds differ, and numbers compare as numbers
do, so that both zeros are equal and a not-a-number equals nothing. -/
def equals : Value → Value → Bool
  | .hampa, .hampa => true
  | .truth left, .truth right => left == right
  | .number left, .number right => left.equals right
  | .text left, .text right => left == right
  | _, _ => false

def counted : Value → Value
  | .truth value => .number (if value then .ofUnits false Number.oneUnits 1 else .zero)
  | value => value

/-- Whether two literals are interchangeable in a tree: like `equals`, but a truth value
counts as one or zero. -/
def matchesLiteral (left right : Value) : Bool :=
  left.equals right || left.counted.equals right.counted

def display : Value → String
  | .hampa => "hampa"
  | .truth true => "ril"
  | .truth false => "impossible"
  | .number value => value.display
  | .text value => value

end Value

end BilingualScript
