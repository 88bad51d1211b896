import BilingualScript.Reading.Basic

/-!
# Reading expressions

From the loosest to the tightest: assignment with `itu`, which groups to the right;
equality, comparison, sums and products, which group to the left; negation; literals, names
and parentheses.

Nesting is limited.  Each construct that is open takes away some of the room that is left
for others: an expression as a whole takes most, an assignment or a negation inside it least.
The room is what the host's stack leaves, in calls, so it is given by whoever starts to read.
-/

namespace BilingualScript.Reader

/-! ## Kinds of operators -/

def isEquality (kind : Kind) : Bool := kind == .bangEqual || kind == .equalEqual

def isComparison (kind : Kind) : Bool :=
  kind == .greater || kind == .greaterEqual || kind == .less || kind == .lessEqual

def isSum (kind : Kind) : Bool := kind == .minus || kind == .plus

def isProduct (kind : Kind) : Bool := kind == .star || kind == .slash || kind == .percent

def isNegation (kind : Kind) : Bool := kind == .bang || kind == .minus

def startsPrimary (kind : Kind) : Bool :=
  kind == .impossible || kind == .ril || kind == .hampa || kind == .number || kind == .string ||
    kind == .identifier || kind == .leftParen

/-! ## Levels -/

/-- Operators and operands behind a first operand.  There are at most as many operators as
there are tokens in the list. -/
def operations (operators : Kind → Bool) (operand : Reader Expr) :
    List Token → Expr → Reader Expr
  | [], left => pure left
  | _ :: bound, left => do
    match ← accept? operators with
    | none => pure left
    | some operator =>
      let right ← operand
      operations operators operand bound (.binary left operator right)

def chain (operators : Kind → Bool) (operand : Reader Expr) : Reader Expr := do
  let left ← operand
  operations operators operand (← ahead) left

/-- A target and a value, or a value alone.  A target that is no name is reported at its
`itu` once the value has been read, and stands in for the whole. -/
def assignment (operand : Nat → Reader Expr) : Nat → Reader Expr
  | 0 => operand 0
  | room + 1 => do
    let target ← operand (room + 1)
    let fromItu ← ahead
    match ← accept? (· == .itu) with
    | none => pure target
    | some _ =>
      let value ← assignment operand room
      match target with
      | .reference name => pure (.assign name value)
      | _ =>
        report ⟨.invalidTarget, fromItu⟩
        pure target

/-- With no room left a negation is taken all the same, but nothing behind it is looked at. -/
def unary (operand : Nat → Reader Expr) : Nat → Reader Expr
  | 0 => do
    let _ ← accept? isNegation
    fail .tooDeep
  | room + 1 => do
    match ← accept? isNegation with
    | none => operand (room + 1)
    | some operator =>
      let inner ← unary operand room
      pure (.unary operator inner)

def reportRoom : Nat := 6

/-- What comes of a missing expression: with less room than a report takes, its excerpt does
not come out, and with still less its first line does not either. -/
def missing (room : Nat) : SyntaxCause :=
  if reportRoom ≤ room then .expectExpression
  else if reportRoom ≤ room + 1 then .cutShort
  else .tooDeep

def primary (expression : Nat → Reader Expr) (room : Nat) : Reader Expr := do
  match ← accept? startsPrimary with
  | none => fail (missing room)
  | some token =>
    match token.kind with
    | .impossible => pure (.literal (.truth false))
    | .ril => pure (.literal (.truth true))
    | .hampa => pure (.literal .hampa)
    | .identifier => pure (.reference token)
    | .leftParen =>
      let inner ← expression room
      let _ ← expect .rightParen .expectClosing
      pure (.grouping inner)
    | _ => pure (.literal token.literal)

/-! ## Expressions -/

/-- The room that an expression takes away from those in parentheses inside it. -/
def expressionRoom : Nat := 12

def binary (operand : Reader Expr) : Reader Expr :=
  chain isEquality (chain isComparison (chain isSum (chain isProduct operand)))

/-- An expression for which there is some room.  The first number bounds how many expressions
may be open inside each other, as the room does. -/
def expressionWithin : Nat → Nat → Reader Expr
  | 0, _ => fail .tooDeep
  | count + 1, room =>
    if room < expressionRoom then fail .tooDeep
    else
      let operand room := binary (unary (primary (expressionWithin count)) room)
      assignment operand (room - expressionRoom)

def expression (room : Nat) : Reader Expr := expressionWithin room room

end BilingualScript.Reader
