import BilingualScript.Token.Basic

/-!
# Programs

The trees of the language.  Expressions keep the tokens of their operators and names, which
is where mistakes in them are reported.
-/

namespace BilingualScript

inductive Expr where
  | literal (value : Value)
  | grouping (inner : Expr)
  | unary (operator : Token) (operand : Expr)
  | binary (left : Expr) (operator : Token) (right : Expr)
  | reference (name : Token)
  | assign (name : Token) (value : Expr)
  deriving DecidableEq, Repr, Inhabited

mutual

/-- A declaration without an initial value binds `hampa`. -/
inductive Stmt where
  | expression (value : Expr)
  | spill (value : Expr)
  | declare (name : Token) (initial : Option Expr)
  | kalo (condition : Expr) (body : List Stmt) (otherwise : Otherwise)

inductive Otherwise where
  | nothing
  | kalogak (body : List Stmt)
  | perhaps (condition : Expr) (body : List Stmt) (otherwise : Otherwise)

end

instance : Inhabited Stmt := ⟨.expression default⟩

/-- A program as it was read: a statement that could not be read leaves a gap. -/
abbrev Program := List (Option Stmt)

/-! ## The token of a statement -/

/-- The outermost operator or name of an expression, looked for through parentheses. -/
def Expr.token? : Expr → Option Token
  | .literal _ => none
  | .grouping inner => inner.token?
  | .unary operator _ => some operator
  | .binary _ operator _ => some operator
  | .reference name => some name
  | .assign name _ => some name

/-- Where a statement as a whole is reported: at the name that it declares, or at the token
of its expression or condition, or at the start of the text if there is none. -/
def Stmt.token : Stmt → Token
  | .declare name _ => name
  | .expression value | .spill value | .kalo value _ _ => value.token?.getD (.eof .start)

/-- The room for nesting that an if statement takes away from the statements inside it, when
they are read and when they run. -/
def blockRoom : Nat := 4

end BilingualScript
