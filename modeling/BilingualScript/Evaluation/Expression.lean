import BilingualScript.Evaluation.Operators
import BilingualScript.Scope.Basic

/-!
# Evaluating expressions

An evaluation yields a value or a fault, and in both cases a scope: what was assigned before
a fault stays assigned.  Operands are evaluated from left to right, both of them before the
operator is looked at.
-/

namespace BilingualScript

def Evaluation (α : Type) : Type := Scope → Except Fault α × Scope

namespace Evaluation

variable {α β : Type}

def run (evaluation : Evaluation α) (scope : Scope) : Except Fault α × Scope := evaluation scope

protected def pure (value : α) : Evaluation α := fun scope => (.ok value, scope)

protected def bind (evaluation : Evaluation α) (next : α → Evaluation β) : Evaluation β :=
  fun scope =>
    match evaluation.run scope with
    | (.ok value, after) => (next value).run after
    | (.error fault, after) => (.error fault, after)

instance : Monad Evaluation where
  pure := Evaluation.pure
  bind := Evaluation.bind

@[simp] theorem run_pure (value : α) (scope : Scope) :
    (pure value : Evaluation α).run scope = (.ok value, scope) := rfl

theorem run_bind (evaluation : Evaluation α) (next : α → Evaluation β) (scope : Scope) :
    (evaluation >>= next).run scope =
      match evaluation.run scope with
      | (.ok value, after) => (next value).run after
      | (.error fault, after) => (.error fault, after) := rfl

def ofExcept (result : Except Fault α) : Evaluation α := fun scope => (result, scope)

@[simp] theorem run_ofExcept (result : Except Fault α) (scope : Scope) :
    (ofExcept result).run scope = (result, scope) := rfl

def fail (fault : Fault) : Evaluation α := ofExcept (.error fault)

def lookup (name : Token) : Evaluation Value := fun scope =>
  match scope.lookup? name.lexeme with
  | some value => (.ok value, scope)
  | none => (.error (.undefinedVariable name), scope)

def assign (name : Token) (value : Value) : Evaluation Value := fun scope =>
  match scope.assign? name.lexeme value with
  | some after => (.ok value, after)
  | none => (.error (.undefinedVariable name), scope)

end Evaluation

/-- Evaluates an expression of which at most a number of levels may be entered. -/
def Expr.eval : Nat → Expr → Evaluation Value
  | 0, _ => .fail .tooDeep
  | _ + 1, .literal value => .pure value
  | depth + 1, .grouping inner => inner.eval depth
  | depth + 1, .unary operator operand => do
    let operand ← operand.eval depth
    .ofExcept (applyUnary operator operand)
  | depth + 1, .binary left operator right => do
    let left ← left.eval depth
    let right ← right.eval depth
    .ofExcept (applyBinary operator left right)
  | _ + 1, .reference name => .lookup name
  | depth + 1, .assign name value => do
    let value ← value.eval depth
    .assign name value

/-- The room that a level of an expression takes away from those inside it. -/
def levelRoom : Nat := 3

def Expr.value (room : Nat) (expr : Expr) : Evaluation Value := expr.eval (room / levelRoom)

end BilingualScript
