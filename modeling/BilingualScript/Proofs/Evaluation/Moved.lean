import BilingualScript.Evaluation.Statement
import BilingualScript.Proofs.Program.Moved

/-!
# Runs of moved programs

A program that stands some lines farther down in a text runs as it does higher up.  What it reports
is farther down as well, unless it concerns the depth of a statement, which has no place of its own.
-/

namespace BilingualScript

/-! ## Faults -/

def Fault.moved (lines : Int) : Fault → Fault
  | .undefinedVariable name => .undefinedVariable (name.moved lines)
  | .operandNotNumber operator => .operandNotNumber (operator.moved lines)
  | .operandsNotNumbers operator => .operandsNotNumbers (operator.moved lines)
  | .operandsMismatched operator => .operandsMismatched (operator.moved lines)
  | .unknownUnary operator => .unknownUnary (operator.moved lines)
  | .unknownBinary operator => .unknownBinary (operator.moved lines)
  | .tooDeep => .tooDeep

namespace Fault

variable (lines : Int) (fault : Fault)

@[simp] theorem message_moved : (fault.moved lines).message = fault.message := by
  cases fault <;> rfl

theorem token?_moved : (fault.moved lines).token? = fault.token?.map (Token.moved lines) := by
  cases fault <;> rfl

end Fault

/-! ## Expressions -/

namespace Evaluation

variable {α β : Type} (lines : Int)

def moved (evaluation : Evaluation α) : Evaluation α := fun scope =>
  ((evaluation.run scope).1.mapError (Fault.moved lines), (evaluation.run scope).2)

theorem run_moved (evaluation : Evaluation α) (scope : Scope) :
    (evaluation.moved lines).run scope =
      ((evaluation.run scope).1.mapError (Fault.moved lines), (evaluation.run scope).2) := rfl

theorem moved_ofExcept (result : Except Fault α) :
    (ofExcept result).moved lines = ofExcept (result.mapError (Fault.moved lines)) := rfl

theorem moved_bind (evaluation : Evaluation α) (next : α → Evaluation β) :
    (evaluation >>= next).moved lines =
      evaluation.moved lines >>= fun value => (next value).moved lines := by
  funext scope
  change ((evaluation >>= next).moved lines).run scope = Evaluation.run _ scope
  rw [run_moved, run_bind, run_bind, run_moved]
  rcases evaluation.run scope with ⟨fault | value, after⟩
  · rfl
  · rfl

theorem moved_lookup (name : Token) :
    (lookup name).moved lines = lookup (name.moved lines) := by
  funext scope
  unfold moved Evaluation.run lookup
  rw [Token.lexeme_moved]
  split
  · rfl
  · rfl

theorem moved_assign (name : Token) (value : Value) :
    (assign name value).moved lines = assign (name.moved lines) value := by
  funext scope
  unfold moved Evaluation.run assign
  rw [Token.lexeme_moved]
  split
  · rfl
  · rfl

end Evaluation

variable (lines : Int)

theorem applyUnary_moved (operator : Token) (operand : Value) :
    applyUnary (operator.moved lines) operand =
      (applyUnary operator operand).mapError (Fault.moved lines) := by
  unfold applyUnary
  rw [Token.kind_moved]
  split
  · rfl
  · split <;> rfl
  · rfl

theorem applyBinary_moved (operator : Token) (left right : Value) :
    applyBinary (operator.moved lines) left right =
      (applyBinary operator left right).mapError (Fault.moved lines) := by
  unfold applyBinary
  rw [Token.kind_moved]
  split
  · rfl
  · rfl
  · unfold applyPlus
    split <;> rfl
  · split
    · rfl
    · split <;> rfl

theorem Expr.eval_moved (depth : Nat) (expr : Expr) :
    (expr.moved lines).eval depth = (expr.eval depth).moved lines := by
  induction depth generalizing expr with
  | zero => rfl
  | succ depth ih =>
      cases expr with
      | literal => rfl
      | grouping inner => exact ih inner
      | unary operator operand =>
          simp only [moved, eval, ih, Evaluation.moved_bind, Evaluation.moved_ofExcept,
            applyUnary_moved]
      | binary left operator right =>
          simp only [moved, eval, ih, Evaluation.moved_bind, Evaluation.moved_ofExcept,
            applyBinary_moved]
      | reference name => exact (Evaluation.moved_lookup lines name).symm
      | assign name value =>
          simp only [moved, eval, ih, Evaluation.moved_bind, Evaluation.moved_assign]

/-! ## Statements -/

/-- A failure farther down.  One that concerns depth may be reported anywhere. -/
def Failure.MovedTo (failure other : Failure) : Prop :=
  other.fault = failure.fault.moved lines ∧
    (failure.fault ≠ .tooDeep → other.token = failure.token.moved lines)

theorem Fault.within_moved (fault : Fault) (token token' : Token) :
    Failure.MovedTo lines (fault.within token) ((fault.moved lines).within token') := by
  refine ⟨rfl, fun placed => ?_⟩
  obtain ⟨found, place⟩ := Option.ne_none_iff_exists'.1 (mt fault.token?_eq_none_iff.1 placed)
  simp [within, token?_moved, place]

namespace Execution

structure MovedTo (run other : Execution) : Prop where
  outputs : other.outputs = run.outputs
  failure : Option.Rel (Failure.MovedTo lines) run.failure other.failure
  scope : other.scope = run.scope

variable {lines} {first second : Execution} {next next' : Scope → Execution} {scope : Scope}

theorem movedTo_of_clean (outputs : List String) (scope : Scope) :
    MovedTo lines ⟨outputs, none, scope⟩ ⟨outputs, none, scope⟩ := ⟨rfl, .none, rfl⟩

theorem MovedTo.eq_of_clean {outputs : List String} (moved : MovedTo lines first second)
    (clean : first = ⟨outputs, none, scope⟩) : second = ⟨outputs, none, scope⟩ := by
  subst clean
  obtain ⟨outputs', failure', scope'⟩ := second
  obtain ⟨rfl, failure, rfl⟩ := moved
  cases failure
  rfl

theorem MovedTo.andThen (moved : MovedTo lines first second)
    (after : ∀ scope, MovedTo lines (next scope) (next' scope)) :
    MovedTo lines (first.andThen next) (second.andThen next') := by
  obtain ⟨outputs, failure, middle⟩ := first
  obtain ⟨outputs', failure', middle'⟩ := second
  obtain ⟨rfl, related, rfl⟩ := moved
  cases related with
  | some failed => exact ⟨rfl, .some failed, rfl⟩
  | none =>
      obtain ⟨same, related, same'⟩ := after middle'
      exact ⟨congrArg (_ ++ ·) same, related, same'⟩

theorem MovedTo.withValue {room : Nat} {token token' : Token} {expr : Expr}
    {next next' : Value → Scope → Execution}
    (after : ∀ value scope, MovedTo lines (next value scope) (next' value scope)) :
    MovedTo lines (Execution.withValue room token expr next scope)
      (Execution.withValue room token' (expr.moved lines) next' scope) := by
  unfold Execution.withValue Expr.value
  rw [Expr.eval_moved, Evaluation.run_moved]
  rcases (expr.eval (room / levelRoom)).run scope with ⟨fault | value, middle⟩
  · exact ⟨rfl, .some (fault.within_moved lines token token'), rfl⟩
  · exact after value middle

theorem MovedTo.ite {condition : Prop} [Decidable condition] {other other' : Execution}
    (moved : MovedTo lines first second) (moved' : MovedTo lines other other') :
    MovedTo lines (if condition then first else other) (if condition then second else other') := by
  split
  · exact moved
  · exact moved'

theorem MovedTo.inBlock (moved : MovedTo lines (next scope.enter) (next' scope.enter)) :
    MovedTo lines (Execution.inBlock next scope) (Execution.inBlock next' scope) where
  outputs := moved.outputs
  failure := moved.failure
  scope := congrArg Scope.leave moved.scope

end Execution

open Execution

mutual

theorem Stmt.exec_moved (room : Nat) (stmt : Stmt) (scope : Scope) :
    MovedTo lines (stmt.exec room scope) ((stmt.moved lines).exec room scope) := by
  match stmt with
  | .expression value => exact .withValue fun _ scope => movedTo_of_clean [] scope
  | .spill value => exact .withValue fun value scope => movedTo_of_clean [value.display] scope
  | .declare name none => exact movedTo_of_clean [] _
  | .declare name (some value) => exact .withValue fun _ _ => movedTo_of_clean [] _
  | .kalo condition body otherwise =>
      exact .withValue fun value middle => .ite (.inBlock (Block.exec_moved _ body _))
        (Otherwise.exec_moved room otherwise _ _ middle)

theorem Otherwise.exec_moved (room : Nat) (otherwise : Otherwise) (token token' : Token)
    (scope : Scope) :
    MovedTo lines (otherwise.exec room token scope)
      ((otherwise.moved lines).exec room token' scope) := by
  match otherwise with
  | .nothing => exact movedTo_of_clean [] scope
  | .kalogak body => exact .inBlock (Block.exec_moved _ body _)
  | .perhaps condition body otherwise =>
      exact .withValue fun value middle => .ite (.inBlock (Block.exec_moved _ body _))
        (Otherwise.exec_moved room otherwise _ _ middle)

theorem Block.exec_moved (room : Nat) (stmts : List Stmt) (scope : Scope) :
    MovedTo lines (Block.exec room stmts scope)
      (Block.exec room (Block.moved lines stmts) scope) := by
  match stmts with
  | [] => exact movedTo_of_clean [] scope
  | stmt :: rest => exact (Stmt.exec_moved room stmt scope).andThen (Block.exec_moved room rest)

end

end BilingualScript
