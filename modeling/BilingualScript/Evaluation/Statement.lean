import BilingualScript.Evaluation.Expression

/-!
# Running statements

A run prints texts and changes the scope until it ends or fails.  A block runs in a scope of
its own, which is left in either case, and with less room for nesting than what is around it.
-/

namespace BilingualScript

structure Execution where
  outputs : List String
  failure : Option Failure
  scope : Scope
  deriving DecidableEq, Repr, Inhabited

namespace Execution

def idle (scope : Scope) : Execution := ⟨[], none, scope⟩

def andThen (first : Execution) (next : Scope → Execution) : Execution :=
  match first.failure with
  | some _ => first
  | none =>
    let second := next first.scope
    { second with outputs := first.outputs ++ second.outputs }

/-- Goes on with the value of an expression.  A fault is reported at its own token or, where
it has none, at the given one. -/
def withValue (room : Nat) (token : Token) (expr : Expr) (next : Value → Scope → Execution)
    (scope : Scope) : Execution :=
  match (expr.value room).run scope with
  | (.ok value, after) => next value after
  | (.error fault, after) => ⟨[], some (fault.within token), after⟩

def inBlock (body : Scope → Execution) (scope : Scope) : Execution :=
  let inner := body scope.enter
  { inner with scope := inner.scope.leave }

end Execution

mutual

def Stmt.exec : Nat → Stmt → Scope → Execution
  | room, .expression value =>
    .withValue room (Stmt.expression value).token value fun _ => .idle
  | room, .spill value =>
    .withValue room (Stmt.spill value).token value fun value scope =>
      ⟨[value.display], none, scope⟩
  | _, .declare name none => fun scope => .idle (scope.define name.lexeme .hampa)
  | room, .declare name (some initial) =>
    .withValue room name initial fun value scope => .idle (scope.define name.lexeme value)
  | room, .kalo condition body otherwise =>
    let token := condition.token?.getD (.eof .start)
    .withValue room token condition fun value scope =>
      if value.holds then .inBlock (Block.exec (room - blockRoom) body) scope
      else otherwise.exec room token scope

/-- The branches behind a condition that does not hold.  What is reported for the whole
statement is reported at the given token. -/
def Otherwise.exec : Nat → Otherwise → Token → Scope → Execution
  | _, .nothing, _ => .idle
  | room, .kalogak body, _ => .inBlock (Block.exec (room - blockRoom) body)
  | room, .perhaps condition body otherwise, token =>
    .withValue room token condition fun value scope =>
      if value.holds then .inBlock (Block.exec (room - blockRoom) body) scope
      else otherwise.exec room token scope

def Block.exec : Nat → List Stmt → Scope → Execution
  | _, [] => .idle
  | room, stmt :: rest => fun scope => (stmt.exec room scope).andThen (Block.exec room rest)

end

def Program.exec (room : Nat) (program : Program) (scope : Scope) : Execution :=
  Block.exec room (program.filterMap id) scope

@[simp] theorem Program.exec_map_some (room : Nat) (stmts : List Stmt) (scope : Scope) :
    Program.exec room (stmts.map some) scope = Block.exec room stmts scope := by
  simp [exec]

end BilingualScript
