import BilingualScript.Proofs.Evaluation.Room
import BilingualScript.Session

/-!
# Parentheses

Parentheses group and mean nothing else.  A program without them does what it does with them, and
needs no more room for it.
-/

namespace BilingualScript

/-! ## Trees without parentheses -/

def Expr.ungrouped : Expr → Expr
  | .literal value => .literal value
  | .grouping inner => inner.ungrouped
  | .unary operator operand => .unary operator operand.ungrouped
  | .binary left operator right => .binary left.ungrouped operator right.ungrouped
  | .reference name => .reference name
  | .assign name value => .assign name value.ungrouped

mutual

def Stmt.ungrouped : Stmt → Stmt
  | .expression value => .expression value.ungrouped
  | .spill value => .spill value.ungrouped
  | .declare name none => .declare name none
  | .declare name (some initial) => .declare name (some initial.ungrouped)
  | .kalo condition body otherwise =>
    .kalo condition.ungrouped (Block.ungrouped body) otherwise.ungrouped

def Otherwise.ungrouped : Otherwise → Otherwise
  | .nothing => .nothing
  | .kalogak body => .kalogak (Block.ungrouped body)
  | .perhaps condition body otherwise =>
    .perhaps condition.ungrouped (Block.ungrouped body) otherwise.ungrouped

def Block.ungrouped : List Stmt → List Stmt
  | [] => []
  | stmt :: rest => stmt.ungrouped :: Block.ungrouped rest

end

def Expr.groupings : Expr → Nat
  | .literal _ | .reference _ => 0
  | .grouping inner => inner.groupings + 1
  | .unary _ operand => operand.groupings
  | .binary left _ right => left.groupings + right.groupings
  | .assign _ value => value.groupings

mutual

def Stmt.groupings : Stmt → Nat
  | .expression value | .spill value => value.groupings
  | .declare _ none => 0
  | .declare _ (some initial) => initial.groupings
  | .kalo condition body otherwise =>
    condition.groupings + Block.groupings body + otherwise.groupings

def Otherwise.groupings : Otherwise → Nat
  | .nothing => 0
  | .kalogak body => Block.groupings body
  | .perhaps condition body otherwise =>
    condition.groupings + Block.groupings body + otherwise.groupings

def Block.groupings : List Stmt → Nat
  | [] => 0
  | stmt :: rest => stmt.groupings + Block.groupings rest

end

@[simp] theorem Expr.groupings_ungrouped (expr : Expr) : expr.ungrouped.groupings = 0 := by
  induction expr with
  | literal | reference => rfl
  | grouping _ ih | unary _ _ ih | assign _ _ ih => exact ih
  | binary _ _ _ ih ih' => rw [ungrouped, groupings, ih, ih']

mutual

theorem Stmt.groupings_ungrouped (stmt : Stmt) : stmt.ungrouped.groupings = 0 := by
  match stmt with
  | .expression _ | .spill _ | .declare _ none | .declare _ (some _) =>
      simp [Stmt.ungrouped, Stmt.groupings]
  | .kalo _ body otherwise =>
      simp [Stmt.ungrouped, Stmt.groupings, Block.groupings_ungrouped body,
        Otherwise.groupings_ungrouped otherwise]

theorem Otherwise.groupings_ungrouped (otherwise : Otherwise) :
    otherwise.ungrouped.groupings = 0 := by
  match otherwise with
  | .nothing => rfl
  | .kalogak body => exact Block.groupings_ungrouped body
  | .perhaps _ body otherwise =>
      simp [Otherwise.ungrouped, Otherwise.groupings, Block.groupings_ungrouped body,
        Otherwise.groupings_ungrouped otherwise]

theorem Block.groupings_ungrouped (stmts : List Stmt) :
    Block.groupings (Block.ungrouped stmts) = 0 := by
  match stmts with
  | [] => rfl
  | stmt :: rest =>
      simp [Block.ungrouped, Block.groupings, Stmt.groupings_ungrouped stmt,
        Block.groupings_ungrouped rest]

end

/-! ## Where statements are reported -/

@[simp] theorem Expr.token?_ungrouped (expr : Expr) : expr.ungrouped.token? = expr.token? := by
  induction expr with
  | grouping _ ih => exact ih
  | literal | unary | binary | reference | assign => rfl

theorem Stmt.token_ungrouped (stmt : Stmt) : stmt.ungrouped.token = stmt.token := by
  cases stmt with
  | declare _ initial => cases initial <;> rfl
  | expression value | spill value | kalo value _ _ =>
      exact congrArg (·.getD (.eof .start)) value.token?_ungrouped

/-! ## Expressions -/

open Evaluation in
theorem Expr.eval_ungrouped (depth : Nat) (expr : Expr) :
    Agrees (expr.eval depth) (expr.ungrouped.eval depth) := by
  induction depth generalizing expr with
  | zero => exact agrees_tooDeep _
  | succ depth ih =>
      cases expr with
      | literal | reference => exact agrees_self _
      -- The level of the parentheses is left over to what is in them.
      | grouping inner => exact (ih inner).trans (inner.ungrouped.eval_agrees (Nat.le_succ depth))
      | unary _ operand => exact (ih operand).bind fun _ => agrees_self _
      | binary left _ right =>
          exact (ih left).bind fun _ => (ih right).bind fun _ => agrees_self _
      | assign _ value => exact (ih value).bind fun _ => agrees_self _

/-! ## Statements -/

open Execution

theorem Expr.value_ungrouped (room : Nat) (expr : Expr) :
    Evaluation.Agrees (expr.value room) (expr.ungrouped.value room) :=
  expr.eval_ungrouped _

mutual

theorem Stmt.exec_ungrouped (room : Nat) (stmt : Stmt) (scope : Scope) :
    Agrees (stmt.exec room scope) (stmt.ungrouped.exec room scope) := by
  match stmt with
  | .declare _ none => exact agrees_self _
  | .declare _ (some initial) =>
      exact .withValue (initial.value_ungrouped room) (fun _ _ => agrees_self _) scope
  | .expression value =>
      rw [Stmt.ungrouped, Stmt.exec, Stmt.exec, ← Stmt.ungrouped, Stmt.token_ungrouped]
      exact .withValue (value.value_ungrouped room) (fun _ _ => agrees_self _) scope
  | .spill value =>
      rw [Stmt.ungrouped, Stmt.exec, Stmt.exec, ← Stmt.ungrouped, Stmt.token_ungrouped]
      exact .withValue (value.value_ungrouped room) (fun _ _ => agrees_self _) scope
  | .kalo condition body otherwise =>
      rw [Stmt.ungrouped, Stmt.exec, Stmt.exec, condition.token?_ungrouped]
      exact .withValue (condition.value_ungrouped room)
        (fun _ middle => .ite (.inBlock (Block.exec_ungrouped _ body) middle)
          (Otherwise.exec_ungrouped room otherwise _ middle)) scope

theorem Otherwise.exec_ungrouped (room : Nat) (otherwise : Otherwise) (token : Token)
    (scope : Scope) :
    Agrees (otherwise.exec room token scope) (otherwise.ungrouped.exec room token scope) := by
  match otherwise with
  | .nothing => exact agrees_self _
  | .kalogak body => exact .inBlock (Block.exec_ungrouped _ body) scope
  | .perhaps condition body otherwise =>
      exact .withValue (condition.value_ungrouped room)
        (fun _ middle => .ite (.inBlock (Block.exec_ungrouped _ body) middle)
          (Otherwise.exec_ungrouped room otherwise token middle)) scope

theorem Block.exec_ungrouped (room : Nat) (stmts : List Stmt) (scope : Scope) :
    Agrees (Block.exec room stmts scope) (Block.exec room (Block.ungrouped stmts) scope) := by
  match stmts with
  | [] => exact agrees_self _
  | stmt :: rest =>
      exact (Stmt.exec_ungrouped room stmt scope).andThen (Block.exec_ungrouped room rest)

end

/-- Unless a run is stopped by depth, the same program without any parentheses prints the same,
leaves the same values in every frame and fails in the same way at the same token, and the session
goes on from there alike.  A statement is reported as a whole where it is with its parentheses. -/
theorem Session.interpret_ungrouped (session : Session) (calls : Nat) (stmts : List Stmt)
    (shallow : (Program.exec (calls - runningCalls) (stmts.map some) session.scope).fault? ≠
      some .tooDeep) :
    Block.groupings (Block.ungrouped stmts) = 0 ∧
      Program.exec (calls - runningCalls) ((Block.ungrouped stmts).map some) session.scope =
        Program.exec (calls - runningCalls) (stmts.map some) session.scope ∧
      session.interpret calls ((Block.ungrouped stmts).map some) =
        session.interpret calls (stmts.map some) ∧
      ∀ stmt : Stmt, stmt.ungrouped.token = stmt.token := by
  rw [Program.exec_map_some] at shallow
  have same : Program.exec (calls - runningCalls) ((Block.ungrouped stmts).map some)
      session.scope = Program.exec (calls - runningCalls) (stmts.map some) session.scope := by
    rw [Program.exec_map_some, Program.exec_map_some]
    exact Block.exec_ungrouped _ stmts session.scope shallow
  refine ⟨Block.groupings_ungrouped stmts, same, ?_, Stmt.token_ungrouped⟩
  rw [interpret, interpret, same]

/-- Parentheses around an initial value, a condition, an assignment and the operand at fault. -/
theorem Session.interpret_ungrouped_of_assignment :
    let x : Token := ⟨.identifier, "x", .hampa, ⟨1, 11⟩⟩
    let minus : Token := ⟨.minus, "-", .hampa, ⟨3, 25⟩⟩
    let raised : Expr := .grouping (.assign x (.grouping (.literal (.text "b"))))
    let negated : Expr := .unary minus (.grouping (.grouping (.reference x)))
    let stmts : List Stmt := [.declare x (some (.grouping (.literal (.text "a")))),
      .kalo (.grouping (.literal (.truth true))) [.spill raised, .spill negated] .nothing]
    let plain : List Stmt := [.declare x (some (.literal (.text "a"))),
      .kalo (.literal (.truth true))
        [.spill (.assign x (.literal (.text "b"))), .spill (.unary minus (.reference x))] .nothing]
    Block.ungrouped stmts = plain ∧
      Program.exec 990 (stmts.map some) initial.scope =
        ⟨["b"], some ⟨.operandNotNumber minus, minus⟩, .global [("x", .text "b")]⟩ ∧
      initial.interpret 994 (plain.map some) = initial.interpret 994 (stmts.map some) := by
  intro x minus raised negated stmts plain
  have run : Program.exec 990 (stmts.map some) initial.scope =
      ⟨["b"], some ⟨.operandNotNumber minus, minus⟩, .global [("x", .text "b")]⟩ := by
    decide +kernel
  have shallow : (Program.exec 990 (stmts.map some) initial.scope).fault? ≠ some .tooDeep := by
    rw [run]
    decide
  obtain ⟨_, _, same, _⟩ := interpret_ungrouped initial 994 stmts shallow
  exact ⟨rfl, run, same⟩

end BilingualScript
