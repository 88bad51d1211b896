import BilingualScript.Proofs.Evaluation.Arrival
import BilingualScript.Proofs.Session.Locality

/-!
# Expressions that are too deep

An expression with more levels than there is room for has no value.  The run ends at the statement
to which it belongs, however many blocks that is in, and the session is outside of all of them
again.
-/

namespace BilingualScript

theorem Scope.outermost_iterate_leave (scope : Scope) (count : Nat) :
    (leave^[count] scope).outermost = scope.outermost := by
  induction count with
  | zero => rfl
  | succ count ih => rw [Function.iterate_succ_apply', outermost_leave, ih]

theorem Scope.eq_global_of_level {scope : Scope} (outside : scope.level = 0) :
    scope = .global scope.outermost := by
  obtain ⟨frame, rfl⟩ := exists_global_of_level outside
  rfl

theorem Expr.eval_negated (operator : Token) (expr : Expr) (depth : Nat) :
    ((Expr.unary operator)^[depth] expr).eval depth = .fail .tooDeep := by
  induction depth with
  | zero => rfl
  | succ depth ih =>
      rw [Function.iterate_succ_apply', eval, ih]
      rfl

namespace Session

/-- A run stops for depth exactly if it arrives at an expression that is too deep.  Then there is
one report, at the token of the statement to which that expression belongs, which is no if statement
around that; for an if statement it is the token of its own first condition.  All that was printed
before is kept, nothing behind is run, and the session is outside of all blocks again, with the
values of that moment. -/
theorem interpret_of_tooDeep (diagnostics : Diagnostics) (frame : Frame) (calls : Nat)
    (stmts : List Stmt) :
    let session : Session := ⟨diagnostics, .global frame⟩
    let room := calls - runningCalls
    ((Block.exec room stmts (.global frame)).fault? = some .tooDeep ↔
      ∃ arrival after, Block.Arrives room stmts (.global frame) arrival ∧
        arrival.result = (.error .tooDeep, after)) ∧
    ∀ arrival after, Block.Arrives room stmts (.global frame) arrival →
      arrival.result = (.error .tooDeep, after) →
      let report := diagnostics.runtimeReport arrival.stmt.token "Expression nested too deeply."
      session.interpret calls (stmts.map some) =
          (⟨diagnostics.note [report], .global after.outermost⟩, ⟨arrival.outputs, [report]⟩) ∧
        arrival.expr ∈ arrival.stmt.expressions ∧
        (∀ condition body otherwise, arrival.stmt = .kalo condition body otherwise →
          arrival.stmt.token = condition.token?.getD (.eof .start)) ∧
        ∀ other, Block.Arrives room stmts (.global frame) other → other.Fails →
          other = arrival := by
  intro session room
  refine ⟨Block.fault?_exec_iff room stmts _ _, fun arrival after arrives deep => ?_⟩
  intro report
  have run : Program.exec room (stmts.map some) session.scope = arrival.stopped .tooDeep after := by
    rw [Program.exec_map_some]
    exact Block.exec_of_arrives arrives deep
  have outside : (Scope.leave^[arrival.blocks] after).level = 0 := by
    have level := session.interpret_level calls (stmts.map some)
    rwa [interpret, run] at level
  have back : Scope.leave^[arrival.blocks] after = .global after.outermost :=
    (Scope.eq_global_of_level outside).trans
      (congrArg Scope.global (after.outermost_iterate_leave arrival.blocks))
  refine ⟨?_, arrives.mem_expressions, ?_, ?_⟩
  · rw [interpret, run, Arrival.stopped, back]
    rfl
  · intro condition body otherwise same
    rw [same]
    rfl
  · intro other arrives' fails'
    exact arrives.unique ⟨_, _, deep⟩ arrives' fails'

/-- An expression with a level more than there is room for in a block of a block, where it stands
between two other statements.  It would not be too deep outside of the blocks. -/
theorem interpret_of_tooDeep_in_blocks :
    let bang : Token := ⟨.bang, "!", .hampa, ⟨4, 7⟩⟩
    let name : Token := ⟨.identifier, "x", .hampa, ⟨3, 1⟩⟩
    let last : Stmt := .spill (.literal .hampa)
    let body (expr : Expr) : List Stmt :=
      [.expression (.assign name (.literal (.text "b"))), .spill expr, last]
    let stmts (expr : Expr) : List Stmt :=
      [.spill (.literal (.text "a")),
        .kalo (.literal (.truth true))
          [.kalo (.literal (.truth true)) (body expr) .nothing, last] .nothing,
        last]
    let frame : Frame := [("x", .hampa)]
    let after : Scope := .nested [] (.nested [] (.global [("x", .text "b")]))
    let arrival (expr : Expr) : Arrival := ⟨.spill expr, expr, 982, after, ["a"], 2⟩
    let deep : Expr := .unary bang ((Expr.unary bang)^[326] (.literal (.truth true)))
    let report : Report := ⟨.runtimeError, ⟨4, 7⟩, "Expression nested too deeply.", none⟩
    Block.Arrives 990 (stmts deep) (.global frame) (arrival deep) ∧
      (arrival deep).result = (.error .tooDeep, after) ∧
      interpret ⟨.initial, .global frame⟩ 994 ((stmts deep).map some) =
        (⟨Diagnostics.initial.note [report], .global [("x", .text "b")]⟩, ⟨["a"], [report]⟩) := by
  intro bang name last body stmts frame after arrival deep report
  have arrives (expr : Expr) :
      Block.Arrives 990 (stmts expr) (.global frame) (arrival expr) := by
    have inside : Block.Arrives (990 - blockRoom - blockRoom) (body expr)
        (.nested [] (.nested [] (.global frame)))
        (.behind (.start (.spill expr) expr 982 after) []) := .behind rfl (.here (.value rfl))
    have outside : Block.Arrives 990 (stmts expr) (.global frame)
        (.behind (.inside (.inside (.behind (.start (.spill expr) expr 982 after) []))) ["a"]) :=
      .behind rfl (.here (.kalo (.body rfl rfl (.here (.kalo (.body rfl rfl inside))))))
    exact outside
  have fails : (arrival deep).result = (.error .tooDeep, after) := by
    have negated := Expr.eval_negated bang (.literal (.truth true)) (982 / levelRoom)
    rw [show 982 / levelRoom = 326 + 1 from rfl, Function.iterate_succ_apply'] at negated
    rw [Arrival.result, Expr.value, show 982 / levelRoom = 326 + 1 from rfl, negated]
    rfl
  obtain ⟨_, stops⟩ := interpret_of_tooDeep .initial frame 994 (stmts deep)
  exact ⟨arrives deep, fails, (stops _ _ (arrives deep) fails).1⟩

end Session

end BilingualScript
