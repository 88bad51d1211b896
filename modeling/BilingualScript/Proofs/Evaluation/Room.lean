import BilingualScript.Proofs.Evaluation.Visits

/-!
# Room

A run that is not stopped by depth does the same with more room.
-/

namespace BilingualScript

/-! ## Expressions -/

namespace Evaluation

variable {α β : Type}

/-- Another evaluation does the same as one that is not stopped by its depth. -/
def Agrees (evaluation other : Evaluation α) : Prop :=
  ∀ scope result after, evaluation.run scope = (result, after) → result ≠ .error .tooDeep →
    other.run scope = (result, after)

theorem agrees_self (evaluation : Evaluation α) : Agrees evaluation evaluation :=
  fun _ _ _ run _ => run

theorem agrees_tooDeep (other : Evaluation α) : Agrees (fail .tooDeep) other :=
  fun _ _ _ run shallow => absurd (congrArg Prod.fst run).symm shallow

theorem Agrees.trans {first second third : Evaluation α} (agrees : Agrees first second)
    (agrees' : Agrees second third) : Agrees first third :=
  fun scope result after run shallow =>
    agrees' scope result after (agrees scope result after run shallow) shallow

theorem Agrees.bind {evaluation other : Evaluation α} {next next' : α → Evaluation β}
    (first : Agrees evaluation other) (second : ∀ value, Agrees (next value) (next' value)) :
    Agrees (evaluation >>= next) (other >>= next') := by
  intro scope result after run shallow
  rw [run_bind] at run ⊢
  split at run
  · next found =>
    rw [first _ _ _ found (by simp)]
    exact second _ _ _ _ run shallow
  · next found =>
    obtain ⟨rfl, rfl⟩ := Prod.mk.inj run
    rw [first _ _ _ found (by simpa using shallow)]

end Evaluation

open Evaluation in
theorem Expr.eval_agrees {depth depth' : Nat} (enough : depth ≤ depth') (expr : Expr) :
    Agrees (expr.eval depth) (expr.eval depth') := by
  induction depth generalizing depth' expr with
  | zero => exact agrees_tooDeep _
  | succ depth ih =>
      obtain ⟨depth', rfl⟩ := Nat.exists_eq_add_one_of_ne_zero (Nat.ne_zero_of_lt enough)
      have inside := Nat.le_of_succ_le_succ enough
      cases expr with
      | literal | reference => exact agrees_self _
      | grouping inner => exact ih inside inner
      | unary _ operand => exact (ih inside operand).bind fun _ => agrees_self _
      | binary left _ right =>
          exact (ih inside left).bind fun _ => (ih inside right).bind fun _ => agrees_self _
      | assign _ value => exact (ih inside value).bind fun _ => agrees_self _

theorem Expr.value_agrees {room room' : Nat} (enough : room ≤ room') (expr : Expr) :
    Evaluation.Agrees (expr.value room) (expr.value room') :=
  expr.eval_agrees (Nat.div_le_div_right enough)

/-! ## Statements -/

namespace Execution

def Agrees (run other : Execution) : Prop := run.fault? ≠ some .tooDeep → other = run

variable {first second : Execution}

theorem agrees_self (run : Execution) : Agrees run run := fun _ => rfl

theorem Agrees.andThen {next next' : Scope → Execution} (agrees : Agrees first second)
    (after : ∀ scope, Agrees (next scope) (next' scope)) :
    Agrees (first.andThen next) (second.andThen next') := by
  intro shallow
  obtain ⟨outputs, failure, middle⟩ := first
  cases failure with
  | some failure => rw [agrees shallow, Execution.andThen, Execution.andThen]
  | none =>
      rw [agrees (by simp [fault?])]
      exact congrArg (fun behind => { behind with outputs := outputs ++ behind.outputs })
        (after middle shallow)

theorem Agrees.withValue {room room' : Nat} {token : Token} {expr expr' : Expr}
    {next next' : Value → Scope → Execution}
    (values : Evaluation.Agrees (expr.value room) (expr'.value room'))
    (after : ∀ value scope, Agrees (next value scope) (next' value scope)) (scope : Scope) :
    Agrees (Execution.withValue room token expr next scope)
      (Execution.withValue room' token expr' next' scope) := by
  intro shallow
  unfold Execution.withValue at shallow ⊢
  rcases run : (expr.value room).run scope with ⟨fault | value, middle⟩
  · rw [run] at shallow
    have placed : fault ≠ .tooDeep := by simpa [fault?, Fault.within] using shallow
    rw [values _ _ _ run (by simpa using placed)]
  · rw [run] at shallow
    rw [values _ _ _ run (by simp)]
    exact after value middle shallow

theorem Agrees.inBlock {body body' : Scope → Execution}
    (agrees : ∀ scope, Agrees (body scope) (body' scope)) (scope : Scope) :
    Agrees (Execution.inBlock body scope) (Execution.inBlock body' scope) := by
  intro shallow
  exact congrArg (fun inner => { inner with scope := inner.scope.leave })
    (agrees scope.enter shallow)

theorem Agrees.ite {condition : Prop} [Decidable condition] {run other : Execution}
    (agrees : Agrees first second) (agrees' : Agrees run other) :
    Agrees (if condition then first else run) (if condition then second else other) := by
  split
  · exact agrees
  · exact agrees'

end Execution

open Execution

mutual

theorem Stmt.exec_agrees {room room' : Nat} (enough : room ≤ room') (stmt : Stmt)
    (scope : Scope) : Agrees (stmt.exec room scope) (stmt.exec room' scope) := by
  match stmt with
  | .declare _ none => exact agrees_self _
  | .declare _ (some value) | .expression value | .spill value =>
      exact .withValue (value.value_agrees enough) (fun _ _ => agrees_self _) scope
  | .kalo condition body otherwise =>
      have inside := Nat.sub_le_sub_right enough blockRoom
      exact .withValue (condition.value_agrees enough)
        (fun _ middle => .ite (.inBlock (Block.exec_agrees inside body) middle)
          (Otherwise.exec_agrees enough otherwise _ middle)) scope

theorem Otherwise.exec_agrees {room room' : Nat} (enough : room ≤ room') (otherwise : Otherwise)
    (token : Token) (scope : Scope) :
    Agrees (otherwise.exec room token scope) (otherwise.exec room' token scope) := by
  have inside := Nat.sub_le_sub_right enough blockRoom
  match otherwise with
  | .nothing => exact agrees_self _
  | .kalogak body => exact .inBlock (Block.exec_agrees inside body) scope
  | .perhaps condition body otherwise =>
      exact .withValue (condition.value_agrees enough)
        (fun _ middle => .ite (.inBlock (Block.exec_agrees inside body) middle)
          (Otherwise.exec_agrees enough otherwise token middle)) scope

/-- More room changes a run only if the run is stopped by depth. -/
theorem Block.exec_agrees {room room' : Nat} (enough : room ≤ room') (stmts : List Stmt)
    (scope : Scope) : Agrees (Block.exec room stmts scope) (Block.exec room' stmts scope) := by
  match stmts with
  | [] => exact agrees_self _
  | stmt :: rest =>
      exact (Stmt.exec_agrees enough stmt scope).andThen (Block.exec_agrees enough rest)

end

end BilingualScript
