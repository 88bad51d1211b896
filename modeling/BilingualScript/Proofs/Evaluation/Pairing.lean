import BilingualScript.Evaluation.Statement

/-!
# Runs of two programs

Two programs that differ may still do the same step by step.  Their scopes are related all the
time, they print the same, and if they stop they stop together, with related failures.
-/

namespace BilingualScript

variable {related : Scope → Scope → Prop}

/-! ## Expressions -/

namespace Evaluation

variable {α β : Type}

def Paired (related : Scope → Scope → Prop) (evaluation other : Evaluation α) : Prop :=
  ∀ scope scope', related scope scope' → ∃ result after after',
    evaluation.run scope = (result, after) ∧ other.run scope' = (result, after') ∧
      related after after'

theorem paired_ofExcept (result : Except Fault α) :
    Paired related (ofExcept result) (ofExcept result) :=
  fun _ _ alike => ⟨result, _, _, rfl, rfl, alike⟩

theorem paired_self (evaluation : Evaluation α) : Paired Eq evaluation evaluation := by
  rintro scope _ rfl
  exact ⟨_, _, _, rfl, rfl, rfl⟩

theorem Paired.bind {evaluation other : Evaluation α} {next next' : α → Evaluation β}
    (first : Paired related evaluation other)
    (second : ∀ value, Paired related (next value) (next' value)) :
    Paired related (evaluation >>= next) (other >>= next') := by
  intro scope scope' alike
  obtain ⟨result, middle, middle', run, run', alike⟩ := first scope scope' alike
  rw [run_bind, run_bind, run, run']
  cases result with
  | error fault => exact ⟨_, _, _, rfl, rfl, alike⟩
  | ok value => exact second value middle middle' alike

end Evaluation

/-! ## Statements -/

namespace Execution

/-- Two runs print the same.  Either both are done, in scopes that are related in one way, or both
stop, with related failures and in scopes that are related in another way. -/
inductive Paired (failures : Failure → Failure → Prop) (done stopped : Scope → Scope → Prop) :
    Execution → Execution → Prop
  | done {outputs scope scope'} : done scope scope' →
      Paired failures done stopped ⟨outputs, none, scope⟩ ⟨outputs, none, scope'⟩
  | stopped {outputs failure failure' scope scope'} : failures failure failure' →
      stopped scope scope' →
      Paired failures done stopped ⟨outputs, some failure, scope⟩ ⟨outputs, some failure', scope'⟩

variable {failures : Failure → Failure → Prop} {done stopped : Scope → Scope → Prop}
  {middle inner innerStopped : Scope → Scope → Prop} {run other : Execution}

namespace Paired

theorem outputs (paired : Paired failures done stopped run other) :
    other.outputs = run.outputs := by
  cases paired <;> rfl

theorem failure (paired : Paired failures done stopped run other) :
    Option.Rel failures run.failure other.failure := by
  cases paired with
  | done => exact .none
  | stopped fails => exact .some fails

theorem scope (paired : Paired failures done done run other) : done run.scope other.scope := by
  cases paired with
  | done alike => exact alike
  | stopped _ alike => exact alike

theorem andThen {next next' : Scope → Execution}
    (first : Paired failures middle innerStopped run other)
    (weaken : ∀ scope scope', innerStopped scope scope' → stopped scope scope')
    (second : ∀ scope scope', middle scope scope' →
      Paired failures done stopped (next scope) (next' scope')) :
    Paired failures done stopped (run.andThen next) (other.andThen next') := by
  cases first with
  | stopped fails alike => exact .stopped fails (weaken _ _ alike)
  | @done outputs scope scope' alike =>
      have last := second scope scope' alike
      unfold Execution.andThen
      generalize next scope = run at last
      generalize next' scope' = other at last
      cases last with
      | done alike => exact .done alike
      | stopped fails alike => exact .stopped fails alike

theorem inBlock {body body' : Scope → Execution} {scope scope' : Scope}
    (paired : Paired failures inner innerStopped (body scope.enter) (body' scope'.enter))
    (leave : ∀ scope scope', inner scope scope' → done scope.leave scope'.leave)
    (leave' : ∀ scope scope', innerStopped scope scope' → stopped scope.leave scope'.leave) :
    Paired failures done stopped (inBlock body scope) (inBlock body' scope') := by
  unfold Execution.inBlock
  generalize body scope.enter = run at paired
  generalize body' scope'.enter = other at paired
  cases paired with
  | done alike => exact .done (leave _ _ alike)
  | stopped fails alike => exact .stopped fails (leave' _ _ alike)

theorem withValue {room : Nat} {token token' : Token} {expr expr' : Expr}
    {next next' : Value → Scope → Execution} {scope scope' : Scope}
    (values : Evaluation.Paired related (expr.value room) (expr'.value room))
    (faults : ∀ fault : Fault, failures (fault.within token) (fault.within token'))
    (weaken : ∀ scope scope', related scope scope' → stopped scope scope')
    (second : ∀ value scope scope', related scope scope' →
      Paired failures done stopped (next value scope) (next' value scope'))
    (alike : related scope scope') :
    Paired failures done stopped (withValue room token expr next scope)
      (withValue room token' expr' next' scope') := by
  obtain ⟨result, middle, middle', run, run', alike⟩ := values _ _ alike
  unfold Execution.withValue
  rw [run, run']
  cases result with
  | error fault => exact .stopped (faults fault) (weaken _ _ alike)
  | ok value => exact second value middle middle' alike

theorem ite {condition : Prop} [Decidable condition] {run' other' : Execution}
    (paired : Paired failures done stopped run other)
    (paired' : Paired failures done stopped run' other') :
    Paired failures done stopped (if condition then run else run')
      (if condition then other else other') := by
  split
  · exact paired
  · exact paired'

end Paired

end Execution

end BilingualScript
