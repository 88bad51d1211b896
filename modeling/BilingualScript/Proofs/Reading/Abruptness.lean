import BilingualScript.Proofs.Reading.Confinement
import BilingualScript.Proofs.Reading.Inheritance

/-!
# Faults that end a statement

Readers of expressions and of statements without blocks fail at the first fault that they do
not make up for, and meet none such if they find something.
-/

namespace BilingualScript.Reader

variable {α β : Type}

/-! ## Faults that end a statement -/

/-- The faults at which a statement is given up. -/
def decisive (faults : List SyntaxFault) : List SyntaxFault :=
  faults.filter (·.cause != .invalidTarget)

@[simp] theorem decisive_nil : decisive [] = [] := rfl

@[simp] theorem decisive_append (first second : List SyntaxFault) :
    decisive (first ++ second) = decisive first ++ decisive second :=
  List.filter_append ..

def faultsAtEnd (faults : List SyntaxFault) : Nat := (decisive faults).countP (·.rest.isEmpty)

@[simp] theorem faultsAtEnd_nil : faultsAtEnd [] = 0 := rfl

@[simp] theorem faultsAtEnd_append (first second : List SyntaxFault) :
    faultsAtEnd (first ++ second) = faultsAtEnd first + faultsAtEnd second := by
  simp [faultsAtEnd]

/-! ## Readers that fail at once -/

/-- A reader meets no fault that ends a statement, or fails at the one that it meets. -/
def FailsAtOnce (reader : Reader α) : Prop :=
  ∀ tokens, match (reader.run tokens).found with
    | some _ => decisive (reader.run tokens).faults = []
    | none => ∃ cause,
        decisive (reader.run tokens).faults = [⟨cause, (reader.run tokens).rest⟩]

theorem failsAtOnce_pure (value : α) : FailsAtOnce (pure value) := fun _ => rfl

theorem failsAtOnce_fail {cause : SyntaxCause} (counts : cause ≠ .invalidTarget) :
    FailsAtOnce (fail cause : Reader α) :=
  fun _ => ⟨cause, List.filter_cons_of_pos (by simpa using counts)⟩

theorem failsAtOnce_report_invalidTarget (rest : List Token) :
    FailsAtOnce (report ⟨.invalidTarget, rest⟩) := fun _ => rfl

theorem failsAtOnce_accept? (wanted : Kind → Bool) : FailsAtOnce (accept? wanted) := by
  intro tokens
  cases tokens with
  | nil => rfl
  | cons token rest =>
      by_cases fits : wanted token.kind = true <;> simp [fits]

theorem FailsAtOnce.bind {reader : Reader α} {next : α → Reader β} (first : FailsAtOnce reader)
    (second : ∀ value, FailsAtOnce (next value)) : FailsAtOnce (reader >>= next) := by
  intro tokens
  have first := first tokens
  rcases reading : reader.run tokens with ⟨_ | value, middle, faults⟩
  · rw [reading] at first
    rwa [run_bind_of_failed reading]
  · rw [reading] at first
    have second := second value middle
    simp only [run_bind_of_found reading, decisive_append, show decisive faults = [] from first,
      List.nil_append]
    exact second

theorem failsAtOnce_ahead_bind {next : List Token → Reader α}
    (second : ∀ tokens, FailsAtOnce (next tokens)) : FailsAtOnce (ahead >>= next) := by
  intro tokens
  rw [run_ahead_bind]
  exact second tokens tokens

theorem compositional_failsAtOnce : Compositional fun _ reader => FailsAtOnce reader where
  pure := failsAtOnce_pure
  fail := failsAtOnce_fail
  accept? := failsAtOnce_accept?
  bind := FailsAtOnce.bind
  peek _ := failsAtOnce_ahead_bind

theorem failsAtOnce_behindTarget {value : Reader Expr} (once : FailsAtOnce value) (target : Expr) :
    FailsAtOnce (behindTarget value target) := by
  refine failsAtOnce_ahead_bind fun _ => (failsAtOnce_accept? _).bind fun found => ?_
  cases found with
  | none => exact failsAtOnce_pure target
  | some _ =>
      refine once.bind fun value => ?_
      cases target with
      | reference => exact failsAtOnce_pure _
      | _ => exact (failsAtOnce_report_invalidTarget _).bind fun _ => failsAtOnce_pure _

theorem failsAtOnce_assignment {operand : Nat → Reader Expr}
    (once : ∀ room, FailsAtOnce (operand room)) (room : Nat) :
    FailsAtOnce (assignment operand room) := by
  induction room with
  | zero => exact once 0
  | succ room ih =>
      rw [assignment_succ]
      exact (once _).bind fun target => failsAtOnce_behindTarget ih target

theorem failsAtOnce_chain {operators : Kind → Bool} {operand : Reader Expr}
    (once : FailsAtOnce operand) : FailsAtOnce (chain operators operand) :=
  once.bind fun left => failsAtOnce_ahead_bind fun tokens =>
    compositional_failsAtOnce.operations once tokens left

theorem failsAtOnce_expressionWithin (count room : Nat) :
    FailsAtOnce (expressionWithin count room) := by
  induction count generalizing room with
  | zero => exact failsAtOnce_fail (by decide)
  | succ count ih =>
      unfold expressionWithin
      split
      · exact failsAtOnce_fail (by decide)
      · refine failsAtOnce_assignment (fun _ => ?_) _
        exact failsAtOnce_chain (failsAtOnce_chain (failsAtOnce_chain (failsAtOnce_chain
          (compositional_failsAtOnce.unary (compositional_failsAtOnce.primary ih) _))))

theorem failsAtOnce_expression (room : Nat) : FailsAtOnce (expression room) :=
  failsAtOnce_expressionWithin room room

end BilingualScript.Reader
