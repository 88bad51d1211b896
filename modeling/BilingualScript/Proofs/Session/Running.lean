import BilingualScript.Proofs.Evaluation.Frames
import BilingualScript.Proofs.Evaluation.Room
import BilingualScript.Proofs.Session.Loading

/-!
# Running

What a session can do with a text, and what of the session that depends on.
-/

namespace BilingualScript.Session

variable (session : Session) (calls : Nat) (source : String)

/-- A text is either read only, because of a mistake in it or before it, or run as a whole. -/
theorem run_cases :
    let read := session.program (calls - 1) source
    (read.session.diagnostics.hadError = true ∧
      session.run calls source = (read.session, ⟨[], read.reports⟩)) ∨
    (session.diagnostics.hadError = false ∧ read.reports = [] ∧
      session.run calls source =
        interpret ⟨session.diagnostics.register source, session.scope⟩ (calls - 1)
          read.value) := by
  intro read
  cases noted : read.session.diagnostics.hadError with
  | true => exact .inl ⟨rfl, session.run_of_hadError calls source noted⟩
  | false =>
      have neither := mt (session.hadError_program (calls - 1) source).2 (by simp [read, noted])
      rw [not_or] at neither
      have unnoted := Bool.eq_false_iff.2 neither.1
      have clean := Decidable.not_not.1 neither.2
      exact .inr ⟨unnoted, clean, session.run_of_clean calls source unnoted clean⟩

theorem run_level : (session.run calls source).1.scope.level = session.scope.level := by
  rcases session.run_cases calls source with ⟨_, ran⟩ | ⟨_, _, ran⟩
  · rw [ran]
    exact congrArg Scope.level (session.program_scope _ source)
  · rw [ran]
    exact interpret_level _ _ _

theorem run_scope_of_error {report : Report}
    (reported : report ∈ (session.run calls source).2.reports)
    (error : report.severity = .error) : (session.run calls source).1.scope = session.scope := by
  rcases session.run_cases calls source with ⟨_, ran⟩ | ⟨_, _, ran⟩
  · rw [ran]
    exact session.program_scope _ source
  · rw [ran] at reported
    obtain ⟨failure, _, rfl⟩ := List.mem_map.1 reported
    cases error

/-- A text that runs without a report does the same where more calls may be opened. -/
theorem run_of_silent {calls' : Nat} (enough : calls ≤ calls')
    (unnoted : session.diagnostics.hadError = false)
    (silent : (session.run calls source).2.reports = []) :
    session.run calls' source = session.run calls source := by
  obtain ⟨stmts, outputs, after, loads, run⟩ := loads_of_silent silent unnoted
  have outer := Nat.sub_le_sub_right enough 1
  have loads' := loads.mono (Nat.sub_le_sub_right outer readingCalls)
  have run' := Block.exec_agrees (Nat.sub_le_sub_right outer runningCalls) stmts session.scope
  rw [run] at run'
  rw [run_of_loads unnoted loads run,
    run_of_loads unnoted loads' (run' (by simp [Execution.fault?]))]

theorem run_congr {other : Session} (scope : session.scope = other.scope)
    (error : session.diagnostics.hadError = other.diagnostics.hadError)
    (failed : session.diagnostics.hadRuntimeError = other.diagnostics.hadRuntimeError) :
    session.run calls source = other.run calls source := by
  obtain ⟨⟨lines, hadError, hadRuntimeError⟩, bindings⟩ := session
  obtain ⟨⟨others, hadError', hadRuntimeError'⟩, bindings'⟩ := other
  obtain rfl : bindings = bindings' := scope
  obtain rfl : hadError = hadError' := error
  obtain rfl : hadRuntimeError = hadRuntimeError' := failed
  rfl

end BilingualScript.Session
