import BilingualScript.Proofs.Evaluation.Checked
import BilingualScript.Proofs.Session.Loading

/-!
# Failing runs

Whatever text a session is given, its run is not broken off from within: reading lets no text run
that would come to a gap or to an operator that is none, and the machine is asked for nothing that
it refuses.  So a run that fails does so by one ordinary fault, and reports it once.
-/

namespace BilingualScript.Session

/-! ## Checked sessions -/

def checkedInterpret? (session : Session) (calls : Nat) (program : Program) :
    Option (Session × Transcript) :=
  (program.checked (calls - runningCalls) session.scope).map fun run =>
    let reports := run.failure.toList.map session.diagnostics.ofFailure
    (⟨session.diagnostics.note reports, run.scope⟩, ⟨run.outputs, reports⟩)

/-- Reads a text and runs it as `run` does, unless the checked run is broken off. -/
def checkedRun? (session : Session) (calls : Nat) (source : String) :
    Option (Session × Transcript) :=
  let read := session.program (calls - 1) source
  if read.session.diagnostics.hadError then some (read.session, ⟨[], read.reports⟩)
  else
    (read.session.checkedInterpret? (calls - 1) read.value).map fun (session, transcript) =>
      (session, { transcript with reports := read.reports ++ transcript.reports })

variable (session : Session) (calls : Nat) (source : String)

theorem checkedInterpret?_eq {program : Program}
    (sound : Execution.Sound (program.checked (calls - runningCalls) session.scope)
      (program.exec (calls - runningCalls) session.scope)) :
    session.checkedInterpret? calls program = some (session.interpret calls program) := by
  rw [checkedInterpret?, sound.runs]
  rfl

/-! ## What runs -/

theorem program_reports_of_unnoted
    (unnoted : (session.program calls source).session.diagnostics.hadError = false) :
    (session.program calls source).reports = [] := by
  have silent := mt (session.hadError_program calls source).2 (by simp [unnoted])
  exact Decidable.not_not.1 fun reported => silent (.inr reported)

/-- What runs has no gaps and no operators but those of the language. -/
theorem program_operable (clean : (session.program calls source).reports = []) :
    ∃ stmts, (session.program calls source).value = stmts.map some ∧ Block.Operable stmts := by
  obtain ⟨stmts, sentence, value, _⟩ := session.program_of_clean calls source clean
  exact ⟨stmts, value, Grammar.Lines.operable sentence⟩

theorem program_sound (clean : (session.program calls source).reports = []) (room : Nat)
    (scope : Scope) :
    Execution.Sound ((session.program calls source).value.checked room scope)
      ((session.program calls source).value.exec room scope) := by
  obtain ⟨stmts, value, operable⟩ := session.program_operable calls source clean
  rw [value]
  exact Program.checked_sound operable room scope

theorem checkedRun?_eq : session.checkedRun? calls source = some (session.run calls source) := by
  rw [checkedRun?, run]
  split
  · rfl
  · next unnoted =>
    have clean := session.program_reports_of_unnoted _ source (Bool.eq_false_iff.2 unnoted)
    rw [checkedInterpret?_eq _ _ (session.program_sound _ source clean _ _)]
    rfl

/-- No run is broken off.  A text that runs has no gaps and only known operators; its run fails by
an ordinary fault if at all, and reports that and nothing else. -/
theorem run_fails_ordinarily :
    let read := session.program (calls - 1) source
    let execution := read.value.exec (calls - 1 - runningCalls) session.scope
    session.checkedRun? calls source = some (session.run calls source) ∧
      (read.session.diagnostics.hadError = false →
        (∃ stmts, read.value = stmts.map some ∧ Block.Operable stmts) ∧
          (∀ failure, execution.failure = some failure → failure.fault.Ordinary) ∧
          (session.run calls source).2.reports =
            execution.failure.toList.map read.session.diagnostics.ofFailure) := by
  intro read execution
  refine ⟨session.checkedRun?_eq calls source, fun unnoted => ?_⟩
  have clean := session.program_reports_of_unnoted _ source unnoted
  refine ⟨session.program_operable _ source clean,
    (session.program_sound _ source clean _ session.scope).ordinary, ?_⟩
  rw [run, if_neg (Bool.eq_false_iff.1 unnoted)]
  simp only [clean]
  rfl

theorem run_fails_ordinarily_of_text :
    let session : Session := ⟨.initial, .global [("x", .text "")]⟩
    let source := "spill 1 / 0\nspill 1 % 0\nspill -x"
    let operator : Token := ⟨.minus, "-", .hampa, ⟨3, 7⟩⟩
    let failure : Failure := ⟨.operandNotNumber operator, operator⟩
    let read := session.program 997 source
    read.session.diagnostics.hadError = false ∧
      (read.value.exec 993 session.scope).failure = some failure ∧
      failure.fault.Ordinary ∧
      (session.run 998 source).2.reports = [read.session.diagnostics.ofFailure failure] := by
  intro session source operator failure read
  obtain ⟨_, fails⟩ := run_fails_ordinarily session 998 source
  have unnoted : read.session.diagnostics.hadError = false := by decide +kernel
  have failed : (read.value.exec 993 session.scope).failure = some failure := by decide +kernel
  obtain ⟨_, ordinary, reports⟩ := fails unnoted
  refine ⟨unnoted, failed, ordinary failure failed, reports.trans ?_⟩
  exact congrArg (fun failed => failed.toList.map read.session.diagnostics.ofFailure) failed

end BilingualScript.Session
