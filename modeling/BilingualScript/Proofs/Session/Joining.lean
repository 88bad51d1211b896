import BilingualScript.Proofs.Evaluation.Blame
import BilingualScript.Proofs.Evaluation.Moved
import BilingualScript.Proofs.Evaluation.Sequence
import BilingualScript.Proofs.Reading.Balance
import BilingualScript.Proofs.Session.Loading
import BilingualScript.Proofs.Text.Lines
import BilingualScript.Proofs.Token.Standing

/-!
# Texts one after another

Two texts with a newline between them load if each of them does, and run as one of them and then,
unless that fails, the other.  What is reported about the second is reported farther down.
-/

namespace BilingualScript

open Grammar

/-! ## Sentences -/

theorem Grammar.Sentence.append {first second : List Token} {newline : Token}
    {stmts stmts' : List Stmt} (sentence : Sentence first stmts) (kind : newline.kind = .newline)
    (sentence' : Sentence second stmts') :
    Sentence (first ++ newline :: second) (stmts ++ stmts') := by
  match first, stmts, sentence with
  | _, _, .nil => exact .blank kind sentence'
  | _, _, .blank kind' behind => exact .blank kind' (Sentence.append behind kind sentence')
  | _, _, .cons statement behind =>
      obtain ⟨front, ending, rfl, ends, framed⟩ := statement.frame
      cases ends with
      | @newline other _ kind' =>
          have rest := Sentence.append behind kind sentence'
          rw [List.append_assoc]
          exact .cons (framed.framed _ _ (.newline kind')) rest
      | stop =>
          -- the first text ends with its last statement, which the newline closes
          have none : Sentence [] [] := .nil
          obtain rfl := none.unique behind
          rw [List.append_nil]
          exact .cons (framed.framed _ _ (.newline kind)) sentence'

theorem Loads.append {room : Nat} {first second : String} {stmts stmts' : List Stmt}
    (loads : Loads room first stmts) (loads' : Loads room second stmts') :
    Loads room (first ++ "\n" ++ second)
      (stmts ++ Block.moved (first.toList.count '\n' + 1 : Nat) stmts') := by
  have text : (first ++ "\n" ++ second).toList = first.toList ++ '\n' :: second.toList := by simp
  obtain ⟨items, cleans⟩ := Lexed.ofChars_break_of_clean loads.clean second.toList
  rw [← text] at items cleans
  refine ⟨cleans.2 loads'.clean, ?_, ?_⟩
  · rw [tokensOf, Lexed.ofText, items]
    exact loads.sentence.append rfl (Lines.moved _ loads'.sentence)
  · rw [Block.nesting_append, Block.nesting_moved]
    exact Nat.max_le.2 ⟨loads.fits, loads'.fits⟩

/-! ## Reports -/

def Report.moved (lines : Int) (report : Report) : Report :=
  { report with position := ⟨report.position.line + lines, report.position.column⟩ }

namespace Excerpt

theorem lineAt?_append_left {front : List (List Char)} {line : Int} (le : line ≤ front.length)
    (behind : List (List Char)) : lineAt? (front ++ behind) line = lineAt? front line := by
  unfold lineAt?
  split
  · rw [List.getElem?_append_left (by omega)]
  · rfl

theorem lineAt?_append_right (front behind : List (List Char)) {line : Int} (pos : 0 < line) :
    lineAt? (front ++ behind) (line + front.length) = lineAt? behind line := by
  have index : (line + front.length).toNat - 1 = front.length + (line.toNat - 1) := by omega
  unfold lineAt?
  rw [if_pos pos, if_pos (by omega), index, List.getElem?_append_right (by omega),
    Nat.add_sub_cancel_left]

end Excerpt

theorem Loads.blames {room : Nat} {source : String} {stmts : List Stmt}
    (loads : Loads room source stmts) (room' : Nat) (scope : Scope) :
    ∀ failure ∈ (Block.exec room' stmts scope).failure,
      failure.token ∈ tokensOf source ∨ failure = ⟨.tooDeep, .eof .start⟩ := by
  intro failure failed
  rcases Block.exec_blames room' scope (List.Subset.refl _) (List.Subset.refl _) failure failed
    with mem | ⟨deep, _⟩
  · exact .inl (Lines.tokens_subset loads.sentence mem)
  · exact .inr deep

theorem Loads.line_bounds {room : Nat} {source : String} {stmts : List Stmt}
    (loads : Loads room source stmts) (room' : Nat) (scope : Scope) :
    ∀ failure ∈ (Block.exec room' stmts scope).failure,
      0 < failure.token.position.line ∧
        failure.token.position.line ≤ (Text.lines source.toList).length := by
  intro failure failed
  rw [Text.length_lines]
  rcases loads.blames room' scope failure failed with mem | rfl
  · obtain ⟨starts, _⟩ := Lexed.starts_of_mem_items mem
    exact ⟨starts.line_pos, starts.line_le⟩
  · simp only [Token.eof, Position.start]
    omega

namespace Diagnostics

variable (diagnostics : Diagnostics)

theorem ofFailure_append_left {front : List (List Char)} {failure : Failure}
    (within : failure.token.position.line ≤ front.length) (behind : List (List Char))
    (same : diagnostics.lines = front ++ behind) :
    diagnostics.ofFailure failure = { diagnostics with lines := front }.ofFailure failure := by
  simp only [ofFailure, runtimeReport, report, Excerpt.at?, same,
    Excerpt.lineAt?_append_left within]

theorem ofFailure_append_right {front behind : List (List Char)} {failure other : Failure}
    (moved : failure.MovedTo front.length other) (placed : failure.fault ≠ .tooDeep)
    (within : 0 < failure.token.position.line) (same : diagnostics.lines = front ++ behind) :
    diagnostics.ofFailure other =
      ({ diagnostics with lines := behind }.ofFailure failure).moved front.length := by
  obtain ⟨fault, token⟩ := other
  obtain ⟨rfl, place⟩ := moved
  obtain rfl := place placed
  simp only [ofFailure, runtimeReport, report, Excerpt.at?, same, Report.moved, Token.moved,
    Excerpt.lineAt?_append_right _ _ within, Fault.message_moved]

theorem map_ofFailure_append_right {front behind : List (List Char)}
    {failure? other? : Option Failure}
    (moved : Option.Rel (Failure.MovedTo front.length) failure? other?)
    (placed : ∀ failure ∈ failure?, failure.fault ≠ .tooDeep)
    (within : ∀ failure ∈ failure?, 0 < failure.token.position.line)
    (same : diagnostics.lines = front ++ behind) :
    other?.toList.map diagnostics.ofFailure =
      (failure?.toList.map { diagnostics with lines := behind }.ofFailure).map
        (Report.moved front.length) := by
  cases moved with
  | none => rfl
  | some moved =>
      exact congrArg (fun report => [report])
        (diagnostics.ofFailure_append_right moved (placed _ rfl) (within _ rfl) same)

end Diagnostics

/-! ## Runs -/

namespace Session

variable {session : Session} {calls : Nat} {first second : String} {stmts stmts' : List Stmt}

theorem lines_register (diagnostics : Diagnostics) (first second : String) :
    (diagnostics.register (first ++ "\n" ++ second)).lines =
      Text.lines first.toList ++ Text.lines second.toList := by
  simp [Diagnostics.register, Text.lines_break]

theorem run_append_of_failed (unnoted : session.diagnostics.hadError = false)
    (loads : Loads (calls - 1 - readingCalls) first stmts)
    (loads' : Loads (calls - 1 - readingCalls) second stmts')
    (failed : (session.run calls first).2.reports ≠ []) :
    session.run calls (first ++ "\n" ++ second) =
      (⟨(session.run calls first).1.diagnostics.register (first ++ "\n" ++ second),
        (session.run calls first).1.scope⟩, (session.run calls first).2) := by
  rw [run_eq_interpret unnoted loads] at failed ⊢
  rw [run_eq_interpret unnoted (loads.append loads')]
  simp only [interpret, Program.exec_map_some, Block.exec_append] at failed ⊢
  have bounds := loads.line_bounds (calls - 1 - runningCalls) session.scope
  generalize Block.exec (calls - 1 - runningCalls) stmts session.scope = execution at *
  have fails : execution.failure ≠ none := by
    intro none
    simp [none] at failed
  obtain ⟨failure, failure_eq⟩ := Option.ne_none_iff_exists'.1 fails
  rw [Execution.andThen_of_failed fails, failure_eq]
  have same := (session.diagnostics.register (first ++ "\n" ++ second)).ofFailure_append_left
    (bounds failure failure_eq).2 _ (lines_register _ first second)
  simp only [Option.toList, List.map_cons, List.map_nil, same]
  rfl

theorem run_append_of_clean (unnoted : session.diagnostics.hadError = false)
    (loads : Loads (calls - 1 - readingCalls) first stmts)
    (loads' : Loads (calls - 1 - readingCalls) second stmts')
    (clean : (session.run calls first).2.reports = []) :
    let run := session.run calls (first ++ "\n" ++ second)
    let next := (session.run calls first).1.run calls second
    run.1 = ⟨next.1.diagnostics.register (first ++ "\n" ++ second), next.1.scope⟩ ∧
      run.2.outputs = (session.run calls first).2.outputs ++ next.2.outputs ∧
      ((∀ report ∈ next.2.reports, report.message ≠ Fault.tooDeep.message) →
        run.2.reports = next.2.reports.map (Report.moved (first.toList.count '\n' + 1 : Nat))) := by
  intro run next
  have run_eq := run_eq_interpret unnoted (loads.append loads')
  rcases execution : Block.exec (calls - 1 - runningCalls) stmts session.scope with
    ⟨outputs, failure, middle⟩
  obtain rfl : failure = none := by
    rw [run_eq_interpret unnoted loads] at clean
    simpa [interpret, execution] using clean
  have first_eq := run_of_loads unnoted loads execution
  have next_eq : next = interpret ⟨session.diagnostics.register second, middle⟩ (calls - 1)
      (stmts'.map some) := by
    have unnoted' : (session.run calls first).1.diagnostics.hadError = false := by
      rw [first_eq]
      exact unnoted
    refine (run_eq_interpret unnoted' loads').trans ?_
    rw [first_eq]
    rfl
  have moved := Block.exec_moved (first.toList.count '\n' + 1 : Nat) (calls - 1 - runningCalls)
    stmts' middle
  have bounds := loads'.line_bounds (calls - 1 - runningCalls) middle
  rw [first_eq]
  simp only [run, run_eq, next_eq, interpret, Program.exec_map_some, Block.exec_append, execution,
    Execution.andThen_of_clean]
  generalize Block.exec (calls - 1 - runningCalls) stmts' middle = behind at *
  generalize Block.exec (calls - 1 - runningCalls) (Block.moved _ stmts') middle = behind' at *
  obtain ⟨outputs', failure?, last⟩ := behind
  obtain ⟨_, other?, _⟩ := behind'
  obtain ⟨rfl, related, rfl⟩ := moved
  refine ⟨?_, rfl, fun shallow => ?_⟩
  · cases related with
    | none | some => rfl
  have lines : (Text.lines first.toList).length = first.toList.count '\n' + 1 :=
    Text.length_lines _
  rw [← lines] at related ⊢
  refine Diagnostics.map_ofFailure_append_right _ related ?_
    (fun failure failed => (bounds failure failed).1) (lines_register _ first second)
  intro failure failed deep
  refine shallow _ (List.mem_map_of_mem (Option.mem_toList.2 failed)) ?_
  exact congrArg Fault.message deep

/-- Two texts that load make one with a newline between them.  If the first fails, the whole does as
the first alone; otherwise the whole does what the two do one after the other, and reports what the
second reports, but farther down. -/
theorem run_joined (session : Session) (calls : Nat) (first second : String)
    (unnoted : session.diagnostics.hadError = false)
    (clean : (session.program (calls - 1) first).reports = [])
    (clean' : (session.program (calls - 1) second).reports = []) :
    let source := first ++ "\n" ++ second
    let (middle, shown) := session.run calls first
    let (last, shown') := middle.run calls second
    (session.program (calls - 1) source).reports = [] ∧
      (shown.reports ≠ [] →
        session.run calls source = (⟨middle.diagnostics.register source, middle.scope⟩, shown)) ∧
      (shown.reports = [] →
        (session.run calls source).1 = ⟨last.diagnostics.register source, last.scope⟩ ∧
        (session.run calls source).2.outputs = shown.outputs ++ shown'.outputs ∧
        ((∀ report ∈ shown'.reports, report.message ≠ Fault.tooDeep.message) →
          (session.run calls source).2.reports =
            shown'.reports.map (Report.moved (first.toList.count '\n' + 1 : Nat)))) := by
  obtain ⟨stmts, loads⟩ := (session.program_reports_eq_nil_iff_loads _ _).1 clean
  obtain ⟨stmts', loads'⟩ := (session.program_reports_eq_nil_iff_loads _ _).1 clean'
  exact ⟨(session.program_reports_eq_nil_iff_loads _ _).2 ⟨_, loads.append loads'⟩,
    run_append_of_failed unnoted loads loads', run_append_of_clean unnoted loads loads'⟩

/-- A text that ends with a comment, and behind it one that fails in its second line. -/
theorem run_joined_of_comment :
    let first := "literally x itu ril # true"
    let second := "spill x\n  spill -x"
    let run := initial.run 998 (first ++ "\n" ++ second)
    run.2.outputs = ["ril"] ∧
      run.2.reports = [⟨.runtimeError, ⟨3, 9⟩, "Operand must be a number.",
        some ⟨"  spill ".toList, ['-'], "x".toList, 8, 1⟩⟩] ∧
      run.1.scope = .global [("x", .truth true)] := by
  intro first second run
  have joined := run_joined initial 998 first second rfl (by decide +kernel) (by decide +kernel)
  have silent : (initial.run 998 first).2.reports = [] := by decide +kernel
  have shallow : ∀ report ∈ ((initial.run 998 first).1.run 998 second).2.reports,
      report.message ≠ Fault.tooDeep.message := by decide +kernel
  have runs : (initial.run 998 first).2.outputs ++
        ((initial.run 998 first).1.run 998 second).2.outputs = ["ril"] ∧
      ((initial.run 998 first).1.run 998 second).2.reports.map (Report.moved 1) =
        [⟨.runtimeError, ⟨3, 9⟩, "Operand must be a number.",
          some ⟨"  spill ".toList, ['-'], "x".toList, 8, 1⟩⟩] ∧
      ((initial.run 998 first).1.run 998 second).1.scope = .global [("x", .truth true)] := by
    decide +kernel
  have alone : first.toList.count '\n' = 0 := by decide +kernel
  clear_value first second
  rcases ran : initial.run 998 first with ⟨middle, shown⟩
  rcases ran' : middle.run 998 second with ⟨last, shown'⟩
  simp only [ran, ran', alone] at joined silent shallow runs
  obtain ⟨session, outputs, reports⟩ := joined.2.2 silent
  exact ⟨outputs.trans runs.1, (reports shallow).trans runs.2.1,
    (congrArg Session.scope session).trans runs.2.2⟩

end Session

end BilingualScript
