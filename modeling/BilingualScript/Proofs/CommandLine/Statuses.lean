import BilingualScript.CommandLine.Basic
import BilingualScript.Proofs.Evaluation.Stopping
import BilingualScript.Proofs.Reading.Widening
import BilingualScript.Proofs.Session.Running
import Mathlib.Data.List.Basic

/-!
# Statuses

With which status the work on a file ends, and what has been written then.  The three ways to look
at a file, by its tokens, by its tree and by running it, agree on what is wrong with it.
-/

namespace BilingualScript

theorem Report.render_ne_empty (console : Console) (report : Report) :
    report.render console ≠ "" := by
  simp [render]

namespace Diagnostics

/-- Nothing is reported of a fault that has to do with depth. -/
def Shallow (diagnostics : Diagnostics) (stop : Token) (fault : SyntaxFault) : Prop :=
  diagnostics.syntaxReport stop .tooDeep fault ∉ diagnostics.ofSyntaxFault stop fault

variable {diagnostics : Diagnostics} {stop : Token} {fault : SyntaxFault}

theorem Shallow.cause_ne (shallow : diagnostics.Shallow stop fault) : fault.cause ≠ .tooDeep := by
  intro deep
  refine shallow ?_
  simp [ofSyntaxFault, deep]

theorem Shallow.ofSyntaxFault_relieved (shallow : diagnostics.Shallow stop fault) :
    diagnostics.ofSyntaxFault stop fault.relieved = diagnostics.ofSyntaxFault stop fault := by
  rw [SyntaxFault.relieved]
  split
  · next cut =>
    rcases diagnostics.ofSyntaxFault_cases stop fault with once | ⟨_, twice⟩
    · rw [once, cut]
      rfl
    · exact absurd (twice ▸ List.mem_cons_of_mem _ List.mem_cons_self) shallow
  · rfl

end Diagnostics

namespace CommandLine

variable {console : Console}

theorem join_cons (first : String) (rest : List String) :
    String.join (first :: rest) = first ++ String.join rest := by
  have shift (texts : List String) (before : String) :
      texts.foldl (· ++ ·) before = before ++ texts.foldl (· ++ ·) "" := by
    induction texts generalizing before with
    | nil => simp
    | cons text texts ih =>
        rw [List.foldl_cons, List.foldl_cons, ih, ih ("" ++ text)]
        simp [String.append_assoc]
  unfold String.join
  rw [List.foldl_cons, shift]
  simp

@[simp] theorem rendered_nil : rendered console [] = "" := rfl

theorem rendered_cons (report : Report) (reports : List Report) :
    rendered console (report :: reports) = report.render console ++ rendered console reports :=
  join_cons _ _

theorem rendered_append (first second : List Report) :
    rendered console (first ++ second) = rendered console first ++ rendered console second := by
  induction first with
  | nil => simp
  | cons report first ih =>
      rw [List.cons_append, rendered_cons, rendered_cons, ih, String.append_assoc]

theorem rendered_eq_empty_iff {reports : List Report} :
    rendered console reports = "" ↔ reports = [] := by
  cases reports with
  | nil => simp
  | cons report reports => simp [rendered_cons, report.render_ne_empty console]

/-! ## One way to look at a file -/

theorem program_reports_eq (calls : Nat) (source : String) :
    let lexed := Lexed.ofText source
    let diagnostics := Diagnostics.initial.register source
    (Session.initial.program calls source).reports = lexed.faults.map diagnostics.ofLexicalFault ++
      (Parsed.ofTokens (calls - Session.readingCalls) lexed.tokens).faults.flatMap
        (diagnostics.ofSyntaxFault lexed.tokens.stop) := rfl

section Processed

variable (style : Text.Style) (calls : Nat) (path source : String)

theorem processed_ast_stderr :
    ∃ more, (processed style calls ⟨some path, false, true⟩ path source).stderr =
      rendered ⟨path, style⟩ (Session.initial.program calls source).reports ++ more := by
  simp only [processed, Bool.false_eq_true, if_false, if_true]
  split
  · exact ⟨_, rfl⟩
  · exact ⟨"", by simp⟩

theorem processed_ast_extends (ast : Bool) :
    ∃ more, (processed style calls ⟨some path, false, true⟩ path source).stderr =
      (processed style calls ⟨some path, true, ast⟩ path source).stderr ++ more := by
  obtain ⟨more, same⟩ := processed_ast_stderr style calls path source
  rw [same, Session.program_reports, rendered_append, String.append_assoc]
  exact ⟨_, rfl⟩

theorem processed_ast_of_dump {dump : String}
    (dumps : (Session.initial.program calls source).value.dump? calls = some dump) :
    processed style calls ⟨some path, false, true⟩ path source =
      ⟨status (Session.initial.program calls source).session.diagnostics, printed [dump],
        rendered ⟨path, style⟩ (Session.initial.program calls source).reports⟩ := by
  simp only [processed, Bool.false_eq_true, if_false, if_true, dumps]

theorem status_of_reported (reported : (Session.initial.program calls source).reports ≠ []) :
    status (Session.initial.program calls source).session.diagnostics = dataErrorStatus :=
  if_pos ((Session.hadError_program _ _ _).2 (.inr reported))

theorem processed_run_of_reported
    (reported : (Session.initial.program (calls - 1) source).reports ≠ []) :
    processed style calls ⟨some path, false, false⟩ path source =
      ⟨dataErrorStatus, "",
        rendered ⟨path, style⟩ (Session.initial.program (calls - 1) source).reports⟩ := by
  have noted := (Session.initial.hadError_program (calls - 1) source).2 (.inr reported)
  simp only [processed, Bool.false_eq_true, if_false, Session.run_of_hadError _ _ _ noted,
    status_of_reported (calls - 1) source reported]
  rfl

theorem processed_run_of_clean (clean : (Session.initial.program (calls - 1) source).reports = []) :
    let execution := (Session.initial.program (calls - 1) source).value.exec
      (calls - 1 - Session.runningCalls) (.global [])
    processed style calls ⟨some path, false, false⟩ path source =
      ⟨if execution.failure.isSome then softwareErrorStatus else 0, printed execution.outputs,
        rendered ⟨path, style⟩
          (execution.failure.toList.map (Diagnostics.initial.register source).ofFailure)⟩ := by
  intro execution
  simp only [processed, Bool.false_eq_true, if_false, Session.run_of_clean _ _ _ rfl clean]
  have ran : (Session.initial.program (calls - 1) source).value.exec
      (calls - 1 - Session.runningCalls) Session.initial.scope = execution := rfl
  rw [Session.interpret, ran]
  rcases execution with ⟨outputs, _ | failure, after⟩ <;> rfl

theorem processed_run_status :
    let lexed := Lexed.ofText source
    let parsed := Parsed.ofTokens (calls - 1 - Session.readingCalls) lexed.tokens
    let ran := processed style calls ⟨some path, false, false⟩ path source
    (ran.status = 65 ↔ lexed.faults ≠ [] ∨ parsed.faults ≠ []) ∧
    (ran.status = 70 ↔ (lexed.faults = [] ∧ parsed.faults = []) ∧
      ∃ failure, (parsed.program.exec (calls - 1 - Session.runningCalls) (.global [])).failure =
        some failure) ∧
    (ran.status = 0 ↔ ran.stderr = "") := by
  intro lexed parsed ran
  have silent : (Session.initial.program (calls - 1) source).reports = [] ↔
      lexed.faults = [] ∧ parsed.faults = [] :=
    Session.initial.program_reports_eq_nil_iff (calls - 1) source
  have reported : (Session.initial.program (calls - 1) source).reports ≠ [] ↔
      lexed.faults ≠ [] ∨ parsed.faults ≠ [] := by
    rw [ne_eq, silent, Decidable.not_and_iff_or_not]
  by_cases clean : (Session.initial.program (calls - 1) source).reports = []
  · have same : ran = _ := processed_run_of_clean style calls path source clean
    have value : (Session.initial.program (calls - 1) source).value = parsed.program := rfl
    rw [← reported, ← silent, same, value]
    cases (parsed.program.exec (calls - 1 - Session.runningCalls) (.global [])).failure with
    | none => simp [clean]
    | some failure => simp [clean, softwareErrorStatus, rendered_eq_empty_iff]
  · have same : ran = _ := processed_run_of_reported style calls path source clean
    rw [← reported, ← silent, same]
    simp [clean, dataErrorStatus, rendered_eq_empty_iff]

theorem processed_run_of_data
    (failed : (processed style calls ⟨some path, false, false⟩ path source).status = 65) :
    let lexed := Lexed.ofText source
    let diagnostics := Diagnostics.initial.register source
    let ran := processed style calls ⟨some path, false, false⟩ path source
    ran.stdout = "" ∧
      ran.stderr = rendered ⟨path, style⟩ (lexed.faults.map diagnostics.ofLexicalFault ++
        (Parsed.ofTokens (calls - 1 - Session.readingCalls) lexed.tokens).faults.flatMap
          (diagnostics.ofSyntaxFault lexed.tokens.stop)) := by
  have mistaken := (processed_run_status style calls path source).1.1 failed
  have reported := mt (Session.initial.program_reports_eq_nil_iff (calls - 1) source).1
    (Decidable.not_and_iff_or_not.2 mistaken)
  intro lexed diagnostics ran
  have same : ran = _ := processed_run_of_reported style calls path source reported
  rw [same]
  exact ⟨rfl, congrArg (rendered _) (program_reports_eq (calls - 1) source)⟩

theorem processed_run_stops
    (failed : (processed style calls ⟨some path, false, false⟩ path source).status = 70) :
    let ran := processed style calls ⟨some path, false, false⟩ path source
    ∃ stmts outputs failure,
      (Parsed.ofTokens (calls - 1 - Session.readingCalls) (Lexed.ofText source).tokens).program =
        stmts.map some ∧
      Block.Stops (calls - 1 - Session.runningCalls) stmts (.global []) outputs failure ∧
      ran.stdout = printed outputs ∧
      ran.stderr =
        rendered ⟨path, style⟩ [(Diagnostics.initial.register source).ofFailure failure] := by
  intro ran
  obtain ⟨read, failure, failing⟩ := (processed_run_status style calls path source).2.1.1 failed
  have clean := (Session.initial.program_reports_eq_nil_iff (calls - 1) source).2 read
  have same : ran = _ := processed_run_of_clean style calls path source clean
  obtain ⟨stmts, _, value, _⟩ := Session.initial.program_of_clean _ source clean
  simp only [value, Program.exec_map_some] at same
  rw [Session.program_value] at value
  rw [value, Program.exec_map_some] at failing
  refine ⟨stmts, _, failure, value, (Block.fails_iff_stops _ _ _ _ _).1 ⟨rfl, failing⟩, ?_, ?_⟩
  · rw [same]
  · rw [same, failing]
    rfl

/-- A call less is left for a run than for a tree.  That matters only to what is too deep. -/
theorem program_reports_of_shallow
    (shallow : ∀ fault ∈ (Parsed.ofTokens (calls - 1 - Session.readingCalls)
      (Lexed.ofText source).tokens).faults,
      (Diagnostics.initial.register source).Shallow (Lexed.ofText source).tokens.stop fault) :
    (Session.initial.program calls source).reports =
      (Session.initial.program (calls - 1) source).reports := by
  rw [program_reports_eq, program_reports_eq]
  congr 1
  by_cases none : calls ≤ Session.readingCalls
  · rw [Nat.sub_eq_zero_of_le none, Nat.sub_eq_zero_of_le (Nat.le_trans (Nat.sub_le _ _) none)]
  · have more : calls - Session.readingCalls = calls - 1 - Session.readingCalls + 1 := by omega
    rw [more, Parsed.ofTokens_succ fun fault mem => (shallow fault mem).cause_ne, List.flatMap_map]
    exact List.flatMap_congr fun fault mem => (shallow fault mem).ofSyntaxFault_relieved

theorem processed_ast_agrees
    (prints : (Session.initial.program calls source).value.dump? calls ≠ none)
    (reports : (processed style calls ⟨some path, false, true⟩ path source).stderr ≠ "")
    (shallow : ∀ fault ∈ (Parsed.ofTokens (calls - 1 - Session.readingCalls)
      (Lexed.ofText source).tokens).faults,
      (Diagnostics.initial.register source).Shallow (Lexed.ofText source).tokens.stop fault) :
    let ran := processed style calls ⟨some path, false, false⟩ path source
    let shown := processed style calls ⟨some path, false, true⟩ path source
    ran.stderr = shown.stderr ∧ ran.status = 65 ∧ shown.status = 65 := by
  obtain ⟨dump, dumps⟩ := Option.ne_none_iff_exists'.1 prints
  have shown := processed_ast_of_dump style calls path source dumps
  rw [shown, ne_eq, rendered_eq_empty_iff] at reports
  have same := program_reports_of_shallow calls source shallow
  rw [shown, processed_run_of_reported style calls path source (same ▸ reports),
    status_of_reported calls source reports, same]
  exact ⟨rfl, rfl, rfl⟩

end Processed

/-! ## Every way to look at a file -/

theorem outcome_of_readable (style : Text.Style) (calls : Nat)
    (files : String → Option (List UInt8)) (input : String) {path : String} {octets : List UInt8}
    {chars : List Char} {arguments : List String} {tokens ast : Bool}
    (named : path ≠ Source.promptPath) (whole : '\x00' ∉ path.toList)
    (opened : files path = some octets) (decoded : Text.Utf8.decode octets = .ok chars)
    (asked : Options.parse arguments = .ok (.run ⟨some path, tokens, ast⟩)) :
    outcome style calls files input arguments =
      processed style calls ⟨some path, tokens, ast⟩ path (.ofList (Text.unifyNewlines chars)) := by
  have loaded : Source.load path (some octets) = .ok (.ofList (Text.unifyNewlines chars)) := by
    unfold Source.load
    rw [if_neg named, if_neg (by simpa using whole)]
    simp only [decoded]
  simp only [outcome, asked, onFile, opened, loaded]

/-- The status with which the run of a file ends says what went wrong, and the texts printed then
are those printed before it did.  Where reading the file fails, its tokens, its tree and its run
are reported alike, unless something is too deep for the run. -/
theorem outcome_statuses (style : Text.Style) (calls : Nat)
    (files : String → Option (List UInt8)) (input : String) {path : String} {octets : List UInt8}
    {chars : List Char} {running listing showing : List String} {ast : Bool}
    (named : path ≠ Source.promptPath) (whole : '\x00' ∉ path.toList)
    (opened : files path = some octets) (decoded : Text.Utf8.decode octets = .ok chars)
    (runs : Options.parse running = .ok (.run ⟨some path, false, false⟩))
    (lists : Options.parse listing = .ok (.run ⟨some path, true, ast⟩))
    (shows : Options.parse showing = .ok (.run ⟨some path, false, true⟩)) :
    let source := String.ofList (Text.unifyNewlines chars)
    let lexed := Lexed.ofText source
    let parsed := Parsed.ofTokens (calls - 1 - Session.readingCalls) lexed.tokens
    let diagnostics := Diagnostics.initial.register source
    let ran := outcome style calls files input running
    let listed := outcome style calls files input listing
    let shown := outcome style calls files input showing
    (ran.status = 65 ↔ lexed.faults ≠ [] ∨ parsed.faults ≠ []) ∧
    (ran.status = 65 → ran.stdout = "" ∧
      ran.stderr = rendered ⟨path, style⟩ (lexed.faults.map diagnostics.ofLexicalFault ++
        parsed.faults.flatMap (diagnostics.ofSyntaxFault lexed.tokens.stop))) ∧
    (ran.status = 70 ↔ (lexed.faults = [] ∧ parsed.faults = []) ∧ ∃ failure,
      (parsed.program.exec (calls - 1 - Session.runningCalls) (.global [])).failure =
        some failure) ∧
    (ran.status = 70 → ∃ stmts outputs failure, parsed.program = stmts.map some ∧
      Block.Stops (calls - 1 - Session.runningCalls) stmts (.global []) outputs failure ∧
      ran.stdout = printed outputs ∧
      ran.stderr = rendered ⟨path, style⟩ [diagnostics.ofFailure failure]) ∧
    (ran.status = 0 ↔ ran.stderr = "") ∧
    (∃ more, shown.stderr = listed.stderr ++ more) ∧
    ((Parsed.ofTokens (calls - Session.readingCalls) lexed.tokens).program.dump? calls ≠ none →
      shown.stderr ≠ "" →
      (∀ fault ∈ parsed.faults, diagnostics.Shallow lexed.tokens.stop fault) →
      ran.stderr = shown.stderr ∧ ran.status = 65 ∧ shown.status = 65) := by
  rw [outcome_of_readable style calls files input named whole opened decoded runs,
    outcome_of_readable style calls files input named whole opened decoded lists,
    outcome_of_readable style calls files input named whole opened decoded shows]
  intro source
  obtain ⟨mistaken, failing, silent⟩ := processed_run_status style calls path source
  exact ⟨mistaken, processed_run_of_data style calls path source, failing,
    processed_run_stops style calls path source, silent,
    processed_ast_extends style calls path source ast,
    processed_ast_agrees style calls path source⟩

theorem decodeFrom_ascii {text : List Char} (ascii : text.all (·.toNat < 0x80) = true)
    (place : Nat) (before : List Char) :
    Text.Utf8.decodeFrom place none before (text.map fun char => char.toNat.toUInt8) =
      .ok (before.reverse ++ text) := by
  induction text generalizing place before with
  | nil => simp [Text.Utf8.decodeFrom]
  | cons char text ih =>
      obtain ⟨small, rest⟩ := Bool.and_eq_true_iff.1 ascii
      have small : char.toNat < 0x80 := of_decide_eq_true small
      have octet : char.toNat.toUInt8.toNat = char.toNat := by
        rw [Nat.toUInt8, UInt8.toNat_ofNat', Nat.mod_eq_of_lt (by omega)]
      rw [List.map_cons, Text.Utf8.decodeFrom, octet, if_pos small, ih rest, Char.ofNat_toNat]
      simp

theorem outcome_statuses_of_negation :
    let text := "spill 1\nspill -ril\nspill 2"
    let octets := text.toList.map fun char => char.toNat.toUInt8
    let files := fun path => if path = "a" then some octets else none
    let ran := outcome .plain startingCalls files "" ["a"]
    ("a" ≠ Source.promptPath ∧ '\x00' ∉ "a".toList ∧ files "a" = some octets ∧
      Text.Utf8.decode octets = .ok text.toList ∧
      Options.parse ["a"] = .ok (.run ⟨some "a", false, false⟩) ∧
      Options.parse ["--tok", "a"] = .ok (.run ⟨some "a", true, false⟩) ∧
      Options.parse ["a", "--ast"] = .ok (.run ⟨some "a", false, true⟩)) ∧
    ran.status = 70 ∧ ran.stdout = "1\n" ∧
    ∃ stmts outputs failure, Block.Stops 993 stmts (.global []) outputs failure ∧
      ran.stdout = printed outputs := by
  intro text octets files ran
  have named : "a" ≠ Source.promptPath := by decide
  have whole : '\x00' ∉ "a".toList := by decide
  have opened : files "a" = some octets := if_pos rfl
  have decoded : Text.Utf8.decode octets = .ok text.toList :=
    decodeFrom_ascii (by decide) 0 []
  have runs : Options.parse ["a"] = .ok (.run ⟨some "a", false, false⟩) := by rfl
  have lists : Options.parse ["--tok", "a"] = .ok (.run ⟨some "a", true, false⟩) := by rfl
  have shows : Options.parse ["a", "--ast"] = .ok (.run ⟨some "a", false, true⟩) := by rfl
  obtain ⟨_, _, _, stops, _⟩ :=
    outcome_statuses .plain startingCalls files "" named whole opened decoded runs lists shows
  have failed : ran.status = 70 := by decide +kernel
  have shown : ran.stdout = "1\n" := by decide +kernel
  obtain ⟨stmts, outputs, failure, _, stopped, stdout, _⟩ := stops failed
  exact ⟨⟨named, whole, opened, decoded, runs, lists, shows⟩, failed, shown,
    stmts, outputs, failure, stopped, stdout⟩

/-- A parenthesis that closes nothing, and below it a number that is a call too far down to run. -/
def barelyTooDeep : List Char :=
  ")\n".toList ++ List.replicate 5 '-' ++ List.replicate 81 '(' ++ '1' :: List.replicate 81 ')'

theorem barelyTooDeep_facts :
    let tokens := (Lexed.ofChars barelyTooDeep).tokens
    let tree := Parsed.ofTokens 990 tokens
    let parsed := Parsed.ofTokens 989 tokens
    barelyTooDeep.all (·.toNat < 0x80) = true ∧ Text.unifyNewlines barelyTooDeep = barelyTooDeep ∧
      tree.program.dumpCalls ≤ 998 ∧ tree.faults ≠ [] ∧ tree.faults <+: parsed.faults ∧
      parsed.faults.length = tree.faults.length + 1 := by
  decide +kernel

theorem program_reports_of_fewer {calls : Nat} {source : String} {fault : SyntaxFault}
    {faults : List SyntaxFault}
    (parts :
      (Parsed.ofTokens (calls - 1 - Session.readingCalls) (Lexed.ofText source).tokens).faults =
        (Parsed.ofTokens (calls - Session.readingCalls) (Lexed.ofText source).tokens).faults ++
          fault :: faults) :
    ∃ more, more ≠ [] ∧ (Session.initial.program (calls - 1) source).reports =
      (Session.initial.program calls source).reports ++ more := by
  rw [program_reports_eq, program_reports_eq, parts, List.flatMap_append, ← List.append_assoc]
  refine ⟨_, ?_, rfl⟩
  rw [List.flatMap_cons]
  exact List.append_ne_nil_of_left_ne_nil (Diagnostics.ofSyntaxFault_ne_nil _ _ _) _

/-- A run has a call less for reading than a tree has, and so it can report depth where the tree is
shown in full. -/
theorem outcome_tooDeep_to_run :
    let source := String.ofList barelyTooDeep
    let octets := barelyTooDeep.map fun char => char.toNat.toUInt8
    let files := fun path => if path = "a" then some octets else none
    let ran := outcome .plain startingCalls files "" ["a"]
    let shown := outcome .plain startingCalls files "" ["a", "--ast"]
    Text.Utf8.decode octets = .ok source.toList ∧
      (Session.initial.program startingCalls source).value.dump? startingCalls ≠ none ∧
      shown.stderr ≠ "" ∧ ran.stderr ≠ shown.stderr := by
  intro source octets files ran shown
  obtain ⟨ascii, unified, dumps, reported, first, length⟩ := barelyTooDeep_facts
  have chars : source.toList = barelyTooDeep := String.toList_ofList
  have decoded : Text.Utf8.decode octets = .ok barelyTooDeep := decodeFrom_ascii ascii 0 []
  have opened : files "a" = some octets := if_pos rfl
  have ran_eq : ran = processed .plain 998 ⟨some "a", false, false⟩ "a" source := by
    have read := outcome_of_readable .plain 998 files "" (by decide) (by decide) opened decoded
      (rfl : Options.parse ["a"] = .ok (.run ⟨some "a", false, false⟩))
    rwa [unified] at read
  have shown_eq : shown = processed .plain 998 ⟨some "a", false, true⟩ "a" source := by
    have read := outcome_of_readable .plain 998 files "" (by decide) (by decide) opened decoded
      (rfl : Options.parse ["a", "--ast"] = .ok (.run ⟨some "a", false, true⟩))
    rwa [unified] at read
  clear_value source
  rw [← chars] at dumps reported first length decoded
  obtain ⟨faults, parts⟩ := first
  rw [← parts, List.length_append] at length
  obtain ⟨fault, rfl⟩ := List.length_eq_one_iff.1 (Nat.add_left_cancel length)
  obtain ⟨more, some, more_eq⟩ := @program_reports_of_fewer 998 source fault [] parts.symm
  have shows : (Session.initial.program 998 source).reports ≠ [] := fun clean =>
    reported ((Session.initial.program_reports_eq_nil_iff 998 source).1 clean).2
  have runs : (Session.initial.program 997 source).reports ≠ [] := by simp [more_eq, shows]
  have prints : (Session.initial.program 998 source).value.dump? 998 = Option.some _ :=
    if_pos dumps
  rw [ran_eq, shown_eq, processed_ast_of_dump .plain 998 "a" source prints,
    processed_run_of_reported .plain 998 "a" source runs]
  refine ⟨decoded, Option.ne_none_iff_exists'.2 ⟨_, prints⟩, mt rendered_eq_empty_iff.1 shows, ?_⟩
  rw [more_eq, rendered_append, ne_eq, String.append_eq_left_iff, rendered_eq_empty_iff]
  exact some

end CommandLine

end BilingualScript
