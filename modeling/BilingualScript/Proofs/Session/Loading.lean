import BilingualScript.Proofs.Reading.Sentences

/-!
# Loading

A text runs as a whole or not at all.  It does not run if something in it, or in a text before it,
has been reported; and where nothing has been reported, nothing of the text has been left out.
-/

namespace BilingualScript

open Grammar

/-! ## Noted mistakes -/

namespace Diagnostics

variable (diagnostics : Diagnostics)

@[simp] theorem note_nil : diagnostics.note [] = diagnostics := by simp [note]

theorem note_note (first second : List Report) :
    (diagnostics.note first).note second = diagnostics.note (first ++ second) := by
  simp [note, Bool.or_assoc]

theorem severity_ofLexicalFault (fault : LexicalFault) :
    (diagnostics.ofLexicalFault fault).severity = .error := rfl

/-- A fault is reported once, or else cut short and then as one of depth. -/
theorem ofSyntaxFault_cases (stop : Token) (fault : SyntaxFault) :
    diagnostics.ofSyntaxFault stop fault = [diagnostics.syntaxReport stop fault.cause fault] ∨
      fault.cause = .cutShort ∧ diagnostics.ofSyntaxFault stop fault =
        [{ diagnostics.syntaxReport stop fault.cause fault with excerpt := none },
          diagnostics.syntaxReport stop .tooDeep fault] := by
  unfold ofSyntaxFault
  dsimp only
  split
  · next cut => exact .inr ⟨cut.1, rfl⟩
  · exact .inl rfl

theorem severity_ofSyntaxFault (stop : Token) (fault : SyntaxFault) :
    ∀ report ∈ diagnostics.ofSyntaxFault stop fault, report.severity = .error := by
  rcases diagnostics.ofSyntaxFault_cases stop fault with once | ⟨_, twice⟩
  · rw [once, List.forall_mem_singleton]
    rfl
  · rw [twice, List.forall_mem_cons, List.forall_mem_singleton]
    exact ⟨rfl, rfl⟩

theorem ofSyntaxFault_ne_nil (stop : Token) (fault : SyntaxFault) :
    diagnostics.ofSyntaxFault stop fault ≠ [] := by
  rcases diagnostics.ofSyntaxFault_cases stop fault with once | ⟨_, twice⟩
  · rw [once]
    exact List.cons_ne_nil _ _
  · rw [twice]
    exact List.cons_ne_nil _ _

theorem hadError_note {reports : List Report}
    (errors : ∀ report ∈ reports, report.severity = .error) :
    (diagnostics.note reports).hadError = true ↔
      diagnostics.hadError = true ∨ reports ≠ [] := by
  cases reports with
  | nil => simp
  | cons report reports => simp [note, errors report List.mem_cons_self]

end Diagnostics

/-! ## Texts without mistakes -/

def tokensOf (text : String) : List Token := (Lexed.ofText text).tokens.items

/-- A text is read without a mistake, as some statements for which there is room. -/
structure Loads (room : Nat) (text : String) (stmts : List Stmt) : Prop where
  clean : (Lexed.ofText text).faults = []
  sentence : Sentence (tokensOf text) stmts
  fits : Block.nesting stmts ≤ room

theorem Loads.nil {room : Nat} {text : String} (none : tokensOf text = [])
    (clean : (Lexed.ofText text).faults = []) : Loads room text [] := by
  refine ⟨clean, ?_, Nat.zero_le _⟩
  rw [none]
  exact .nil

theorem Loads.mono {room room' : Nat} (enough : room ≤ room') {text : String} {stmts : List Stmt}
    (loads : Loads room text stmts) : Loads room' text stmts :=
  ⟨loads.clean, loads.sentence, Nat.le_trans loads.fits enough⟩

namespace Session

variable (session : Session) (calls : Nat) (source : String)

/-! ## What is read -/

theorem program_value :
    (session.program calls source).value =
      (Parsed.ofTokens (calls - readingCalls) (Lexed.ofText source).tokens).program := rfl

@[simp] theorem program_scope :
    (session.program calls source).session.scope = session.scope := rfl

theorem program_reports :
    (session.program calls source).reports =
      (session.tokens source).reports ++
        (Parsed.ofTokens (calls - readingCalls) (Lexed.ofText source).tokens).faults.flatMap
          ((session.tokens source).session.diagnostics.ofSyntaxFault
            (Lexed.ofText source).tokens.stop) := rfl

theorem severity_tokens : ∀ report ∈ (session.tokens source).reports, report.severity = .error := by
  intro report mem
  obtain ⟨fault, _, rfl⟩ := List.mem_map.1 mem
  exact Diagnostics.severity_ofLexicalFault _ fault

theorem severity_program :
    ∀ report ∈ (session.program calls source).reports, report.severity = .error := by
  intro report mem
  rw [program_reports] at mem
  rcases List.mem_append.1 mem with mem | mem
  · exact session.severity_tokens source report mem
  · obtain ⟨fault, _, mem⟩ := List.mem_flatMap.1 mem
    exact Diagnostics.severity_ofSyntaxFault _ _ fault report mem

theorem program_session :
    (session.program calls source).session =
      ⟨(session.diagnostics.register source).note (session.program calls source).reports,
        session.scope⟩ := by
  rw [program_reports, ← Diagnostics.note_note]
  rfl

theorem hadError_program :
    (session.program calls source).session.diagnostics.hadError = true ↔
      session.diagnostics.hadError = true ∨ (session.program calls source).reports ≠ [] := by
  rw [program_session]
  exact Diagnostics.hadError_note _ (session.severity_program calls source)

theorem program_reports_eq_nil_iff :
    (session.program calls source).reports = [] ↔
      (Lexed.ofText source).faults = [] ∧
        (Parsed.ofTokens (calls - readingCalls) (Lexed.ofText source).tokens).faults = [] := by
  rw [program_reports, List.append_eq_nil_iff, List.flatMap_eq_nil_iff]
  refine and_congr List.map_eq_nil_iff ⟨fun none => ?_, fun none => by simp [none]⟩
  exact List.eq_nil_iff_forall_not_mem.2 fun fault mem =>
    Diagnostics.ofSyntaxFault_ne_nil _ _ fault (none fault mem)

/-! ## What is run -/

theorem run_of_hadError
    (noted : (session.program (calls - 1) source).session.diagnostics.hadError = true) :
    session.run calls source =
      ((session.program (calls - 1) source).session,
        ⟨[], (session.program (calls - 1) source).reports⟩) := by
  rw [run]
  exact if_pos noted

theorem run_of_clean (noted : session.diagnostics.hadError = false)
    (clean : (session.program (calls - 1) source).reports = []) :
    session.run calls source =
      interpret ⟨session.diagnostics.register source, session.scope⟩ (calls - 1)
        (session.program (calls - 1) source).value := by
  have unnoted : ¬(session.program (calls - 1) source).session.diagnostics.hadError = true := by
    rw [hadError_program, noted, clean]
    simp
  rw [run]
  refine (if_neg unnoted).trans ?_
  rw [program_session, clean, Diagnostics.note_nil]
  rfl

theorem run_reports_of_clean (noted : session.diagnostics.hadError = false)
    (clean : (session.program (calls - 1) source).reports = []) :
    (session.run calls source).2.reports =
      ((session.program (calls - 1) source).value.exec (calls - 1 - runningCalls)
        session.scope).failure.toList.map (session.diagnostics.register source).ofFailure := by
  rw [session.run_of_clean calls source noted clean]
  rfl

/-- A text in which nothing is reported is a sentence, and all of it is kept. -/
theorem program_of_clean (clean : (session.program calls source).reports = []) :
    ∃ stmts, Sentence (Lexed.ofText source).tokens.items stmts ∧
      (session.program calls source).value = stmts.map some ∧
      Block.written stmts =
        (Token.tidied true (Lexed.ofText source).tokens.items).map Token.bare := by
  have clean := ((session.program_reports_eq_nil_iff calls source).1 clean).2
  obtain ⟨stmts, sentence, fits⟩ := (Parsed.ofTokens_faults_eq_nil_iff _ _).1 clean
  refine ⟨stmts, sentence, ?_, sentence.written (Lexed.hasLiteral source)⟩
  rw [program_value, Parsed.ofTokens_of_sentence sentence fits]

/-! ## Texts that load -/

theorem program_reports_eq_nil_iff_loads :
    (session.program calls source).reports = [] ↔
      ∃ stmts, Loads (calls - readingCalls) source stmts := by
  rw [program_reports_eq_nil_iff, Parsed.ofTokens_faults_eq_nil_iff]
  constructor
  · rintro ⟨clean, stmts, sentence, fits⟩
    exact ⟨stmts, clean, sentence, fits⟩
  · rintro ⟨stmts, clean, sentence, fits⟩
    exact ⟨clean, stmts, sentence, fits⟩

variable {session calls source}

theorem run_eq_interpret {stmts : List Stmt} (unnoted : session.diagnostics.hadError = false)
    (loads : Loads (calls - 1 - readingCalls) source stmts) :
    session.run calls source =
      interpret ⟨session.diagnostics.register source, session.scope⟩ (calls - 1)
        (stmts.map some) := by
  have clean := (session.program_reports_eq_nil_iff_loads (calls - 1) source).2 ⟨stmts, loads⟩
  rw [session.run_of_clean calls source unnoted clean, program_value,
    Parsed.ofTokens_of_sentence loads.sentence loads.fits]

theorem run_of_loads {stmts : List Stmt} (unnoted : session.diagnostics.hadError = false)
    (loads : Loads (calls - 1 - readingCalls) source stmts) {outputs : List String}
    {after : Scope}
    (run : Block.exec (calls - 1 - runningCalls) stmts session.scope = ⟨outputs, none, after⟩) :
    session.run calls source =
      (⟨session.diagnostics.register source, after⟩, ⟨outputs, []⟩) := by
  rw [run_eq_interpret unnoted loads]
  simp [interpret, run]

/-- A text that runs without a report is free of mistakes, and its run does not fail. -/
theorem loads_of_silent (silent : (session.run calls source).2.reports = [])
    (unnoted : session.diagnostics.hadError = false) :
    ∃ stmts outputs after, Loads (calls - 1 - readingCalls) source stmts ∧
      Block.exec (calls - 1 - runningCalls) stmts session.scope = ⟨outputs, none, after⟩ := by
  by_cases clean : (session.program (calls - 1) source).reports = []
  · obtain ⟨stmts, loads⟩ :=
      (session.program_reports_eq_nil_iff_loads (calls - 1) source).1 clean
    rw [run_eq_interpret unnoted loads] at silent
    rcases run : Block.exec (calls - 1 - runningCalls) stmts session.scope with
      ⟨outputs, failure, after⟩
    cases failure with
    | none => exact ⟨stmts, outputs, after, loads, run⟩
    | some failure => simp [interpret, run] at silent
  · have noted := (session.hadError_program (calls - 1) source).2 (.inr clean)
    rw [session.run_of_hadError calls source noted] at silent
    exact absurd silent clean

/-! ## All or nothing -/

/-- If anything has been reported, in a text or before, the text has no effect.  Otherwise all its
statements run.  Where a statement is missing, or a part of one, something has been reported. -/
theorem run_whole_or_nothing (session : Session) (calls : Nat) (source : String) :
    (session.diagnostics.hadError = true ∨ (session.program (calls - 1) source).reports ≠ [] →
      (session.run calls source).2.outputs = [] ∧
        (∀ report ∈ (session.run calls source).2.reports, report.severity = .error) ∧
        (session.run calls source).1.scope = session.scope ∧
        (session.run calls source).1.diagnostics.hadError = true) ∧
      (session.diagnostics.hadError = false → (session.program (calls - 1) source).reports = [] →
        ∃ stmts, Sentence (Lexed.ofText source).tokens.items stmts ∧
          (session.program (calls - 1) source).value = stmts.map some ∧
          Block.written stmts =
            (Token.tidied true (Lexed.ofText source).tokens.items).map Token.bare ∧
          session.run calls source =
            interpret ⟨session.diagnostics.register source, session.scope⟩ (calls - 1)
              (stmts.map some)) ∧
      (none ∈ (session.program (calls - 1) source).value ∨
          Block.written ((session.program (calls - 1) source).value.filterMap id) ≠
            (Token.tidied true (Lexed.ofText source).tokens.items).map Token.bare →
        (session.program (calls - 1) source).session.diagnostics.hadError = true) := by
  refine ⟨fun reported => ?_, fun noted clean => ?_, fun lost => ?_⟩
  · have noted := (session.hadError_program (calls - 1) source).2 reported
    rw [session.run_of_hadError calls source noted]
    exact ⟨rfl, session.severity_program _ source, session.program_scope _ source, noted⟩
  · obtain ⟨stmts, sentence, value, written⟩ := session.program_of_clean (calls - 1) source clean
    refine ⟨stmts, sentence, value, written, ?_⟩
    rw [session.run_of_clean calls source noted clean, value]
  · refine (session.hadError_program (calls - 1) source).2 (.inr fun clean => ?_)
    obtain ⟨stmts, _, value, written⟩ := session.program_of_clean (calls - 1) source clean
    rw [value] at lost
    rcases lost with gap | lost
    · simp at gap
    · exact lost (by simpa using written)

theorem run_whole_or_nothing_of_target :
    (initial.run 998 "spill 1\n(x) itu 2").2.outputs = [] ∧
      (initial.program 997 "spill 1\n(x) itu 2").session.diagnostics.hadError = true ∧
      ∃ stmts, Sentence (Lexed.ofText "spill 1").tokens.items stmts := by
  obtain ⟨nothing, _, lost⟩ := run_whole_or_nothing initial 998 "spill 1\n(x) itu 2"
  obtain ⟨_, whole, _⟩ := run_whole_or_nothing initial 998 "spill 1"
  obtain ⟨stmts, sentence, _⟩ := whole rfl (by decide +kernel)
  exact ⟨(nothing (.inr (by decide +kernel))).1, lost (.inr (by decide +kernel)), stmts, sentence⟩

end Session

end BilingualScript
