import BilingualScript.Proofs.Evaluation.Blame
import BilingualScript.Proofs.Reading.Placement
import BilingualScript.Proofs.Report.Excerpt
import BilingualScript.Proofs.Session.Running
import BilingualScript.Proofs.Token.Standing

/-!
# Where reports point

What a session reports about a text points at the token or the character at fault in that text, and
shows the line there.
-/

namespace BilingualScript

open Text Grammar

/-! ## Lexemes -/

theorem pointable_of_plain {part : List Char} (some : part ≠ [])
    (plain : ∀ char ∈ part, char ≠ '\n' ∧ char ≠ '\r') (rest : List Char) :
    Pointable part rest := by
  obtain ⟨first, more, rfl⟩ := List.exists_cons_of_ne_nil some
  obtain ⟨noNewline, noReturn⟩ := plain first List.mem_cons_self
  refine .visible noNewline noReturn rfl fun last => ?_
  exact (plain _ (List.mem_of_getLast? last)).2 rfl

theorem plain_of_continuesWord {char : Char} (continues : IsLetter char ∨ IsDigit char) :
    char ≠ '\n' ∧ char ≠ '\r' := by
  rw [← continuesWord_iff] at continues
  constructor
  · rintro rfl
    exact absurd continues (by decide)
  · rintro rfl
    exact absurd continues (by decide)

theorem Word.plain {text : List Char} (word : Word text) :
    ∀ char ∈ text, char ≠ '\n' ∧ char ≠ '\r' := by
  cases word with
  | mk letter others =>
      exact List.forall_mem_cons.2 ⟨plain_of_continuesWord (.inl letter), fun char mem =>
        plain_of_continuesWord (others char mem)⟩

theorem Numeral.plain {text : List Char} (numeral : Numeral text) :
    ∀ char ∈ text, char ≠ '\n' ∧ char ≠ '\r' := by
  cases numeral with
  | whole _ digits => exact fun char mem => plain_of_continuesWord (.inr (digits char mem))
  | point _ digits _ digits' =>
      refine List.forall_mem_append.2 ⟨?_, List.forall_mem_cons.2 ⟨by decide, ?_⟩⟩
      · exact fun char mem => plain_of_continuesWord (.inr (digits char mem))
      · exact fun char mem => plain_of_continuesWord (.inr (digits' char mem))

theorem Lexeme.pointable {kind : Kind} {text : List Char} (lexeme : Lexeme kind text)
    (rest : List Char) : Pointable text rest := by
  cases lexeme with
  | sign sign =>
      have all : ∀ pair ∈ signs, pair.1 = ['\n'] ∨
          pair.1 ≠ [] ∧ '\n' ∉ pair.1 ∧ '\r' ∉ pair.1 := by decide
      rcases all _ sign with rfl | ⟨some, noNewline, noReturn⟩
      · exact .newline
      · exact pointable_of_plain some (fun char mem =>
          ⟨ne_of_mem_of_not_mem mem noNewline, ne_of_mem_of_not_mem mem noReturn⟩) rest
  | number numeral => exact pointable_of_plain (Lexeme.number numeral).ne_nil numeral.plain rest
  | @quoted quote body isQuote _ =>
      have visible : quote ≠ '\n' ∧ quote ≠ '\r' := by rcases isQuote with rfl | rfl <;> decide
      refine .visible visible.1 visible.2 rfl ?_
      rw [← List.cons_append, List.getLast?_concat]
      simpa using visible.2
  | reserved reserved =>
      have word := (Kind.reserved_spec reserved).1
      exact pointable_of_plain word.ne_nil word.plain rest
  | identifier word _ => exact pointable_of_plain word.ne_nil word.plain rest

/-! ## Reports -/

/-- A report points at a part of a text that stands between two others, and shows its line unless
that is blank. -/
def Report.PointsAt (front part rest : List Char) (report : Report) : Prop :=
  report.position = .behind front ∧
    if isBlankLine (lineAround front (part ++ rest)) then report.excerpt = none
    else ∃ excerpt, report.excerpt = some excerpt ∧ excerpt.Shows front part rest

def Report.PointsInto (source : String) (part : List Char) (report : Report) : Prop :=
  ∃ front rest, source.toList = front ++ (part ++ rest) ∧ report.PointsAt front part rest

namespace Diagnostics

variable {diagnostics : Diagnostics} {source : String}

theorem report_pointsInto (registered : diagnostics.lines = Text.lines source.toList)
    {front part rest : List Char} (parts : source.toList = front ++ (part ++ rest))
    (pointable : Pointable part rest) (severity : Severity) (message : String) :
    (diagnostics.report severity (.behind front) part.length message).PointsInto source part := by
  refine ⟨front, rest, parts, rfl, ?_⟩
  rw [report, registered, parts, Excerpt.at?_behind]
  split
  · rfl
  · exact ⟨_, rfl, Excerpt.shows_of_pointable pointable front⟩

theorem ofLexicalFault_pointsInto (registered : diagnostics.lines = Text.lines source.toList)
    {fault : LexicalFault} (mem : fault ∈ (Lexed.ofText source).faults) :
    ∃ char, char ≠ '\n' ∧ char ≠ '\r' ∧
      (diagnostics.ofLexicalFault fault).PointsInto source [char] := by
  obtain ⟨char, ⟨front, rest, parts, position⟩, noNewline, noReturn⟩ :=
    Lexed.starts_of_mem_faults mem
  refine ⟨char, noNewline, noReturn, ?_⟩
  rw [ofLexicalFault, lexicalReport, position]
  exact report_pointsInto registered parts (pointable_of_plain (by simp) (by simp [*]) rest) _ _

theorem token_pointsInto (registered : diagnostics.lines = Text.lines source.toList) {token : Token}
    (mem : token ∈ (Lexed.ofText source).tokens.items ∨ token = (Lexed.ofText source).tokens.stop)
    (severity : Severity) (message : String) :
    (diagnostics.report severity token.position token.lexeme.length message).PointsInto source
      token.lexeme.toList := by
  rw [← String.length_toList]
  rcases mem with mem | rfl
  · obtain ⟨⟨front, rest, parts, position⟩, lexeme⟩ := Lexed.starts_of_mem_items mem
    rw [position]
    exact report_pointsInto registered parts (lexeme.pointable rest) _ _
  · have position : (Lexed.ofText source).tokens.stop.position = .behind source.toList :=
      Position.start_after _
    rw [position]
    exact report_pointsInto registered (by simp) .stop _ _

theorem ofSyntaxFault_pointsInto (registered : diagnostics.lines = Text.lines source.toList)
    {room : Nat} {fault : SyntaxFault}
    (mem : fault ∈ (Parsed.ofTokens room (Lexed.ofText source).tokens).faults) :
    let stop := (Lexed.ofText source).tokens.stop
    ∀ report ∈ diagnostics.ofSyntaxFault stop fault,
      report.PointsInto source (fault.token stop).lexeme.toList ∨
        fault.cause = .cutShort ∧ ∃ whole : Report,
          whole.PointsInto source (fault.token stop).lexeme.toList ∧
          diagnostics.ofSyntaxFault stop fault =
            [{ whole with excerpt := none }, diagnostics.syntaxReport stop .tooDeep fault] ∧
          report = { whole with excerpt := none } := by
  intro stop report reported
  have points (cause : SyntaxCause) : (diagnostics.syntaxReport stop cause fault).PointsInto source
      (fault.token stop).lexeme.toList :=
    token_pointsInto registered (Parsed.token_mem _ _ fault mem) _ _
  rcases diagnostics.ofSyntaxFault_cases stop fault with once | ⟨cut, twice⟩
  · rw [once, List.mem_singleton] at reported
    rw [reported]
    exact .inl (points fault.cause)
  · rw [twice, List.mem_cons, List.mem_singleton] at reported
    rcases reported with first | rfl
    · exact .inr ⟨cut, _, points fault.cause, twice, first⟩
    · exact .inl (points .tooDeep)

end Diagnostics

namespace Session

/-- Every report about a text points at the character or the token at fault in that text.  One that
is cut short has its place but no excerpt, and one of depth follows it.  Where depth stops a
statement whose expression or first condition is a literal, perhaps in parentheses, that is reported
at the start of the text. -/
theorem run_points (session : Session) (calls : Nat) (source : String) :
    let lexed := Lexed.ofText source
    let stop := lexed.tokens.stop
    let diagnostics := session.diagnostics.register source
    ∀ report ∈ (session.run calls source).2.reports,
      (∃ fault ∈ lexed.faults, report = diagnostics.ofLexicalFault fault ∧
        ∃ char, char ≠ '\n' ∧ char ≠ '\r' ∧ report.PointsInto source [char]) ∨
      (∃ fault ∈ (Parsed.ofTokens (calls - 1 - readingCalls) lexed.tokens).faults,
        report ∈ diagnostics.ofSyntaxFault stop fault ∧
          (report.PointsInto source (fault.token stop).lexeme.toList ∨
            fault.cause = .cutShort ∧ ∃ whole : Report,
              whole.PointsInto source (fault.token stop).lexeme.toList ∧
              diagnostics.ofSyntaxFault stop fault =
                [{ whole with excerpt := none }, diagnostics.syntaxReport stop .tooDeep fault] ∧
              report = { whole with excerpt := none })) ∨
      ∃ stmts failure, (session.program (calls - 1) source).value = stmts.map some ∧
        (Block.exec (calls - 1 - runningCalls) stmts session.scope).failure = some failure ∧
        report = diagnostics.ofFailure failure ∧
          (report.PointsInto source failure.token.lexeme.toList ∨
            failure = ⟨.tooDeep, .eof .start⟩ ∧ ∃ head ∈ Block.heads stmts,
              ∃ count value, head = Expr.grouping^[count] (.literal value)) := by
  intro lexed stop diagnostics report reported
  rcases session.run_cases calls source with ⟨_, ran⟩ | ⟨_, clean, ran⟩
  · rw [ran] at reported
    rcases List.mem_append.1 reported with lexical | syntactic
    · obtain ⟨fault, mem, rfl⟩ := List.mem_map.1 lexical
      exact .inl ⟨fault, mem, rfl, Diagnostics.ofLexicalFault_pointsInto rfl mem⟩
    · obtain ⟨fault, mem, among⟩ := List.mem_flatMap.1 syntactic
      refine .inr (.inl ⟨fault, mem, among, ?_⟩)
      exact Diagnostics.ofSyntaxFault_pointsInto rfl mem report among
  · obtain ⟨stmts, sentence, value, _⟩ := session.program_of_clean _ source clean
    rw [ran, value, interpret, Program.exec_map_some] at reported
    obtain ⟨failure, failed, rfl⟩ := List.mem_map.1 reported
    have failed := Option.mem_toList.1 failed
    refine .inr (.inr ⟨stmts, failure, value, failed, rfl, ?_⟩)
    rcases Block.exec_blames _ session.scope (List.Subset.refl _) (List.Subset.refl _)
      failure failed with mem | ⟨deep, head, mem, none⟩
    · have mem := Lines.tokens_subset sentence mem
      exact .inl (Diagnostics.token_pointsInto rfl (.inl mem) _ _)
    · exact .inr ⟨deep, head, mem, Expr.token?_eq_none_iff.1 none⟩

/-- Quotes over two lines are marked up to the end of the first. -/
theorem run_points_at_quotes :
    let source := "spill 1 'a\r\n b'"
    let report : Report := ⟨.error, ⟨1, 9⟩, "Expect newline after value. (at ''a\r\n b'')",
      some ⟨"spill 1 ".toList, "'a".toList, [], 8, 2⟩⟩
    (initial.run 998 source).2.reports = [report] ∧
      report.PointsInto source "'a\r\n b'".toList := by
  intro source report
  have reports : (initial.run 998 source).2.reports = [report] := by decide +kernel
  refine ⟨reports, ?_⟩
  have points := run_points initial 998 source report (by simp [reports])
  rcases points with ⟨_, mem, _⟩ | ⟨fault, mem, _, points⟩ | ⟨stmts, _, value, _⟩
  · have none : (Lexed.ofText source).faults = [] := by decide +kernel
    rw [none] at mem
    cases mem
  · have one : (Parsed.ofTokens 989 (Lexed.ofText source).tokens).faults =
        [⟨.expectEndOfSpill, [⟨.string, "'a\r\n b'", .text "a\r\n b", ⟨1, 9⟩⟩]⟩] := by
      decide +kernel
    obtain rfl := List.mem_singleton.1 (one ▸ mem)
    exact points.resolve_right fun cut => by cases cut.1
  · have gap : (initial.program 997 source).value.all Option.isSome = false := by decide +kernel
    simp [value] at gap

/-- An if statement of which the second condition is too deep to be evaluated. -/
def deepOtherwise : List Char :=
  "kalo impossible\nperhaps ".toList ++ List.replicate 450 '!' ++ "ril\nudahan".toList

def negatesOtherwise : Program → Bool
  | [some (.kalo (.literal _) [] (.perhaps (.unary _ _) [] .nothing))] => true
  | _ => false

theorem exists_of_negatesOtherwise {program : Program} (negates : negatesOtherwise program = true) :
    ∃ value operator operand, program =
      [some (.kalo (.literal value) [] (.perhaps (.unary operator operand) [] .nothing))] := by
  unfold negatesOtherwise at negates
  split at negates
  · exact ⟨_, _, _, rfl⟩
  · cases negates

theorem deepOtherwise_facts :
    let parsed := Parsed.ofTokens 989 (Lexed.ofChars deepOtherwise).tokens
    (Lexed.ofChars deepOtherwise).faults = [] ∧ parsed.faults = [] ∧
      negatesOtherwise parsed.program = true ∧
      (parsed.program.exec 993 (.global [])).failure = some ⟨.tooDeep, .eof .start⟩ ∧
      Excerpt.at? (Text.lines deepOtherwise) .start 0 =
        some ⟨[], ['k'], "alo impossible".toList, 0, 1⟩ := by
  decide +kernel

/-- An if statement whose first condition is a literal has no token, whatever is too deep in its
further conditions.  Then the first character of the text is marked. -/
theorem run_marks_first_character :
    let source := String.ofList deepOtherwise
    let program := (initial.program 997 source).value
    let failure : Failure := ⟨.tooDeep, .eof .start⟩
    let report : Report := ⟨.runtimeError, ⟨1, 1⟩, "Expression nested too deeply.",
      some ⟨[], ['k'], "alo impossible".toList, 0, 1⟩⟩
    (∃ value operator operand, program =
        [some (.kalo (.literal value) [] (.perhaps (.unary operator operand) [] .nothing))]) ∧
      (program.exec 993 initial.scope).failure = some failure ∧
      (initial.run 998 source).2.reports = [report] ∧
      ¬ report.PointsInto source failure.token.lexeme.toList := by
  intro source program failure report
  obtain ⟨lexical, syntactic, shape, failed, excerpt⟩ := deepOtherwise_facts
  have chars : source.toList = deepOtherwise := String.toList_ofList
  clear_value source
  rw [← chars] at lexical syntactic shape failed excerpt
  have failed : (program.exec 993 initial.scope).failure = some failure := failed
  have clean := (initial.program_reports_eq_nil_iff 997 source).2 ⟨lexical, syntactic⟩
  have reports : (initial.run 998 source).2.reports =
      (program.exec 993 initial.scope).failure.toList.map
        (Diagnostics.initial.register source).ofFailure :=
    initial.run_reports_of_clean 998 source rfl clean
  refine ⟨exists_of_negatesOtherwise shape, failed, ?_, ?_⟩
  · rw [reports, failed]
    exact congrArg (fun excerpt => [Report.mk .runtimeError _ _ excerpt]) excerpt
  · rintro ⟨front, rest, _, _, points⟩
    split at points
    · cases points
    · obtain ⟨_, same, shows⟩ := points
      obtain rfl := Option.some.inj same
      cases shows.marked

end Session

end BilingualScript
