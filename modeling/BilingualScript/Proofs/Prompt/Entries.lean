import BilingualScript.Proofs.Evaluation.Moved
import BilingualScript.Proofs.Evaluation.Sequence
import BilingualScript.Proofs.Prompt.Feeding

/-!
# Entries

The entries that a prompt makes of the lines of a program are groups of whole statements, so that
running one after another does what running the program does.
-/

namespace BilingualScript

open Grammar

/-! ## Programs -/

/-- Lines that mean at a prompt what they mean in a program: none of them ends the input, only
inside an if statement is one of them a command or does a string have several lines. -/
structure Feedable (lines : List String) : Prop where
  noEnd : Prompt.endLine ∉ lines
  commands : ∀ before line after, lines = before ++ line :: after →
    Prompt.commandOf line ∈ ["help", "exit"] → needsContinuation (joined before) = true
  strings : ∀ before string after, tokensOf (joined lines) = before ++ string :: after →
    string.kind = .string → '\n' ∈ string.lexeme.toList → 0 < surplus before

theorem feedable_nil : Feedable [] where
  noEnd := List.not_mem_nil
  commands before line after parts := by
    cases before <;> cases parts
  strings before string after parts := by
    have none : tokensOf (joined []) = [] := rfl
    rw [none] at parts
    cases before <;> cases parts

theorem tokensOf_joined {front behind : List String} (nonempty : front ≠ [])
    (nonempty' : behind ≠ []) (clean : (Lexed.ofText (joined front)).faults = []) :
    ∃ newline lines, newline.kind = .newline ∧
      tokensOf (joined (front ++ behind)) = tokensOf (joined front) ++ newline ::
        (tokensOf (joined behind)).map (Token.moved lines) := by
  have text := toList_joined_append nonempty nonempty'
  have items := (Lexed.ofChars_break_of_clean clean (joined behind).toList).1
  rw [← text] at items
  refine ⟨_, _, ?_, items⟩
  rfl

theorem Feedable.behind {front behind : List String} (feedable : Feedable (front ++ behind))
    (nonempty : front ≠ []) (nonempty' : behind ≠ [])
    (clean : (Lexed.ofText (joined front)).faults = [])
    (level : surplus (tokensOf (joined front)) = 0) : Feedable behind where
  noEnd mem := feedable.noEnd (List.mem_append_right _ mem)
  commands before line after parts command := by
    have opens := feedable.commands (front ++ before) line after (by simp [parts]) command
    rw [needsContinuation_iff] at opens ⊢
    by_cases first : before = []
    · rw [first, List.append_nil, level] at opens
      exact absurd opens (Int.lt_irrefl 0)
    · obtain ⟨newline, lines, kind, items⟩ := tokensOf_joined nonempty first clean
      rwa [items, surplus_append, surplus_cons, surplus_moved, level,
        surplus_of_other (by simp [kind]) (by simp [kind]), Int.zero_add, Int.zero_add] at opens
  strings before string after parts kind newline := by
    obtain ⟨between, lines, between_kind, items⟩ := tokensOf_joined nonempty nonempty' clean
    rw [parts, List.map_append, List.map_cons, ← List.cons_append, ← List.append_assoc] at items
    have opens := feedable.strings _ _ _ items kind newline
    rwa [surplus_append, surplus_cons, surplus_moved, level,
      surplus_of_other (by simp [between_kind]) (by simp [between_kind]), Int.zero_add,
      Int.zero_add] at opens

/-- A mistake-free text of which the first lines leave no if statement open is those lines and a
mistake-free text behind them. -/
theorem Loads.split {room : Nat} {front behind : List String} {stmts : List Stmt}
    (loads : Loads room (joined (front ++ behind)) stmts) (feedable : Feedable (front ++ behind))
    (nonempty : front ≠ []) (complete : needsContinuation (joined front) = false) :
    ∃ first second, Loads room (joined front) first ∧ Loads room (joined behind) second ∧
      Feedable behind ∧ ∀ room' scope after outputs,
        Block.exec room' stmts scope = ⟨outputs, none, after⟩ → ∃ before middle rest,
          Block.exec room' first scope = ⟨before, none, middle⟩ ∧
          Block.exec room' second middle = ⟨rest, none, after⟩ ∧ outputs = before ++ rest := by
  have level : surplus (tokensOf (joined front)) ≤ 0 := by
    rw [← Int.not_lt, ← needsContinuation_iff, complete]
    decide
  by_cases last : behind = []
  · subst last
    rw [List.append_nil] at loads
    refine ⟨stmts, [], loads, .nil rfl rfl, feedable_nil, fun _ _ after outputs run => ?_⟩
    exact ⟨outputs, after, [], run, rfl, (List.append_nil _).symm⟩
  have text := toList_joined_append nonempty last
  rcases Lexed.ofChars_break (joined front).toList (joined behind).toList with parts | parts
  · obtain ⟨items, cleans⟩ := parts
    rw [← text] at items cleans
    obtain ⟨clean, clean'⟩ := cleans.1 loads.clean
    have sentence := loads.sentence
    rw [tokensOf, Lexed.ofText, items] at sentence
    have fits := loads.fits
    obtain ⟨first, second, rfl, before, after, zero⟩ := Lines.split sentence rfl level
    rw [Block.nesting_append, Nat.max_le] at fits
    refine ⟨first, _, ⟨clean, before, fits.1⟩, ⟨clean', after.moved_back, ?_⟩,
      feedable.behind nonempty last clean zero, fun _ _ after outputs run => ?_⟩
    · rw [Block.nesting_moved]
      exact fits.2
    · rw [Block.exec_append, Execution.andThen_clean] at run
      obtain ⟨before, middle, rest, start, behind, rfl⟩ := run
      exact ⟨before, middle, rest, start, (Block.exec_moved _ _ _ _).eq_of_clean behind, rfl⟩
  · obtain ⟨_, after, items, _, opens⟩ := parts
    rw [← text] at items opens
    obtain ⟨string, rest, rfl, kind, newline⟩ := opens loads.clean
    exact absurd (feedable.strings _ _ _ items kind newline) (Int.not_lt.2 level)

/-! ## Lines one after another -/

namespace Prompt

def IsQuiet (reply : Reply) : Prop :=
  reply.stop ≠ some true ∧ reply.printed = "" ∧ reply.transcript.reports = []

structure Completes (result : Prompt × List Reply) (outputs : List String) (after : Scope) :
    Prop where
  pending : result.1.pending = []
  scope : result.1.session.scope = after
  quiet : ∀ reply ∈ result.2, IsQuiet reply
  outputs : result.2.flatMap (·.transcript.outputs) = outputs

theorem Completes.cons {prompt next : Prompt} {calls : Nat} {line : String} {rest : List String}
    {reply : Reply} {outputs : List String} {after : Scope}
    (fed : prompt.feed calls line = (next, reply)) (quiet : IsQuiet reply)
    (completes : Completes (next.feedAll calls rest) outputs after) :
    Completes (prompt.feedAll calls (line :: rest)) (reply.transcript.outputs ++ outputs)
      after := by
  have all : prompt.feedAll calls (line :: rest) =
      ((next.feedAll calls rest).1, reply :: (next.feedAll calls rest).2) := by
    rw [feedAll, fed]
  rw [all]
  exact ⟨completes.pending, completes.scope, List.forall_mem_cons.2 ⟨quiet, completes.quiet⟩,
    by rw [List.flatMap_cons, completes.outputs]⟩

/-- What a prompt has left of a program: lines that load, and in front of them those of an if
statement that is still open. -/
structure Awaits (room : Nat) (prompt : Prompt) (rest : List String) (stmts : List Stmt) :
    Prop where
  loads : Loads room (joined (prompt.pending ++ rest)) stmts
  feedable : Feedable (prompt.pending ++ rest)
  opened : prompt.pending ≠ [] → needsContinuation (joined prompt.pending) = true
  unnoted : prompt.session.diagnostics.hadError = false

theorem Awaits.nil {room : Nat} {prompt : Prompt} {stmts : List Stmt}
    (awaits : Awaits room prompt [] stmts) :
    prompt.pending = [] ∧ stmts = [] := by
  have loads := awaits.loads
  rw [List.append_nil] at loads
  by_cases between : prompt.pending = []
  · rw [between] at loads
    have none : Sentence (tokensOf (joined [])) [] := .nil
    exact ⟨between, none.unique loads.sentence⟩
  · have opened := (needsContinuation_iff _).1 (awaits.opened between)
    rw [Lines.surplus_eq_zero loads.sentence] at opened
    exact absurd opened (Int.lt_irrefl 0)

theorem Awaits.wait {room : Nat} {prompt : Prompt} {line : String} {rest : List String}
    {stmts : List Stmt} (awaits : Awaits room prompt (line :: rest) stmts)
    (opens : needsContinuation (joined (prompt.pending ++ [line])) = true) (mark : String) :
    Awaits room ⟨prompt.session, prompt.pending ++ [line], mark⟩ rest stmts where
  loads := by simpa using awaits.loads
  feedable := by simpa using awaits.feedable
  opened := fun _ => opens
  unnoted := awaits.unnoted

theorem Awaits.entry {room : Nat} {prompt : Prompt} {line : String} {rest : List String}
    {stmts : List Stmt} (awaits : Awaits room prompt (line :: rest) stmts)
    (complete : needsContinuation (joined (prompt.pending ++ [line])) = false)
    {room' : Nat} {outputs : List String} {after : Scope}
    (run : Block.exec room' stmts prompt.session.scope = ⟨outputs, none, after⟩) :
    ∃ first second before behind middle, Loads room (joined (prompt.pending ++ [line])) first ∧
      Block.exec room' first prompt.session.scope = ⟨before, none, middle⟩ ∧
      (∀ (session : Session) (mark : String), session.diagnostics.hadError = false →
        Awaits room ⟨session, [], mark⟩ rest second) ∧
      Block.exec room' second middle = ⟨behind, none, after⟩ ∧ outputs = before ++ behind := by
  have lines : prompt.pending ++ line :: rest = (prompt.pending ++ [line]) ++ rest := by simp
  obtain ⟨loads, feedable, _, _⟩ := awaits
  rw [lines] at loads feedable
  obtain ⟨first, second, loads, loads', feedable', runs⟩ :=
    loads.split feedable (by simp) complete
  obtain ⟨before, middle, behind, run, run', same⟩ := runs _ _ _ _ run
  exact ⟨first, second, before, behind, middle, loads, run,
    fun session mark unnoted => ⟨loads', feedable', fun some => absurd rfl some, unnoted⟩, run',
    same⟩

theorem Awaits.completes {calls : Nat} {prompt : Prompt} {rest : List String} {stmts : List Stmt}
    (awaits : Awaits (calls - 2 - 1 - Session.readingCalls) prompt rest stmts)
    {outputs : List String} {after : Scope}
    (run : Block.exec (calls - 2 - 1 - Session.runningCalls) stmts prompt.session.scope =
      ⟨outputs, none, after⟩) :
    Completes (prompt.feedAll calls rest) outputs after := by
  induction rest generalizing prompt stmts outputs with
  | nil =>
      obtain ⟨between, rfl⟩ := awaits.nil
      obtain ⟨rfl, _, rfl⟩ := Execution.mk.inj run
      exact ⟨between, rfl, by simp [feedAll], rfl⟩
  | cons line rest ih =>
      have blank_quiet : IsQuiet ⟨some false, "", silent⟩ := ⟨by simp, rfl, rfl⟩
      have waiting_quiet : IsQuiet ⟨none, "", silent⟩ := ⟨by simp, rfl, rfl⟩
      by_cases blank : line = ""
      · subst blank
        have fed := prompt.feed_blank calls
        by_cases between : prompt.pending = []
        · -- a blank line between entries is an entry of its own, but nobody runs it
          have complete : needsContinuation (joined (prompt.pending ++ [""])) = false := by
            rw [between]
            rfl
          obtain ⟨first, second, before, behind, middle, loads, idle, awaits', run', rfl⟩ :=
            awaits.entry complete run
          have none : Sentence (tokensOf (joined [""])) [] := .nil
          rw [between] at loads fed
          obtain rfl := none.unique loads.sentence
          obtain ⟨rfl, _, rfl⟩ := Execution.mk.inj idle
          exact Completes.cons fed blank_quiet (ih (awaits' _ _ awaits.unnoted) run')
        · have opens := (needsContinuation_blank between).trans (awaits.opened between)
          rw [if_neg (by simpa using between)] at fed
          exact Completes.cons fed blank_quiet (ih (awaits.wait opens _) run)
      · have noEnd : line ≠ endLine := by
          rintro rfl
          exact awaits.feedable.noEnd (by simp)
        have noCommand : prompt.pending = [] → commandOf line ∉ ["help", "exit"] := by
          intro between command
          have feedable := awaits.feedable
          rw [between] at feedable
          exact absurd (feedable.commands [] line rest rfl command) (by decide +kernel)
        have enters : prompt.Enters line := ⟨blank, noEnd, noCommand⟩
        cases opens : needsContinuation (joined (prompt.pending ++ [line])) with
        | true =>
            have entered : prompt.enter (calls - 1) line = _ := enter_of_open opens
            have fed := (feed_of_enters enters).trans entered
            exact Completes.cons fed waiting_quiet (ih (awaits.wait opens _) run)
        | false =>
            obtain ⟨first, second, before, behind, middle, loads, start, awaits', run', rfl⟩ :=
              awaits.entry opens run
            have ran := Session.run_of_loads awaits.unnoted loads start
            have fed : prompt.feed calls line = _ := feed_of_complete enters opens
            rw [textWith, ran] at fed
            exact Completes.cons fed ⟨by simp, rfl, rfl⟩ (ih (awaits' _ _ rfl) run')

/-- A text that runs without a report even where two calls less may be opened does so line by line
as well: with the same outputs, the same bindings and nothing left over.  No line of it may be the
end of the input.  Where more words `kalo` than words `udahan` stand before, an if statement is
open; elsewhere no line may be a command and no string may have several lines. -/
theorem feedAll_runs_source (calls : Nat) (source : String)
    (silent : (Session.initial.run (calls - 2) source).2.reports = [])
    (noEnd : endLine ∉ linesOf source)
    (commands : ∀ index, (inside : index < (linesOf source).length) →
      commandOf (linesOf source)[index] ∈ ["help", "exit"] →
        needsContinuation (joined ((linesOf source).take index)) = true)
    (strings : ∀ index, (inside : index < (tokensOf source).length) →
      (tokensOf source)[index].kind = .string →
        '\n' ∈ (tokensOf source)[index].lexeme.toList →
          0 < surplus ((tokensOf source).take index)) :
    let whole := Session.initial.run calls source
    let fed := initial.feedAll calls (linesOf source)
    whole.2.reports = [] ∧
      (∀ reply ∈ fed.2,
        reply.stop ≠ some true ∧ reply.printed = "" ∧ reply.transcript.reports = []) ∧
      fed.2.flatMap (·.transcript.outputs) = whole.2.outputs ∧
      fed.1.session.scope = whole.1.scope ∧ fed.1.pending = [] ∧ fed.1.mark = "> " := by
  intro whole fed
  obtain ⟨stmts, outputs, after, loads, run⟩ := Session.loads_of_silent silent rfl
  have feedable : Feedable (linesOf source) := by
    refine ⟨noEnd, fun before line rest parts command => ?_,
      fun before string rest parts kind newline => ?_⟩
    · simpa [parts] using commands before.length (by simp [parts]) (by simpa [parts] using command)
    · rw [joined_linesOf] at parts
      simpa [parts] using strings before.length (by simp [parts]) (by simpa [parts] using kind)
        (by simpa [parts] using newline)
  have awaits : Awaits (calls - 2 - 1 - Session.readingCalls) initial (linesOf source) stmts := by
    refine ⟨?_, feedable, fun some => absurd rfl some, rfl⟩
    rw [← joined_linesOf source] at loads
    exact loads
  have completes := awaits.completes run
  have same : whole = Session.initial.run (calls - 2) source :=
    Session.initial.run_of_silent _ source (Nat.sub_le calls 2) rfl silent
  rw [same, Session.run_of_loads rfl loads run]
  exact ⟨rfl, completes.quiet, completes.outputs, completes.scope, completes.pending, by
    rw [(consistent_initial.feedAll calls (linesOf source)).mark, completes.pending]
    rfl⟩

theorem feedAll_runs_kalo :
    let source := "literally x itu ril\n\nkalo impossible\nhelp\nperhaps x\nspill \"a\nb\"\nudahan"
    (initial.feedAll 998 (linesOf source)).2.flatMap (·.transcript.outputs) =
      (Session.initial.run 998 source).2.outputs := by
  intro source
  obtain ⟨_, _, outputs, _⟩ := feedAll_runs_source 998 source (by decide +kernel)
    (by decide +kernel) (by decide +kernel) (by decide +kernel)
  exact outputs

/-- A number in as many parentheses as fit, behind some signs. -/
def barelyNested : List Char :=
  List.replicate 3 '-' ++ List.replicate 81 '(' ++ '1' :: List.replicate 81 ')'

theorem barelyNested_facts :
    let lexed := Lexed.ofChars barelyNested
    let parsed := Parsed.ofTokens 989 lexed.tokens
    '\n' ∉ barelyNested ∧ Text.trim barelyNested = barelyNested ∧ barelyNested.length = 166 ∧
      lexed.faults = [] ∧ parsed.faults = [] ∧
      (parsed.program.exec 993 (.global [])).failure = none ∧
      (Parsed.ofTokens 987 lexed.tokens).faults ≠ [] ∧
      ∀ token ∈ lexed.tokens.items, token.kind ≠ .string ∧ token.kind ≠ .kalo := by
  decide +kernel

/-- At the prompt a line is two calls farther down than a text that runs as a whole, and so it can
be too deep where the text is not. -/
theorem feedAll_tooDeep :
    let source := String.ofList barelyNested
    (Session.initial.run 998 source).2.reports = [] ∧ linesOf source = [source] ∧
      source ≠ endLine ∧ commandOf source ∉ ["help", "exit"] ∧
      (∀ token ∈ tokensOf source, token.kind ≠ .string) ∧
      ∃ reply ∈ (initial.feedAll 998 (linesOf source)).2, reply.transcript.reports ≠ [] := by
  intro source
  obtain ⟨oneLine, trimmed, long, lexical, syntactic, runs, tooDeep, kinds⟩ := barelyNested_facts
  have chars : source.toList = barelyNested := String.toList_ofList
  clear_value source
  rw [← chars] at oneLine trimmed long lexical syntactic runs tooDeep kinds
  have other (short : String) (shorter : short.length < 166) : source ≠ short := by
    rintro rfl
    rw [String.length_toList] at long
    omega
  have noCommand : commandOf source ∉ ["help", "exit"] := by
    rw [commandOf, trimmed, String.ofList_toList]
    simp [other "help" (by decide), other "exit" (by decide)]
  have lines := linesOf_of_oneLine oneLine
  have clean := (Session.initial.program_reports_eq_nil_iff 997 source).2 ⟨lexical, syntactic⟩
  refine ⟨?_, lines, other _ (by decide), noCommand, fun token mem => (kinds token mem).1, ?_⟩
  · rw [Session.initial.run_reports_of_clean 998 source rfl clean, Session.program_value]
    exact List.map_eq_nil_iff.2 (Option.toList_eq_nil_iff.2 runs)
  · have enters : initial.Enters source :=
      ⟨other _ (by decide), other _ (by decide), fun _ => noCommand⟩
    have ran : (initial.feed 998 source).2.transcript = (Session.initial.run 996 source).2 :=
      feed_alone rfl enters (needsContinuation_of_flat fun token mem => (kinds token mem).2)
    have reported := mt (Session.initial.program_reports_eq_nil_iff 995 source).1 fun clean =>
      tooDeep clean.2
    have noted := (Session.initial.hadError_program 995 source).2 (.inr reported)
    rw [Session.initial.run_of_hadError 996 source noted] at ran
    rw [lines, feedAll_singleton]
    exact ⟨_, List.mem_singleton_self _, by rwa [ran]⟩

end Prompt

end BilingualScript
