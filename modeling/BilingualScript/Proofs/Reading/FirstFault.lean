import Mathlib.Data.List.Find
import BilingualScript.Proofs.Reading.Conditions
import BilingualScript.Proofs.Reading.Viability
import BilingualScript.Token.Lexing

/-!
# The first fault

Reading is stuck for the first time at the very token that no program has there.
-/

namespace BilingualScript

namespace Reader

open Grammar

variable {β γ : Type} {room : Nat} {tokens : List Token}

/-! ## Statements -/

theorem end_newline (rest : List Token) : End (Kind.newline.sample :: rest) rest := .newline rfl

theorem underwayAt_ended_expression {cause : SyntaxCause}
    {phrase : List Token → List Token → Stmt → Prop} (f : Expr → Stmt)
    (step : ∀ tokens middle rest value, Phrase true .assignment tokens middle value →
      End middle rest → phrase tokens rest (f value)) :
    UnderwayAt (expression room >>= fun value => expectEnd cause >>= fun _ => pure (f value))
      phrase tokens := by
  refine underwayAt_expression_bind f [Kind.newline.sample]
    (fun _ _ _ phrase => step _ _ _ _ phrase (end_newline _)) fun value front middle _ framed => ?_
  refine .bind_pure (underwayAt_expectEnd ⟨[Kind.newline.sample], f value, fun rest => ?_⟩) _
  exact step _ _ _ _ (framed _) (end_newline rest)

theorem underway_declaration {word : Token} (kind : word.kind = .literally) :
    UnderwayAt (declaration room) (fun others => Statement true (word :: others)) tokens := by
  refine .bind (underwayAt_expect ?_) fun name middle found => ?_
  · exact ⟨[Kind.identifier.sample, Kind.newline.sample], _, fun rest =>
      .declare kind rfl (end_newline rest)⟩
  obtain ⟨rfl, named⟩ := found_expect.1 found
  refine ⟨[name], rfl, underwayAt_accept?_bind (fun _ => ?_) fun itu rest _ wanted => ?_⟩
  · refine .bind_pure (underwayAt_expectEnd
      ⟨[Kind.newline.sample], .declare name none, fun rest => ?_⟩) _
    exact .declare kind named (end_newline rest)
  · have itu_kind : itu.kind = .itu := by simpa using wanted
    refine .bind ?_ fun value middle found => ?_
    · refine fun fault stuck => ?_
      refine ((underway_expression _ rest).map (.declare name ∘ some)
        [Kind.newline.sample] fun _ _ _ phrase => ?_) fault (stuck_map.1 stuck)
      exact .declareAs kind named itu_kind phrase (end_newline _)
    · obtain ⟨value, read, rfl⟩ := found_map.1 found
      obtain ⟨front, rfl, _, framed⟩ := (expression_yields read).1.frame
      refine ⟨front, rfl, .bind_pure (underwayAt_expectEnd ?_) _⟩
      exact ⟨[Kind.newline.sample], _, fun rest =>
        .declareAs kind named itu_kind (framed _) (end_newline rest)⟩

def UnderwayLines (tokens : List Token) : Prop :=
  ∀ room inBlock, UnderwayAt (lines room inBlock) (Lines true) tokens

def Enclosed (tokens rest : List Token) (body : List Stmt) : Prop :=
  ∃ newline inner, tokens = newline :: inner ∧ newline.kind = .newline ∧
    Lines true inner rest body

theorem underway_block (inside : ∀ inner, inner.length < tokens.length → UnderwayLines inner) :
    UnderwayAt (block room) Enclosed tokens := by
  refine .bind (underwayAt_expect ⟨[Kind.newline.sample], [], fun rest => ?_⟩)
    fun newline inner found => ?_
  · exact ⟨_, _, rfl, rfl, .nil⟩
  · obtain ⟨rfl, kind⟩ := found_expect.1 found
    refine ⟨[newline], rfl, .bind_pure ((inside inner (Nat.lt_succ_self _) _ true).mono ?_) _⟩
    exact fun _ _ _ lines => ⟨newline, _, rfl, kind, lines⟩

section Conditions

variable {phrase : List Token → List Token → β → Prop}
  {next : Expr → List Stmt → Otherwise → Reader γ}

theorem underwayAt_conditional (f : Expr × List Stmt × Otherwise → β) (closing : List Token)
    (inside : ∀ inner, inner.length < tokens.length → UnderwayLines inner)
    (others : ∀ behind, behind.length < tokens.length →
      UnderwayAt (branches room) (Branches true) behind)
    (step : ∀ tokens rest parts, Conditional tokens (closing ++ rest) parts →
      phrase tokens rest (f parts))
    (after : ∀ condition body otherwise front middle, tokens = front ++ middle →
      Conditional tokens middle (condition, body, otherwise) →
        UnderwayAt (next condition body otherwise) (fun others => phrase (front ++ others))
          middle) :
    UnderwayAt (expression room >>= fun condition => block room >>= fun body =>
      branches room >>= next condition body) phrase tokens := by
  refine underwayAt_expression_bind (fun condition => f (condition, [], .nothing))
    (Kind.newline.sample :: closing) (fun _ _ _ phrase => step _ _ _ ?_)
    fun condition front middle same framed => ?_
  · exact ⟨_, _, _, phrase, rfl, .nil, .nothing⟩
  have le : middle.length ≤ tokens.length := by simp [same]
  have inside' := fun inner (less : inner.length < middle.length) =>
    inside inner (Nat.lt_of_lt_of_le less le)
  refine .bind ((underway_block inside').map (fun body => f (condition, body, .nothing)) closing
    fun _ _ _ enclosed => ?_) fun body left found => ?_
  · obtain ⟨newline, inner, rfl, kind, lines⟩ := enclosed
    exact step _ _ _ ⟨newline, inner, _, framed _, kind, lines, .nothing⟩
  obtain ⟨newline, inner, rfl, kind, lines, _⟩ := block_yields (fun _ _ => yieldsLines _) found
  -- what the block leaves is framed unless the text ends there
  obtain ⟨start, parts, opens⟩ : ∃ start, newline :: inner = start ++ left ∧
      (left ≠ [] → ∀ tokens rest otherwise, Branches true tokens rest otherwise →
        Conditional (front ++ (start ++ tokens)) rest (condition, body, otherwise)) := by
    by_cases ended : left = []
    · exact ⟨newline :: inner, by simp [ended], absurd ended⟩
    · obtain ⟨start, rfl, _, lines_framed⟩ := lines.frame ended
      exact ⟨newline :: start, rfl, fun _ _ _ _ branches =>
        ⟨newline, _, _, framed _, kind, lines_framed _, branches⟩⟩
  refine ⟨start, parts, .bind ?_ fun otherwise behind found => ?_⟩
  · cases left with
    | nil => exact underwayAt_of_found (found_of_run (run_branches_nil room))
    | cons token left =>
        have shorter : (token :: left).length < tokens.length := by
          have le' := lines.suffix.length_le
          rw [List.length_cons] at le
          omega
        exact (others _ shorter).map (fun otherwise => f (condition, body, otherwise)) closing
          fun _ _ _ branches => step _ _ _ (opens (List.cons_ne_nil _ _) _ _ _ branches)
  · have branches := (branches_yield (fun _ _ => yieldsLines _) found).1
    obtain ⟨between, rfl⟩ := branches.suffix
    refine ⟨between, rfl, ?_⟩
    have whole := after condition body otherwise (front ++ (start ++ between)) behind
      (by simp [same, parts]) ⟨newline, inner, _, same ▸ framed _, kind, lines, branches⟩
    simpa using whole

end Conditions

theorem underway_branches (inside : ∀ inner, inner.length < tokens.length → UnderwayLines inner) :
    UnderwayAt (branches room) (Branches true) tokens := by
  -- further branches stand in what the block of this one leaves
  induction size : tokens.length using Nat.strongRecOn generalizing tokens with
  | ind length ih =>
      cases tokens with
      | nil => exact underwayAt_of_found (found_of_run (run_branches_nil room))
      | cons token tokens =>
          have inside' := fun inner (less : inner.length < tokens.length) =>
            inside inner (Nat.lt_succ_of_lt less)
          have run := run_branches_cons room token tokens
          split at run
          · next perhaps =>
            refine .of_run [token] (fun _ => (stuck_congr run).1) ?_
            refine underwayAt_conditional (fun parts => .perhaps parts.1 parts.2.1 parts.2.2) []
              inside' (fun behind less => ?_) (fun _ _ _ conditional => ?_)
              fun _ _ _ _ _ _ _ => underwayAt_pure _
            · exact ih behind.length (size ▸ Nat.lt_succ_of_lt less)
                (fun inner less' => inside' inner (Nat.lt_trans less' less)) rfl
            · obtain ⟨newline, inner, behind, phrase, kind, body, others⟩ := conditional
              exact .perhaps perhaps phrase kind body others
          · split at run
            · next kalogak =>
              refine .of_run [token] (fun _ => (stuck_congr run).1) (.bind_pure ?_ _)
              refine (underway_block inside').map .kalogak [] fun _ _ _ enclosed => ?_
              obtain ⟨newline, inner, rfl, kind, lines⟩ := enclosed
              exact .kalogak kalogak kind lines
            · exact underwayAt_of_found (found_of_run run)

theorem underway_conditional {word : Token} (kalo : word.kind = .kalo)
    (inside : ∀ inner, inner.length < tokens.length → UnderwayLines inner) :
    UnderwayAt (conditional room) (fun others => Statement true (word :: others)) tokens := by
  refine underwayAt_conditional (fun parts => .kalo parts.1 parts.2.1 parts.2.2)
    [Kind.udahan.sample, Kind.newline.sample] inside (fun behind less => ?_)
    (fun _ _ _ conditional => conditional.statement kalo rfl (end_newline _))
    fun condition body otherwise front middle same conditional => ?_
  · exact underway_branches fun inner less' => inside inner (Nat.lt_trans less' less)
  refine .bind (underwayAt_expect ?_) fun udahan closing found => ?_
  · obtain ⟨front', same', framed⟩ := conditional.frame_newline
    obtain rfl := List.append_cancel_right (same.symm.trans same')
    refine ⟨[Kind.newline.sample, Kind.udahan.sample, Kind.newline.sample],
      .kalo condition body otherwise, fun rest => ?_⟩
    exact (framed Kind.newline.sample _ rfl).statement kalo rfl (end_newline rest)
  · obtain ⟨rfl, kind⟩ := found_expect.1 found
    obtain ⟨front', same', framed⟩ := conditional.frame (List.cons_ne_nil _ _)
    obtain rfl := List.append_cancel_right (same.symm.trans same')
    refine ⟨[udahan], rfl, .bind_pure (underwayAt_expectEnd ?_) _⟩
    exact ⟨[Kind.newline.sample], _, fun rest => (framed _).statement kalo kind (end_newline rest)⟩

theorem underway_anyStatement
    (inside : ∀ inner, inner.length < tokens.length → UnderwayLines inner) :
    UnderwayAt (anyStatement room) (Statement true) tokens := by
  refine underwayAt_accept?_bind (fun _ => ?_) fun word rest same wanted => ?_
  · exact underwayAt_ended_expression .expression fun _ _ _ _ => .expression
  · subst same
    dsimp only
    split
    · next literally => exact underway_declaration literally
    · next kalo =>
      exact underway_conditional kalo fun inner less => inside inner (Nat.lt_succ_of_lt less)
    · next noLiterally noKalo =>
      simp only [Bool.or_eq_true, beq_iff_eq] at wanted
      have spills : word.kind = .spill := wanted.resolve_left (·.elim noLiterally noKalo)
      exact underwayAt_ended_expression .spill fun _ _ _ _ => .spill spills

theorem underwayLines (tokens : List Token) : UnderwayLines tokens := by
  induction size : tokens.length using Nat.strongRecOn generalizing tokens with
  | ind length ih =>
      intro room inBlock
      cases tokens with
      | nil => exact underwayAt_of_found (found_of_run (run_lines_nil room inBlock))
      | cons token tokens =>
          have inside : ∀ inner, inner.length < (token :: tokens).length → UnderwayLines inner :=
            fun inner less => ih _ (size ▸ less) inner rfl
          have run := run_lines_cons room inBlock token tokens
          split at run
          · next newline =>
            refine .of_run [token] (fun _ => (stuck_congr run).1) ?_
            exact (inside tokens (Nat.lt_succ_self _) room inBlock).mono fun _ _ _ => .blank newline
          · split at run
            · exact underwayAt_of_found (found_of_run run)
            · refine .of_run [] (fun _ => (stuck_congr run).1) ?_
              refine .bind ?_ fun stmt? middle found => ?_
              · have under : UnderwayAt (anyStatement room) (Statement true) (token :: tokens) :=
                  underway_anyStatement inside
                have under' := under.map (fun stmt => [stmt]) [] fun _ _ _ statement =>
                  Lines.cons statement .nil
                exact fun fault stuck => under' fault (stuck_recovering.1 stuck)
              · obtain ⟨stmt, rfl, read⟩ := (found_recovering (orderly_anyStatement room)).1 found
                have statement := (statement_yields (fun _ _ => yieldsLines _) read).1
                obtain ⟨front, ending, same, ends, framed⟩ := statement.frame
                cases ends with
                | stop =>
                    refine ⟨front, same, .bind_pure ?_ _⟩
                    exact underwayAt_of_found (found_of_run (run_lines_nil room inBlock))
                | @newline newline _ kind =>
                    have shorter := read.length_lt (consumes_anyStatement room)
                    refine ⟨front ++ [newline], by simp [same], .bind_pure ?_ _⟩
                    refine (inside middle shorter room inBlock).map (List.cons stmt) []
                      fun _ _ _ lines => .cons ?_ lines
                    simpa using framed.framed _ _ (.newline kind)

/-- Where a program is stuck for another reason than want of room, no program goes on with the
token found there. -/
theorem Stuck.not_lines {fault : SyntaxFault}
    (stuck : Stuck (lines room false) tokens fault) (shallow : fault.cause ≠ .tooDeep)
    (stmts : List Stmt) : ¬Lines true tokens [] stmts := by
  intro sentence
  rcases Lines.reaches sentence (halts_nil false) room with found | ⟨⟨_, sunk, deep⟩, _⟩
  · exact found.not_stuck stuck
  · obtain rfl := Option.some.inj (stuck.symm.trans sunk)
    exact shallow deep

end Reader

open Reader Grammar

/-! ## Programs -/

/-- The cause of a fault that says what was expected. -/
def SyntaxCause.IsStructural (cause : SyntaxCause) : Prop :=
  "Expect ".toList <+: cause.message.toList

instance (cause : SyntaxCause) : Decidable cause.IsStructural :=
  inferInstanceAs (Decidable (_ <+: _))

theorem SyntaxCause.isStructural_iff (cause : SyntaxCause) :
    cause.IsStructural ↔ cause ≠ .invalidTarget ∧ cause ≠ .tooDeep := by
  cases cause <;> decide +kernel

/-- Tokens up to an end mark make up a program in which any equality may be assigned to. -/
def Tokens.IsProgram (tokens : Tokens) : Prop :=
  tokens.stop.kind = .eof ∧ ∃ stmts, Lines true tokens.items [] stmts

/-- Some program starts with these tokens. -/
def Viable (front : List Token) : Prop :=
  ∃ tokens : Tokens, tokens.IsProgram ∧ front <+: tokens.toList

theorem Grammar.Opens.viable {front : List Token} (opens : Opens (Lines true) front) :
    Viable front := by
  obtain ⟨more, stmts, lines⟩ := opens
  refine ⟨⟨front ++ (more ++ []), Kind.eof.sample⟩, ⟨rfl, stmts, lines []⟩, ?_⟩
  exact (List.prefix_append _ _).trans (List.prefix_append _ _)

theorem Viable.cases {front : List Token} {token : Token} (viable : Viable (front ++ [token])) :
    (token.kind = .eof ∧ ∃ stmts, Lines true front [] stmts) ∨
      token.kind ≠ .eof ∧ ∃ more stmts, Lines true (front ++ token :: more) [] stmts := by
  obtain ⟨⟨items, stop⟩, ⟨mark, stmts, lines⟩, starts⟩ := viable
  rcases List.prefix_concat_iff.1 starts with whole | ⟨more, rfl⟩
  · obtain ⟨rfl, last⟩ := List.append_inj' whole rfl
    obtain rfl := List.singleton_inj.1 last
    exact .inl ⟨mark, stmts, lines⟩
  · have parts : front ++ [token] ++ more = front ++ token :: more := by simp
    have item : token ∈ front ++ [token] ++ more := by simp
    refine .inr ⟨fun mark => ?_, more, stmts, parts ▸ lines⟩
    cases lines.unmarked token item mark

theorem Parsed.lines_of_never_stuck {room : Nat} {items : List Token}
    (never : ((lines room false).run items).faults.find? (·.cause != .invalidTarget) =
      none) : ∃ stmts, Lines true items [] stmts := by
  obtain ⟨program, rest, faults, run⟩ :=
    statements_found room false (items.length + 1) items
  rw [← run_lines] at run
  rw [run] at never
  obtain ⟨stmts, _, lines, halts, _⟩ :=
    yieldsLines _ _ _ _ _ ⟨faults, run, tolerated_of_find?_eq_none never⟩
  exact ⟨stmts, Halts.eq_nil halts ▸ lines⟩

theorem Parsed.find?_isStructural {faults : List SyntaxFault}
    (shallow : ∀ fault ∈ faults, fault.cause ≠ .tooDeep) :
    (faults.find? fun fault => fault.cause.IsStructural) =
      faults.find? (·.cause != .invalidTarget) :=
  List.find?_congr fun fault mem => by
    simp [fault.cause.isStructural_iff, shallow fault mem, bne, beq_eq_decide]

/-- The first structural fault of a token list that ends in its only end mark and does not nest too
deep is at the very token where the list stops being the start of a program, and without such a
fault the list is a program. -/
theorem Parsed.first_structural_fault (room : Nat) (tokens : Tokens) (ends : tokens.stop.kind = .eof)
    (only : ∀ token ∈ tokens.items, token.kind ≠ .eof)
    (shallow : ∀ fault ∈ (ofTokens room tokens).faults, fault.cause ≠ .tooDeep) :
    (∀ fault,
      (ofTokens room tokens).faults.find? (fun fault => fault.cause.IsStructural) = some fault →
      ∃ index ≤ tokens.items.length, fault.rest = tokens.items.drop index ∧
        tokens.toList[index]? = some (fault.token tokens.stop) ∧
        Viable (tokens.toList.take index) ∧ ¬Viable (tokens.toList.take (index + 1))) ∧
    ((ofTokens room tokens).faults.find? (fun fault => fault.cause.IsStructural) = none →
      tokens.IsProgram) := by
  rw [find?_isStructural shallow]
  rw [ofTokens_eq] at shallow ⊢
  obtain ⟨items, stop⟩ := tokens
  constructor
  · intro fault stuck
    have stuck : Stuck (lines room false) items fault := stuck
    have room := shallow fault stuck.mem
    obtain ⟨front, same, opens⟩ := underwayLines items _ _ fault stuck room
    obtain ⟨cause, rest⟩ := fault
    obtain rfl : items = front ++ rest := same
    refine ⟨front.length, by simp, by simp, ?_⟩
    cases rest with
    | nil =>
        simp only [Tokens.toList, List.append_nil] at stuck ⊢
        refine ⟨by simp [SyntaxFault.token], by simpa using opens.viable, fun viable => ?_⟩
        rw [List.take_length_add_append] at viable
        obtain ⟨_, stmts, sentence⟩ | ⟨mark, _⟩ := viable.cases
        · exact stuck.not_lines room stmts sentence
        · exact mark ends
    | cons token rest =>
        have item : token.kind ≠ .eof := only token (by simp)
        simp only [Tokens.toList, List.append_assoc, List.cons_append]
        refine ⟨by simp [SyntaxFault.token], by simpa using opens.viable, fun viable => ?_⟩
        rw [List.take_length_add_append] at viable
        obtain ⟨mark, _⟩ | ⟨_, more, stmts, sentence⟩ := viable.cases
        · exact item mark
        · exact (stuck_lines stuck more).not_lines room stmts sentence
  · exact fun clean => ⟨ends, lines_of_never_stuck clean⟩

theorem Parsed.first_structural_fault_of_spill :
    let tokens := (Lexed.ofText "kalo 1 itu 2\nspill )\nudahan").tokens
    (tokens.stop.kind = .eof ∧ (∀ token ∈ tokens.items, token.kind ≠ .eof) ∧
      ∀ fault ∈ (ofTokens 989 tokens).faults, fault.cause ≠ .tooDeep) ∧
    (ofTokens 989 tokens).faults =
      [⟨.invalidTarget, tokens.items.drop 2⟩, ⟨.expectExpression, tokens.items.drop 6⟩] ∧
    Viable (tokens.toList.take 6) ∧ ¬Viable (tokens.toList.take 7) := by
  intro tokens
  have only : ∀ token ∈ tokens.items, token.kind ≠ .eof := by decide +kernel
  have faults : (ofTokens 989 tokens).faults =
      [⟨.invalidTarget, tokens.items.drop 2⟩, ⟨.expectExpression, tokens.items.drop 6⟩] := by
    decide +kernel
  have shallow : ∀ fault ∈ (ofTokens 989 tokens).faults, fault.cause ≠ .tooDeep := by
    simp [faults]
  have first : (ofTokens 989 tokens).faults.find? (fun fault => fault.cause.IsStructural) =
      some ⟨.expectExpression, tokens.items.drop 6⟩ := by
    rw [faults]
    decide +kernel
  obtain ⟨index, le, rest, _, viable, dead⟩ :=
    (first_structural_fault 989 tokens rfl only shallow).1 _ first
  have length : tokens.items.length = 9 := by decide +kernel
  obtain rfl : 6 = index := by
    have := congrArg List.length rest
    simp only [List.length_drop] at this
    omega
  exact ⟨⟨rfl, only, shallow⟩, faults, viable, dead⟩

end BilingualScript
