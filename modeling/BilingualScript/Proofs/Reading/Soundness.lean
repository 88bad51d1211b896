import BilingualScript.Proofs.Reading.Nesting

/-!
# What readers find is in the grammar

Where a reader finds something, with no fault that counts, it has read a phrase of the grammar, and
where only names are assigned to, the tree of that fits into the room.
-/

namespace BilingualScript.Reader

open Grammar

variable {allTargets : Bool}

/-! ## Expressions -/

/-- What a reader finds are phrases of a form, and they fit into some room. -/
def Yields (allTargets : Bool) (reader : Reader Expr) (form : Form) (room : Nat) : Prop :=
  ∀ tokens rest expr, Found allTargets reader tokens rest expr →
    Phrase allTargets form tokens rest expr ∧ (allTargets = false → expr.nesting ≤ room)

theorem yields_further {level : Chain} {operand : Reader Expr} {room : Nat}
    (orderly : Orderly operand) (yields : Yields allTargets operand level.operand room)
    {left : Expr} (fits : allTargets = false → left.nesting ≤ room) :
    Yields allTargets (further level.accepts operand left) (.further level left) room := by
  intro tokens rest expr found
  -- each operator and operand leave fewer tokens for those behind them
  induction size : tokens.length using Nat.strongRecOn generalizing tokens left with
  | ind length ih =>
      cases tokens with
      | nil =>
          obtain ⟨rfl, rfl⟩ := (found_iff_of_run (run_further_nil left)).1 found
          exact ⟨.last, fits⟩
      | cons token tokens =>
          have run := level.run_further_cons orderly left token tokens
          by_cases accepted : level.accepts token.kind = true
          · rw [if_pos accepted] at run
            rw [found_congr run, found_bind] at found
            obtain ⟨right, middle, first, second⟩ := found
            obtain ⟨phrase, fits'⟩ := yields _ _ _ first
            have both : allTargets = false → (Expr.binary left token right).nesting ≤ room :=
              fun strict => Nat.max_le.2 ⟨fits strict, fits' strict⟩
            have shorter : middle.length < length :=
              size ▸ Nat.lt_succ_of_le (first.suffix orderly).length_le
            obtain ⟨behind, deep⟩ := ih _ shorter both middle second rfl
            exact ⟨.further ((level.accepts_iff _).1 accepted) phrase behind, deep⟩
          · rw [if_neg accepted] at run
            obtain ⟨rfl, rfl⟩ := (found_iff_of_run run).1 found
            exact ⟨.last, fits⟩

theorem yields_chain (level : Chain) {operand : Reader Expr} {room : Nat}
    (orderly : Orderly operand) (yields : Yields allTargets operand level.operand room) :
    Yields allTargets (chain level.accepts operand) (.operands level) room := by
  intro tokens rest expr found
  rw [chain_eq, found_bind] at found
  obtain ⟨first, middle, found, behind⟩ := found
  obtain ⟨phrase, fits⟩ := yields _ _ _ found
  obtain ⟨phrase', fits'⟩ := yields_further orderly yields fits _ _ _ behind
  exact ⟨.operands phrase phrase', fits'⟩

theorem yields_operand {room : Nat}
    (yields : Yields allTargets (unary (primary expression) room) .unary room) :
    Yields allTargets (operand room) (.operands .equality) room := by
  have orderly := fun level : Chain => level.orderly_operandReader room
  have product := yields_chain .product (orderly .product) yields
  have sum := yields_chain .sum (orderly .sum) product
  have comparison := yields_chain .comparison (orderly .comparison) sum
  exact yields_chain .equality (orderly .equality) comparison

theorem yields_primary {room : Nat}
    (yields : ∀ tokens rest expr, Found allTargets (expression room) tokens rest expr →
      Phrase allTargets .assignment tokens rest expr ∧
        (allTargets = false → expr.nesting + expressionRoom ≤ room)) (pos : 0 < room) :
    Yields allTargets (primary expression room) .primary room := by
  intro tokens rest expr found
  cases tokens with
  | nil => exact absurd (found_accept?_bind_nil.1 found) not_found_fail
  | cons token tokens =>
      by_cases starts : startsPrimary token.kind = true
      · have found := (found_accept?_bind_of_wanted starts).1 found
        dsimp only at found
        split at found
        · next kind =>
          obtain ⟨rfl, rfl⟩ := found_pure.1 found
          exact ⟨.impossible kind, fun _ => pos⟩
        · next kind =>
          obtain ⟨rfl, rfl⟩ := found_pure.1 found
          exact ⟨.ril kind, fun _ => pos⟩
        · next kind =>
          obtain ⟨rfl, rfl⟩ := found_pure.1 found
          exact ⟨.hampa kind, fun _ => pos⟩
        · next kind =>
          obtain ⟨rfl, rfl⟩ := found_pure.1 found
          exact ⟨.name kind, fun _ => pos⟩
        · next kind =>
          obtain ⟨inner, middle, inside, behind⟩ := found_bind.1 found
          obtain ⟨closing, left, closes, pure⟩ := found_bind.1 behind
          obtain ⟨rfl, rfl⟩ := found_pure.1 pure
          obtain ⟨rfl, closing⟩ := found_expect.1 closes
          obtain ⟨phrase, fits⟩ := yields _ _ _ inside
          exact ⟨.grouping kind phrase closing, fits⟩
        · next noImpossible noRil noHampa noName noParen =>
          obtain ⟨rfl, rfl⟩ := found_pure.1 found
          have kind : token.kind = .number ∨ token.kind = .string := by
            simp only [startsPrimary, Bool.or_eq_true, beq_iff_eq] at starts
            grind
          exact ⟨.literal kind, fun _ => pos⟩
      · rw [Bool.not_eq_true] at starts
        exact absurd ((found_accept?_bind_of_unwanted starts).1 found) not_found_fail

theorem yields_unary {operand : Nat → Reader Expr} {room : Nat}
    (yields : ∀ less, 0 < less → less ≤ room → Yields allTargets (operand less) .primary less) :
    Yields allTargets (unary operand room) .unary room := by
  induction room with
  | zero =>
      intro tokens rest expr found
      obtain ⟨_, _, _, failed⟩ := found_bind.1 found
      exact absurd failed not_found_fail
  | succ room ih =>
      intro tokens rest expr found
      have operand := yields _ (Nat.succ_pos room) (Nat.le_refl _)
      cases tokens with
      | nil =>
          obtain ⟨phrase, fits⟩ := operand _ _ _ (found_accept?_bind_nil.1 found)
          exact ⟨.primary phrase, fits⟩
      | cons token tokens =>
          by_cases negation : isNegation token.kind = true
          · have found := (found_accept?_bind_of_wanted negation).1 found
            obtain ⟨inner, middle, inside, pure⟩ := found_bind.1 found
            obtain ⟨rfl, rfl⟩ := found_pure.1 pure
            obtain ⟨phrase, fits⟩ :=
              ih (fun less pos le => yields less pos (Nat.le_succ_of_le le)) _ _ _ inside
            exact ⟨.unary ((isNegation_iff _).1 negation) phrase,
              fun strict => Nat.succ_le_succ (fits strict)⟩
          · rw [Bool.not_eq_true] at negation
            obtain ⟨phrase, fits⟩ :=
              operand _ _ _ ((found_accept?_bind_of_unwanted negation).1 found)
            exact ⟨.primary phrase, fits⟩

theorem yields_assignment {operand : Nat → Reader Expr} {room : Nat}
    (yields : ∀ less ≤ room, Yields allTargets (operand less) (.operands .equality) less) :
    Yields allTargets (assignment operand room) .assignment room := by
  induction room with
  | zero =>
      intro tokens rest expr found
      obtain ⟨phrase, fits⟩ := yields 0 (Nat.le_refl 0) _ _ _ found
      exact ⟨.equality phrase, fits⟩
  | succ room ih =>
      intro tokens rest expr found
      obtain ⟨target, middle, found, behind⟩ := found_bind.1 found
      obtain ⟨phrase, fits⟩ := yields _ (Nat.le_refl _) _ _ _ found
      have behind := found_ahead_bind.1 behind
      cases middle with
      | nil =>
          have behind := found_accept?_bind_nil.1 behind
          obtain ⟨rfl, rfl⟩ := found_pure.1 behind
          exact ⟨.equality phrase, fits⟩
      | cons token middle =>
          by_cases itu : token.kind = .itu
          · have behind := (found_accept?_bind_of_wanted (by simp [itu])).1 behind
            obtain ⟨value, left, found, behind⟩ := found_bind.1 behind
            obtain ⟨phrase', fits'⟩ :=
              ih (fun less le => yields less (Nat.le_succ_of_le le)) _ _ _ found
            cases target with
            | reference name =>
                obtain ⟨rfl, rfl⟩ := found_pure.1 behind
                exact ⟨.assignment phrase itu phrase' (.inr ⟨name, rfl⟩),
                  fun strict => Nat.succ_le_succ (fits' strict)⟩
            | _ =>
                obtain ⟨_, _, reported, pure⟩ := found_bind.1 behind
                obtain ⟨all, _, rfl⟩ := found_report.1 reported
                obtain ⟨rfl, rfl⟩ := found_pure.1 pure
                exact ⟨.assignment phrase itu phrase' (.inl all), fits⟩
          · have unwanted : (fun kind => kind == Kind.itu) token.kind = false := by simp [itu]
            have behind := (found_accept?_bind_of_unwanted unwanted).1 behind
            obtain ⟨rfl, rfl⟩ := found_pure.1 behind
            exact ⟨.equality phrase, fits⟩

theorem yields_whole (room : Nat) :
    Yields allTargets (assignment operand room) .assignment room := by
  induction room using Nat.strongRecOn with
  | ind room ih =>
      have primaries : ∀ less, 0 < less → less ≤ room →
          Yields allTargets (primary expression less) .primary less := by
        intro less pos le
        refine yields_primary (fun tokens rest expr found => ?_) pos
        rw [expression_eq] at found
        split at found
        · exact absurd found not_found_fail
        · next enough =>
          have smaller : less - expressionRoom < room := by
            unfold expressionRoom at *
            omega
          obtain ⟨phrase, fits⟩ := ih _ smaller _ _ _ found
          exact ⟨phrase, fun strict => by have := fits strict; omega⟩
      exact yields_assignment fun less le =>
        yields_operand (yields_unary fun inner pos inner_le =>
          primaries inner pos (Nat.le_trans inner_le le))

theorem expression_yields {room : Nat} {tokens rest : List Token} {expr : Expr}
    (found : Found allTargets (expression room) tokens rest expr) :
    Phrase allTargets .assignment tokens rest expr ∧
      (allTargets = false → expr.nesting + expressionRoom ≤ room) := by
  rw [expression_eq] at found
  split at found
  · exact absurd found not_found_fail
  · next enough =>
    obtain ⟨phrase, fits⟩ := yields_whole _ _ _ _ found
    exact ⟨phrase, fun strict => by have := fits strict; omega⟩

/-! ## Blocks -/

def YieldsLines (allTargets : Bool) (tokens : List Token) : Prop :=
  ∀ room inBlock rest program, Found allTargets (lines room inBlock) tokens rest program →
    ∃ stmts, program = stmts.map some ∧ Lines allTargets tokens rest stmts ∧ Halts inBlock rest ∧
      (allTargets = false → Block.nesting stmts ≤ room)

variable {room : Nat} {tokens rest : List Token}

theorem block_yields {body : List Stmt}
    (inside : ∀ inner, inner.length < tokens.length → YieldsLines allTargets inner)
    (found : Found allTargets (block room) tokens rest body) :
    ∃ newline inner, tokens = newline :: inner ∧ newline.kind = .newline ∧
      Lines allTargets inner rest body ∧
      (allTargets = false → blockRoom ≤ room → Block.nesting body + blockRoom ≤ room) := by
  obtain ⟨newline, inner, opens, behind⟩ := found_bind.1 found
  obtain ⟨program, left, read, pure⟩ := found_bind.1 behind
  obtain ⟨rfl, rfl⟩ := found_pure.1 pure
  obtain ⟨rfl, kind⟩ := found_expect.1 opens
  obtain ⟨stmts, rfl, lines, _, fits⟩ := inside inner (Nat.lt_succ_self _) _ _ _ _ read
  have kept : (stmts.map some).filterMap id = stmts := by simp
  rw [kept]
  refine ⟨newline, inner, rfl, kind, lines, fun strict enough => ?_⟩
  have := fits strict
  omega

theorem branch_yields {α : Type} {value : α} {next : Expr → List Stmt → Reader α}
    (inside : ∀ inner, inner.length < tokens.length → YieldsLines allTargets inner)
    (found : Found allTargets
      (expression room >>= fun condition => block room >>= next condition) tokens rest value) :
    ∃ condition newline inner body behind,
      Phrase allTargets .assignment tokens (newline :: inner) condition ∧
      newline.kind = .newline ∧ Lines allTargets inner behind body ∧
      behind.length ≤ tokens.length ∧ Found allTargets (next condition body) behind rest value ∧
      (allTargets = false → condition.nesting + expressionRoom ≤ room ∧ blockRoom ≤ room ∧
        Block.nesting body + blockRoom ≤ room) := by
  obtain ⟨condition, middle, first, inside_found⟩ := found_bind.1 found
  obtain ⟨body, behind, second, behind_found⟩ := found_bind.1 inside_found
  have le := (first.suffix (orderly_expression room)).length_le
  have le' := (second.suffix (orderly_block room)).length_le
  obtain ⟨phrase, fits⟩ := expression_yields first
  obtain ⟨newline, inner, rfl, kind, lines, fits'⟩ :=
    block_yields (fun inner less => inside inner (by omega)) second
  refine ⟨condition, newline, inner, body, behind, phrase, kind, lines, Nat.le_trans le' le,
    behind_found, fun strict => ?_⟩
  have fits := fits strict
  have enough : blockRoom ≤ room := by
    unfold expressionRoom at fits
    unfold blockRoom
    omega
  exact ⟨fits, enough, fits' strict enough⟩

theorem branches_yield {otherwise : Otherwise}
    (inside : ∀ inner, inner.length < tokens.length → YieldsLines allTargets inner)
    (found : Found allTargets (branches room) tokens rest otherwise) :
    Branches allTargets tokens rest otherwise ∧
      (allTargets = false → blockRoom ≤ room → otherwise.nesting ≤ room) := by
  -- further branches stand in what the block of this one leaves
  induction size : tokens.length using Nat.strongRecOn generalizing tokens otherwise with
  | ind length ih =>
      cases tokens with
      | nil =>
          obtain ⟨rfl, rfl⟩ := (found_iff_of_run (run_branches_nil room)).1 found
          exact ⟨.nothing, fun _ _ => Nat.zero_le _⟩
      | cons token tokens =>
          have shorter := Nat.lt_succ_self tokens.length
          have run := run_branches_cons room token tokens
          split at run
          · next perhaps =>
            rw [found_congr run] at found
            obtain ⟨condition, _, inner, body, behind, phrase, kind, lines, le, found, fits⟩ :=
              branch_yields (fun inner less => inside inner (Nat.lt_succ_of_lt less)) found
            obtain ⟨others, left, third, pure⟩ := found_bind.1 found
            obtain ⟨rfl, rfl⟩ := found_pure.1 pure
            obtain ⟨others, fits'⟩ := ih behind.length (size ▸ Nat.lt_succ_of_le le)
              (fun inner less => inside inner (Nat.lt_trans less (Nat.lt_succ_of_le le))) third rfl
            refine ⟨.perhaps perhaps phrase kind lines others, fun strict enough => ?_⟩
            obtain ⟨condition_fits, _, body_fits⟩ := fits strict
            exact Nat.max_le.2 ⟨condition_fits, Nat.max_le.2 ⟨body_fits, fits' strict enough⟩⟩
          · split at run
            · next kalogak =>
              rw [found_congr run] at found
              obtain ⟨body, left, second, pure⟩ := found_bind.1 found
              obtain ⟨rfl, rfl⟩ := found_pure.1 pure
              obtain ⟨newline, inner, rfl, kind, lines, fits⟩ := block_yields
                (fun inner less => inside inner (Nat.lt_succ_of_lt less)) second
              exact ⟨.kalogak kalogak kind lines, fits⟩
            · obtain ⟨rfl, rfl⟩ := (found_iff_of_run run).1 found
              exact ⟨.nothing, fun _ _ => Nat.zero_le _⟩

theorem conditional_yields {word : Token} {stmt : Stmt} (kalo : word.kind = .kalo)
    (inside : ∀ inner, inner.length < tokens.length → YieldsLines allTargets inner)
    (found : Found allTargets (conditional room) tokens rest stmt) :
    Statement allTargets (word :: tokens) rest stmt ∧
      (allTargets = false → stmt.nesting ≤ room) := by
  obtain ⟨condition, newline, inner, body, behind, phrase, kind, lines, le, found, fits⟩ :=
    branch_yields inside found
  obtain ⟨otherwise, closing, third, found⟩ := found_bind.1 found
  obtain ⟨udahan, left, closes, found⟩ := found_bind.1 found
  obtain ⟨_, _, ends, pure⟩ := found_bind.1 found
  obtain ⟨rfl, rfl⟩ := found_pure.1 pure
  obtain ⟨rfl, udahan⟩ := found_expect.1 closes
  obtain ⟨others, fits'⟩ :=
    branches_yield (fun inner less => inside inner (Nat.lt_of_lt_of_le less le)) third
  refine ⟨.kalo kalo phrase kind lines others udahan (found_expectEnd.1 ends), fun strict => ?_⟩
  obtain ⟨condition_fits, enough, body_fits⟩ := fits strict
  exact Nat.max_le.2 ⟨condition_fits, Nat.max_le.2 ⟨body_fits, fits' strict enough⟩⟩

/-! ## Statements -/

theorem declaration_yields {word : Token} {stmt : Stmt} (literally : word.kind = .literally)
    (found : Found allTargets (declaration room) tokens rest stmt) :
    Statement allTargets (word :: tokens) rest stmt ∧
      (allTargets = false → stmt.nesting ≤ room) := by
  obtain ⟨name, left, named, behind⟩ := found_bind.1 found
  obtain ⟨rfl, kind⟩ := found_expect.1 named
  have bare : Found allTargets (expectEnd .expectEndOfDeclaration >>= fun _ =>
        pure (.declare name none)) left rest stmt →
      Statement allTargets (word :: name :: left) rest stmt ∧
        (allTargets = false → stmt.nesting ≤ room) := by
    intro behind
    obtain ⟨_, _, ends, pure⟩ := found_bind.1 behind
    obtain ⟨rfl, rfl⟩ := found_pure.1 pure
    exact ⟨.declare literally kind (found_expectEnd.1 ends), fun _ => Nat.zero_le _⟩
  cases left with
  | nil => exact bare (found_accept?_bind_nil.1 behind)
  | cons token left =>
      by_cases itu : token.kind = .itu
      · have behind := (found_accept?_bind_of_wanted (by simp [itu])).1 behind
        obtain ⟨initial, middle, initially, behind⟩ := found_bind.1 behind
        obtain ⟨_, _, ends, pure⟩ := found_bind.1 behind
        obtain ⟨rfl, rfl⟩ := found_pure.1 pure
        obtain ⟨value, read, rfl⟩ := found_map.1 initially
        obtain ⟨phrase, fits⟩ := expression_yields read
        exact ⟨.declareAs literally kind itu phrase (found_expectEnd.1 ends),
          fun strict => Nat.sub_le_of_le_add (fits strict)⟩
      · have unwanted : (fun kind => kind == Kind.itu) token.kind = false := by simp [itu]
        exact bare ((found_accept?_bind_of_unwanted unwanted).1 behind)

theorem spill_yields {word : Token} {stmt : Stmt} (spills : word.kind = .spill)
    (found : Found allTargets (spill room) tokens rest stmt) :
    Statement allTargets (word :: tokens) rest stmt ∧
      (allTargets = false → stmt.nesting ≤ room) := by
  obtain ⟨value, middle, first, found⟩ := found_bind.1 found
  obtain ⟨_, _, ends, pure⟩ := found_bind.1 found
  obtain ⟨rfl, rfl⟩ := found_pure.1 pure
  obtain ⟨phrase, fits⟩ := expression_yields first
  exact ⟨.spill spills phrase (found_expectEnd.1 ends), fits⟩

theorem expressionStatement_yields {stmt : Stmt}
    (found : Found allTargets (expressionStatement room) tokens rest stmt) :
    Statement allTargets tokens rest stmt ∧ (allTargets = false → stmt.nesting ≤ room) := by
  obtain ⟨value, middle, first, found⟩ := found_bind.1 found
  obtain ⟨_, _, ends, pure⟩ := found_bind.1 found
  obtain ⟨rfl, rfl⟩ := found_pure.1 pure
  obtain ⟨phrase, fits⟩ := expression_yields first
  exact ⟨.expression phrase (found_expectEnd.1 ends), fits⟩

theorem statement_yields {stmt : Stmt}
    (inside : ∀ inner, inner.length < tokens.length → YieldsLines allTargets inner)
    (found : Found allTargets (anyStatement room) tokens rest stmt) :
    Statement allTargets tokens rest stmt ∧ (allTargets = false → stmt.nesting ≤ room) := by
  cases tokens with
  | nil => exact expressionStatement_yields (found_accept?_bind_nil.1 found)
  | cons token tokens =>
      by_cases literally : token.kind = .literally
      · have found := (found_accept?_bind_of_wanted (by simp [literally])).1 found
        simp only [literally] at found
        exact declaration_yields literally found
      by_cases kalo : token.kind = .kalo
      · have found := (found_accept?_bind_of_wanted (by simp [kalo])).1 found
        simp only [kalo] at found
        exact conditional_yields kalo
          (fun inner less => inside inner (Nat.lt_succ_of_lt less)) found
      by_cases spills : token.kind = .spill
      · have found := (found_accept?_bind_of_wanted (by simp [spills])).1 found
        simp only [spills] at found
        exact spill_yields spills found
      have unwanted : ((fun kind => kind == Kind.literally || kind == .kalo || kind == .spill)
          token.kind) = false := by simp [literally, kalo, spills]
      exact expressionStatement_yields ((found_accept?_bind_of_unwanted unwanted).1 found)

theorem yieldsLines (tokens : List Token) : YieldsLines allTargets tokens := by
  induction size : tokens.length using Nat.strongRecOn generalizing tokens with
  | ind length ih =>
      intro room inBlock rest program found
      cases tokens with
      | nil =>
          obtain ⟨rfl, rfl⟩ := (found_iff_of_run (run_lines_nil room inBlock)).1 found
          exact ⟨[], rfl, .nil, by simp [Halts], fun _ => Nat.zero_le _⟩
      | cons token tokens =>
          have inside : ∀ inner, inner.length < (token :: tokens).length →
              YieldsLines allTargets inner := fun inner less => ih _ (size ▸ less) inner rfl
          have run := run_lines_cons room inBlock token tokens
          split at run
          · next newline =>
            obtain ⟨stmts, same, lines, halts, fits⟩ :=
              inside tokens (Nat.lt_succ_self _) _ _ _ _ ((found_congr run).1 found)
            exact ⟨stmts, same, .blank newline lines, halts, fits⟩
          · split at run
            · next ends =>
              obtain ⟨rfl, rfl⟩ := (found_iff_of_run run).1 found
              refine ⟨[], rfl, .nil, ?_, fun _ => Nat.zero_le _⟩
              simpa [Halts] using ends
            · obtain ⟨stmt?, middle, first, found⟩ := found_bind.1 ((found_congr run).1 found)
              obtain ⟨behind, left, second, pure⟩ := found_bind.1 found
              obtain ⟨rfl, rfl⟩ := found_pure.1 pure
              obtain ⟨stmt, rfl, read⟩ := (found_recovering (orderly_anyStatement room)).1 first
              obtain ⟨statement, fits⟩ := statement_yields inside read
              obtain ⟨stmts, rfl, lines, halts, fits'⟩ := inside middle
                (read.length_lt (consumes_anyStatement room)) _ _ _ _ second
              exact ⟨stmt :: stmts, rfl, .cons statement lines, halts,
                fun strict => Nat.max_le.2 ⟨fits strict, fits' strict⟩⟩

end BilingualScript.Reader
