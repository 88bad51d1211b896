import BilingualScript.Reading.Statement

/-!
# What readers take and leave

A reader takes tokens off the front only, and one that has found an expression or a statement
has taken at least one.  So the bounds on repetition and on nesting of blocks that readers carry
along are never reached.
-/

namespace BilingualScript.Reader

variable {α β : Type}

/-! ## Running binds -/

theorem run_bind_of_found {reader : Reader α} {tokens rest : List Token} {value : α}
    {faults : List SyntaxFault} (found : reader.run tokens = ⟨some value, rest, faults⟩)
    (next : α → Reader β) :
    (reader >>= next).run tokens =
      { (next value).run rest with faults := faults ++ ((next value).run rest).faults } := by
  rw [run_bind, found]

theorem run_bind_of_failed {reader : Reader α} {tokens rest : List Token}
    {faults : List SyntaxFault} (failed : reader.run tokens = ⟨none, rest, faults⟩)
    (next : α → Reader β) : (reader >>= next).run tokens = ⟨none, rest, faults⟩ := by
  rw [run_bind, failed]

@[simp] theorem run_ahead_bind (next : List Token → Reader α) (tokens : List Token) :
    (ahead >>= next).run tokens = (next tokens).run tokens := by
  simp [run_bind]

@[simp] theorem run_accept?_bind_nil (wanted : Kind → Bool) (next : Option Token → Reader α) :
    (accept? wanted >>= next).run [] = (next none).run [] := by
  simp [run_bind]

theorem run_accept?_bind_cons (wanted : Kind → Bool) (next : Option Token → Reader α)
    (token : Token) (rest : List Token) :
    (accept? wanted >>= next).run (token :: rest) =
      if wanted token.kind then (next (some token)).run rest
      else (next none).run (token :: rest) := by
  by_cases fits : wanted token.kind = true <;> simp [run_bind, fits]

@[simp] theorem run_expect_nil (kind : Kind) (cause : SyntaxCause) :
    (expect kind cause).run [] = ⟨none, [], [⟨cause, []⟩]⟩ := by
  simp [expect]

@[simp] theorem run_expect_cons (kind : Kind) (cause : SyntaxCause) (token : Token)
    (rest : List Token) :
    (expect kind cause).run (token :: rest) =
      if token.kind = kind then ⟨some token, rest, []⟩
      else ⟨none, token :: rest, [⟨cause, token :: rest⟩]⟩ := by
  by_cases fits : token.kind = kind <;> simp [expect, run_accept?_bind_cons, fits]

@[simp] theorem run_expectEnd_nil (cause : SyntaxCause) :
    (expectEnd cause).run [] = ⟨some (), [], []⟩ := by
  simp [expectEnd]

@[simp] theorem run_expectEnd_cons (cause : SyntaxCause) (token : Token) (rest : List Token) :
    (expectEnd cause).run (token :: rest) =
      if token.kind = .newline then ⟨some (), rest, []⟩
      else ⟨none, token :: rest, [⟨cause, token :: rest⟩]⟩ := by
  by_cases newline : token.kind = .newline <;> simp [expectEnd, run_bind, newline]

theorem run_recovering (reader : Reader α) (tokens : List Token) :
    (recovering reader).run tokens =
      match (reader.run tokens).found with
      | some value => ⟨some (some value), (reader.run tokens).rest, (reader.run tokens).faults⟩
      | none => ⟨some none, resumed (reader.run tokens).rest, (reader.run tokens).faults⟩ := rfl

theorem run_recovering_found (reader : Reader α) (tokens : List Token) :
    ∃ value? rest faults, (recovering reader).run tokens = ⟨some value?, rest, faults⟩ := by
  rw [run_recovering]
  split
  · exact ⟨_, _, _, rfl⟩
  · exact ⟨_, _, _, rfl⟩

/-- A reader that leaves a suffix of what it is given and that, where it finds nothing, has a
fault to report which is not just an invalid target. -/
structure Orderly (reader : Reader α) : Prop where
  suffix : ∀ tokens, (reader.run tokens).rest <:+ tokens
  complains : ∀ tokens, (reader.run tokens).found = none →
    ∃ fault ∈ (reader.run tokens).faults, fault.cause ≠ .invalidTarget

theorem Orderly.length_le {reader : Reader α} (orderly : Orderly reader) (tokens : List Token) :
    (reader.run tokens).rest.length ≤ tokens.length :=
  (orderly.suffix tokens).length_le

theorem orderly_pure (value : α) : Orderly (pure value) where
  suffix _ := List.suffix_rfl
  complains _ failed := by cases failed

theorem orderly_fail {cause : SyntaxCause} (counts : cause ≠ .invalidTarget) :
    Orderly (fail cause : Reader α) where
  suffix _ := List.suffix_rfl
  complains tokens _ := ⟨⟨cause, tokens⟩, by simp, counts⟩

theorem orderly_report (fault : SyntaxFault) : Orderly (report fault) where
  suffix _ := List.suffix_rfl
  complains _ failed := by cases failed

theorem orderly_ahead : Orderly ahead where
  suffix _ := List.suffix_rfl
  complains _ failed := by cases failed

theorem orderly_accept? (wanted : Kind → Bool) : Orderly (accept? wanted) where
  suffix tokens := by
    cases tokens with
    | nil => exact List.suffix_rfl
    | cons token rest =>
        rw [run_accept?_cons]
        split
        · exact List.suffix_cons token rest
        · exact List.suffix_rfl
  complains tokens failed := by
    cases tokens with
    | nil => cases failed
    | cons token rest =>
        rw [run_accept?_cons] at failed
        split at failed <;> cases failed

theorem Orderly.bind {reader : Reader α} {next : α → Reader β} (first : Orderly reader)
    (second : ∀ value, Orderly (next value)) : Orderly (reader >>= next) where
  suffix tokens := by
    rw [run_bind]
    split
    · exact first.suffix tokens
    · exact ((second _).suffix _).trans (first.suffix tokens)
  complains tokens failed := by
    rcases reading : reader.run tokens with ⟨found, middle, before⟩
    cases found with
    | none =>
        have fault := first.complains tokens (by rw [reading])
        rw [run_bind_of_failed reading]
        rwa [reading] at fault
    | some value =>
        rw [run_bind_of_found reading] at failed ⊢
        obtain ⟨fault, mem, counts⟩ := (second value).complains middle failed
        exact ⟨fault, List.mem_append_right _ mem, counts⟩

theorem Orderly.map {reader : Reader α} (orderly : Orderly reader) (f : α → β) :
    Orderly (f <$> reader) :=
  orderly.bind fun _ => orderly_pure _

theorem orderly_of_runs {reader : Reader α}
    (runs : ∀ tokens, ∃ other : Reader α, Orderly other ∧ reader.run tokens = other.run tokens) :
    Orderly reader where
  suffix tokens := by
    obtain ⟨other, orderly, same⟩ := runs tokens
    rw [same]
    exact orderly.suffix tokens
  complains tokens := by
    obtain ⟨other, orderly, same⟩ := runs tokens
    rw [same]
    exact orderly.complains tokens

theorem orderly_expect {cause : SyntaxCause} (counts : cause ≠ .invalidTarget) (kind : Kind) :
    Orderly (expect kind cause) := by
  refine (orderly_accept? _).bind fun found => ?_
  cases found with
  | none => exact orderly_fail counts
  | some token => exact orderly_pure token

theorem orderly_expectEnd {cause : SyntaxCause} (counts : cause ≠ .invalidTarget) :
    Orderly (expectEnd cause) := by
  refine orderly_ahead.bind fun tokens => ?_
  split
  · exact orderly_pure ()
  · exact (orderly_expect counts _).bind fun _ => orderly_pure ()

/-! ## Consumption -/

def Consumes (reader : Reader α) : Prop :=
  ∀ tokens, (reader.run tokens).found.isSome →
    (reader.run tokens).rest.length < tokens.length

theorem Consumes.bind {reader : Reader α} {next : α → Reader β} (first : Consumes reader)
    (second : ∀ value, Orderly (next value)) : Consumes (reader >>= next) := by
  intro tokens
  have consumed := first tokens
  rw [run_bind]
  cases found : (reader.run tokens).found with
  | none => simp
  | some value =>
      intro _
      have shorter := (second value).length_le (reader.run tokens).rest
      exact Nat.lt_of_le_of_lt shorter (consumed (by simp [found]))

theorem consumes_fail (cause : SyntaxCause) : Consumes (fail cause : Reader α) := by
  intro tokens found
  simp at found

theorem consumes_accept?_bind {wanted : Kind → Bool} {next : Option Token → Reader α}
    (otherwise : Consumes (next none)) (orderly : ∀ token, Orderly (next (some token))) :
    Consumes (accept? wanted >>= next) := by
  intro tokens found
  cases tokens with
  | nil =>
      rw [run_accept?_bind_nil] at found ⊢
      exact otherwise [] found
  | cons token rest =>
      rw [run_accept?_bind_cons] at found ⊢
      split
      · exact Nat.lt_succ_of_le ((orderly token).length_le rest)
      · next unwanted =>
        rw [if_neg unwanted] at found
        exact otherwise _ found

/-! ## Expressions -/

theorem missing_ne_invalidTarget (room : Nat) : missing room ≠ .invalidTarget := by
  unfold missing
  split
  · decide
  · split <;> decide

theorem orderly_operations {operators : Kind → Bool} {operand : Reader Expr}
    (orderly : Orderly operand) (bound : List Token) (left : Expr) :
    Orderly (operations operators operand bound left) := by
  induction bound generalizing left with
  | nil => exact orderly_pure left
  | cons _ bound ih =>
      refine (orderly_accept? _).bind fun found => ?_
      cases found with
      | none => exact orderly_pure left
      | some operator => exact orderly.bind fun right => ih _

theorem orderly_chain {operators : Kind → Bool} {operand : Reader Expr}
    (orderly : Orderly operand) : Orderly (chain operators operand) :=
  orderly.bind fun _ => orderly_ahead.bind fun _ => orderly_operations orderly _ _

theorem consumes_chain {operators : Kind → Bool} {operand : Reader Expr}
    (orderly : Orderly operand) (consumes : Consumes operand) :
    Consumes (chain operators operand) :=
  consumes.bind fun _ => orderly_ahead.bind fun _ => orderly_operations orderly _ _

theorem orderly_binary {operand : Reader Expr} (orderly : Orderly operand) :
    Orderly (binary operand) :=
  orderly_chain (orderly_chain (orderly_chain (orderly_chain orderly)))

theorem consumes_binary {operand : Reader Expr} (orderly : Orderly operand)
    (consumes : Consumes operand) : Consumes (binary operand) :=
  consumes_chain (orderly_chain (orderly_chain (orderly_chain orderly)))
    (consumes_chain (orderly_chain (orderly_chain orderly))
      (consumes_chain (orderly_chain orderly) (consumes_chain orderly consumes)))

theorem orderly_assignment {operand : Nat → Reader Expr}
    (orderly : ∀ room, Orderly (operand room)) (room : Nat) :
    Orderly (assignment operand room) := by
  induction room with
  | zero => exact orderly 0
  | succ room ih =>
      refine (orderly _).bind fun target => orderly_ahead.bind fun _ =>
        (orderly_accept? _).bind fun found => ?_
      cases found with
      | none => exact orderly_pure target
      | some _ =>
          refine ih.bind fun value => ?_
          cases target with
          | reference => exact orderly_pure _
          | _ => exact (orderly_report _).bind fun _ => orderly_pure _

theorem consumes_assignment {operand : Nat → Reader Expr}
    (orderly : ∀ room, Orderly (operand room)) (consumes : ∀ room, Consumes (operand room))
    (room : Nat) : Consumes (assignment operand room) := by
  cases room with
  | zero => exact consumes 0
  | succ room =>
      refine (consumes _).bind fun target => orderly_ahead.bind fun _ =>
        (orderly_accept? _).bind fun found => ?_
      cases found with
      | none => exact orderly_pure target
      | some _ =>
          refine (orderly_assignment orderly room).bind fun value => ?_
          cases target with
          | reference => exact orderly_pure _
          | _ => exact (orderly_report _).bind fun _ => orderly_pure _

theorem orderly_unary {operand : Nat → Reader Expr}
    (orderly : ∀ room, Orderly (operand room)) (room : Nat) :
    Orderly (unary operand room) := by
  induction room with
  | zero => exact (orderly_accept? _).bind fun _ => orderly_fail (by decide)
  | succ room ih =>
      refine (orderly_accept? _).bind fun found => ?_
      cases found with
      | none => exact orderly _
      | some operator => exact ih.bind fun _ => orderly_pure _

theorem consumes_unary {operand : Nat → Reader Expr}
    (orderly : ∀ room, Orderly (operand room)) (consumes : ∀ room, Consumes (operand room))
    (room : Nat) : Consumes (unary operand room) := by
  cases room with
  | zero => exact consumes_accept?_bind (consumes_fail _) fun _ => orderly_fail (by decide)
  | succ room =>
      exact consumes_accept?_bind (consumes _) fun _ =>
        (orderly_unary orderly room).bind fun _ => orderly_pure _

theorem orderly_primary_tail {expression : Nat → Reader Expr}
    (orderly : ∀ room, Orderly (expression room)) (room : Nat) (token : Token) :
    Orderly (match token.kind with
      | .impossible => pure (.literal (.truth false))
      | .ril => pure (.literal (.truth true))
      | .hampa => pure (.literal .hampa)
      | .identifier => pure (.reference token)
      | .leftParen => do
        let inner ← expression room
        let _ ← expect .rightParen .expectClosing
        pure (.grouping inner)
      | _ => pure (.literal token.literal) : Reader Expr) := by
  split
  case h_5 =>
    exact (orderly room).bind fun _ => (orderly_expect (by decide) _).bind fun _ => orderly_pure _
  all_goals exact orderly_pure _

theorem orderly_primary {expression : Nat → Reader Expr}
    (orderly : ∀ room, Orderly (expression room)) (room : Nat) :
    Orderly (primary expression room) := by
  refine (orderly_accept? _).bind fun found => ?_
  cases found with
  | none => exact orderly_fail (missing_ne_invalidTarget room)
  | some token => exact orderly_primary_tail orderly room token

theorem consumes_primary {expression : Nat → Reader Expr}
    (orderly : ∀ room, Orderly (expression room)) (room : Nat) :
    Consumes (primary expression room) :=
  consumes_accept?_bind (consumes_fail _) (orderly_primary_tail orderly room)

theorem orderly_expressionWithin (count room : Nat) :
    Orderly (expressionWithin count room) := by
  induction count generalizing room with
  | zero => exact orderly_fail (by decide)
  | succ count ih =>
      unfold expressionWithin
      split
      · exact orderly_fail (by decide)
      · exact orderly_assignment (fun _ =>
          orderly_binary (orderly_unary (orderly_primary ih) _)) _

theorem orderly_expression (room : Nat) : Orderly (expression room) :=
  orderly_expressionWithin room room

theorem consumes_expression (room : Nat) : Consumes (expression room) := by
  unfold expression
  cases room with
  | zero => exact consumes_fail _
  | succ room =>
      unfold expressionWithin
      split
      · exact consumes_fail _
      · have orderly := orderly_primary (orderly_expressionWithin room)
        exact consumes_assignment (fun _ => orderly_binary (orderly_unary orderly _))
          (fun _ => consumes_binary (orderly_unary orderly _)
            (consumes_unary orderly (consumes_primary (orderly_expressionWithin room)) _)) _

/-! ## Statements -/

theorem orderly_expressionStatement (room : Nat) :
    Orderly (expressionStatement room) :=
  (orderly_expression room).bind fun _ =>
    (orderly_expectEnd (by decide)).bind fun _ => orderly_pure _

theorem consumes_expressionStatement (room : Nat) : Consumes (expressionStatement room) :=
  (consumes_expression room).bind fun _ =>
    (orderly_expectEnd (by decide)).bind fun _ => orderly_pure _

theorem orderly_spill (room : Nat) : Orderly (spill room) :=
  (orderly_expression room).bind fun _ =>
    (orderly_expectEnd (by decide)).bind fun _ => orderly_pure _

theorem orderly_declaration (room : Nat) : Orderly (declaration room) := by
  refine (orderly_expect (by decide) _).bind fun name => (orderly_accept? _).bind fun found => ?_
  cases found with
  | none => exact (orderly_expectEnd (by decide)).bind fun _ => orderly_pure _
  | some _ =>
      exact ((orderly_expression _).map some).bind fun _ =>
        (orderly_expectEnd (by decide)).bind fun _ => orderly_pure _

section Blocks

variable {block : Reader (List Stmt)}

theorem orderly_otherwise (orderly : Orderly block) (room count : Nat) :
    Orderly (otherwise room block count) := by
  induction count with
  | zero => exact orderly_pure _
  | succ count ih =>
      refine (orderly_accept? _).bind fun found => ?_
      cases found with
      | none => exact orderly_pure _
      | some token =>
          dsimp only
          split
          · exact (orderly_expression room).bind fun _ => orderly.bind fun _ =>
              ih.bind fun _ => orderly_pure _
          · exact orderly.bind fun _ => orderly_pure _

theorem orderly_kalo (orderly : Orderly block) (room count : Nat) :
    Orderly (kalo room block count) :=
  (orderly_expression room).bind fun _ => orderly.bind fun _ =>
    (orderly_otherwise orderly room count).bind fun _ =>
      (orderly_expect (by decide) _).bind fun _ =>
        (orderly_expectEnd (by decide)).bind fun _ => orderly_pure _

theorem orderly_statement_tail (orderly : Orderly block) (room count : Nat)
    (token : Token) :
    Orderly (match token.kind with
      | .literally => declaration room
      | .kalo => kalo room block count
      | _ => spill room) := by
  split
  · exact orderly_declaration room
  · exact orderly_kalo orderly room count
  · exact orderly_spill room

theorem orderly_statement (orderly : Orderly block) (room count : Nat) :
    Orderly (statement room block count) := by
  refine (orderly_accept? _).bind fun found => ?_
  cases found with
  | none => exact orderly_expressionStatement room
  | some token => exact orderly_statement_tail orderly room count token

theorem consumes_statement (orderly : Orderly block) (room count : Nat) :
    Consumes (statement room block count) :=
  consumes_accept?_bind (consumes_expressionStatement room)
    (orderly_statement_tail orderly room count)

end Blocks

theorem resumed_suffix (tokens : List Token) : resumed tokens <:+ tokens := by
  cases tokens with
  | nil => exact List.suffix_rfl
  | cons token rest =>
      rw [resumed]
      split
      · exact List.suffix_rfl
      · exact (List.dropWhile_suffix _).trans (List.suffix_cons token rest)

theorem Orderly.recovering {reader : Reader α} (orderly : Orderly reader) :
    Orderly (recovering reader) where
  suffix tokens := by
    rw [run_recovering]
    split
    · exact orderly.suffix tokens
    · exact (resumed_suffix _).trans (orderly.suffix tokens)
  complains tokens failed := by
    rw [run_recovering] at failed
    split at failed <;> cases failed

/-- Whether or not a statement is found, reading goes on behind the token at which it starts,
unless that is a newline. -/
theorem recovering_length_lt {reader : Reader α} (orderly : Orderly reader)
    (consumes : Consumes reader) {token : Token} (noNewline : token.kind ≠ .newline)
    (rest : List Token) :
    ((recovering reader).run (token :: rest)).rest.length < (token :: rest).length := by
  have shorter := consumes (token :: rest)
  have left := orderly.suffix (token :: rest)
  rw [run_recovering]
  cases found : (reader.run (token :: rest)).found with
  | some value => exact shorter (by rw [found]; rfl)
  | none =>
      simp only
      rcases List.suffix_cons_iff.1 left with all | less
      · rw [all, resumed, if_neg noNewline]
        exact Nat.lt_succ_of_le (List.dropWhile_suffix _).length_le
      · exact Nat.lt_succ_of_le ((resumed_suffix _).trans less).length_le

def boundedBlock (room count : Nat) : Reader (List Stmt) := do
  let _ ← expect .newline .expectBlock
  let found ← statements (room - blockRoom) true count
  pure (found.filterMap id)

theorem orderly_statements (room : Nat) (inBlock : Bool) (count : Nat) :
    Orderly (statements room inBlock count) := by
  induction count generalizing room inBlock with
  | zero => exact orderly_pure _
  | succ count ih =>
      refine orderly_ahead.bind fun tokens => ?_
      cases tokens with
      | nil => exact orderly_pure _
      | cons token _ =>
          dsimp only
          split
          · exact (orderly_accept? _).bind fun _ => ih room inBlock
          · split
            · exact orderly_pure _
            · have block : Orderly (boundedBlock room count) :=
                (orderly_expect (by decide) _).bind fun _ => (ih _ true).bind fun _ =>
                  orderly_pure _
              exact (orderly_statement block room count).recovering.bind fun _ =>
                (ih room inBlock).bind fun _ => orderly_pure _

end BilingualScript.Reader
