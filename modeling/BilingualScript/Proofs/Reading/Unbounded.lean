import BilingualScript.Proofs.Reading.Progress

/-!
# Reading without bounds

The readers of `Reading` carry bounds on repetition, so that they end.  Here they are put as the
equations that they would satisfy without them.
-/

namespace BilingualScript.Reader

/-! ## Expressions -/

theorem primary_congr {first second : Nat → Reader Expr} {room : Nat}
    (same : first room = second room) : primary first room = primary second room := by
  unfold primary
  rw [same]

theorem unary_congr {first second : Nat → Reader Expr} {room : Nat}
    (same : ∀ less ≤ room, first less = second less) : unary first room = unary second room := by
  induction room with
  | zero => rfl
  | succ room ih =>
      unfold unary
      rw [same _ (Nat.le_refl _), ih fun less le => same less (Nat.le_succ_of_le le)]

theorem assignment_congr {first second : Nat → Reader Expr} {room : Nat}
    (same : ∀ less ≤ room, first less = second less) :
    assignment first room = assignment second room := by
  induction room with
  | zero => exact same 0 (Nat.le_refl 0)
  | succ room ih =>
      unfold assignment
      rw [same _ (Nat.le_refl _), ih fun less le => same less (Nat.le_succ_of_le le)]

def operand (room : Nat) : Reader Expr := binary (unary (primary expression) room)

theorem expressionWithin_eq {count room : Nat} (enough : room ≤ count) :
    expressionWithin count room = expression room := by
  induction room using Nat.strongRecOn generalizing count with
  | ind room ih =>
      unfold expression
      cases count with
      | zero =>
          obtain rfl := Nat.le_zero.1 enough
          rfl
      | succ count =>
          cases room with
          | zero => rfl
          | succ room =>
              unfold expressionWithin
              split
              · rfl
              · apply assignment_congr
                intro less le
                have small : less ≤ room := by
                  unfold expressionRoom at le
                  omega
                congr 1
                apply unary_congr
                intro inner innerLe
                apply primary_congr
                rw [ih inner (by omega) (show inner ≤ count by omega),
                  ih inner (by omega) (show inner ≤ room by omega)]

theorem expression_eq (room : Nat) :
    expression room =
      if room < expressionRoom then fail .tooDeep
      else assignment operand (room - expressionRoom) := by
  cases room with
  | zero => rfl
  | succ room =>
      conv => lhs; unfold expression expressionWithin
      split
      · rfl
      · apply assignment_congr
        intro less le
        have small : less ≤ room := by
          unfold expressionRoom at le
          omega
        unfold operand
        congr 1
        apply unary_congr
        intro inner innerLe
        exact primary_congr (expressionWithin_eq (by omega))

/-! ## Repetition -/

def further (operators : Kind → Bool) (operand : Reader Expr) (left : Expr) : Reader Expr := do
  operations operators operand (← ahead) left

theorem chain_eq (operators : Kind → Bool) (operand : Reader Expr) :
    chain operators operand = operand >>= further operators operand := rfl

section Further

variable {operators : Kind → Bool} {operand : Reader Expr}

theorem operations_congr (orderly : Orderly operand) {first second tokens : List Token}
    (enough : tokens.length ≤ first.length) (enough' : tokens.length ≤ second.length)
    (left : Expr) :
    (operations operators operand first left).run tokens =
      (operations operators operand second left).run tokens := by
  induction first generalizing second tokens left with
  | nil =>
      obtain rfl := List.length_eq_zero_iff.1 (Nat.le_zero.1 enough)
      cases second <;> rfl
  | cons _ first ih =>
      cases tokens with
      | nil => cases second <;> rfl
      | cons token rest =>
          obtain ⟨_, second, rfl⟩ :=
            List.exists_cons_of_length_pos (Nat.lt_of_lt_of_le (by simp) enough')
          simp only [operations, run_accept?_bind_cons]
          split
          · simp only [run_bind]
            split
            · rfl
            · have shorter := orderly.length_le rest
              simp only [List.length_cons] at enough enough'
              rw [ih (by omega) (show _ ≤ second.length by omega)]
          · rfl

@[simp] theorem run_further_nil (left : Expr) :
    (further operators operand left).run [] = ⟨some left, [], []⟩ := rfl

theorem run_further_cons (orderly : Orderly operand) (left : Expr) (token : Token)
    (rest : List Token) :
    (further operators operand left).run (token :: rest) =
      if operators token.kind then
        (operand >>= fun right => further operators operand (.binary left token right)).run rest
      else ⟨some left, token :: rest, []⟩ := by
  simp only [further, run_ahead_bind, operations, run_accept?_bind_cons]
  split
  · simp only [run_bind]
    split
    · rfl
    · simp only [run_ahead]
      rw [operations_congr orderly (orderly.length_le rest) (Nat.le_refl _)]
      simp
  · rfl

end Further

/-! ## Blocks -/

def lines (room : Nat) (inBlock : Bool) : Reader (List (Option Stmt)) := fun tokens =>
  (statements room inBlock (tokens.length + 1)).run tokens

theorem run_lines (room : Nat) (inBlock : Bool) (tokens : List Token) :
    (lines room inBlock).run tokens =
      (statements room inBlock (tokens.length + 1)).run tokens := by
  unfold lines run
  rfl

def block (room : Nat) : Reader (List Stmt) := do
  let _ ← expect .newline .expectBlock
  let found ← lines (room - blockRoom) true
  pure (found.filterMap id)

def branches (room : Nat) : Reader Otherwise := fun tokens =>
  (otherwise room (block room) (tokens.length + 1)).run tokens

theorem run_branches (room : Nat) (tokens : List Token) :
    (branches room).run tokens =
      (otherwise room (block room) (tokens.length + 1)).run tokens := by
  unfold branches run
  rfl

def conditional (room : Nat) : Reader Stmt := do
  let condition ← expression room
  let body ← block room
  let rest ← branches room
  let _ ← expect .udahan .expectUdahan
  expectEnd .expectEndOfKalo
  pure (.kalo condition body rest)

def anyStatement (room : Nat) : Reader Stmt := do
  match ← accept? fun kind => kind == .literally || kind == .kalo || kind == .spill with
  | none => expressionStatement room
  | some token =>
    match token.kind with
    | .literally => declaration room
    | .kalo => conditional room
    | _ => spill room

def AgreeUpTo {α : Type} (length : Nat) (first second : Reader α) : Prop :=
  ∀ tokens : List Token, tokens.length ≤ length → first.run tokens = second.run tokens

theorem AgreeUpTo.refl {α : Type} (length : Nat) (reader : Reader α) :
    AgreeUpTo length reader reader := fun _ _ => rfl

theorem AgreeUpTo.bind {α β : Type} {length : Nat} {first second : Reader α}
    {next next' : α → Reader β} (same : AgreeUpTo length first second)
    (orderly : Orderly second) (same' : ∀ value, AgreeUpTo length (next value) (next' value)) :
    AgreeUpTo length (first >>= next) (second >>= next') := by
  intro tokens le
  rw [run_bind, run_bind, same tokens le]
  split
  · rfl
  · rw [same' _ _ (Nat.le_trans (orderly.length_le tokens) le)]

theorem AgreeUpTo.mono {α : Type} {length less : Nat} {first second : Reader α}
    (same : AgreeUpTo length first second) (le : less ≤ length) : AgreeUpTo less first second :=
  fun tokens short => same tokens (Nat.le_trans short le)

theorem AgreeUpTo.accept?_bind {α : Type} {wanted : Kind → Bool} {length : Nat}
    {next next' : Option Token → Reader α}
    (none : AgreeUpTo (length + 1) (next none) (next' none))
    (some : ∀ token, AgreeUpTo length (next (some token)) (next' (some token))) :
    AgreeUpTo (length + 1) (accept? wanted >>= next) (accept? wanted >>= next') := by
  intro tokens le
  cases tokens with
  | nil => simpa using none [] (by simp)
  | cons token rest =>
      rw [run_accept?_bind_cons, run_accept?_bind_cons]
      split
      · exact some token rest (by simpa using le)
      · exact none _ le

theorem otherwise_congr {block block' : Reader (List Stmt)} {length : Nat} (room : Nat)
    (same : AgreeUpTo length block block') (orderly : Orderly block') {count count' : Nat}
    (enough : length < count) (enough' : length < count') :
    AgreeUpTo length (otherwise room block count) (otherwise room block' count') := by
  induction length generalizing count count' with
  | zero =>
      obtain ⟨count, rfl⟩ := Nat.exists_eq_add_one.2 enough
      obtain ⟨count', rfl⟩ := Nat.exists_eq_add_one.2 enough'
      intro tokens le
      obtain rfl := List.length_eq_zero_iff.1 (Nat.le_zero.1 le)
      rfl
  | succ length ih =>
      obtain ⟨count, rfl⟩ := Nat.exists_eq_add_one_of_ne_zero (Nat.ne_zero_of_lt enough)
      obtain ⟨count', rfl⟩ := Nat.exists_eq_add_one_of_ne_zero (Nat.ne_zero_of_lt enough')
      have shorter := same.mono (Nat.le_succ length)
      refine AgreeUpTo.accept?_bind (.refl _ _) fun token => ?_
      dsimp only
      split
      · refine (AgreeUpTo.refl _ _).bind (orderly_expression room) fun _ =>
          shorter.bind orderly fun _ => ?_
        exact (ih shorter (by omega) (by omega)).bind (orderly_otherwise orderly room count')
          fun _ => .refl _ _
      · exact shorter.bind orderly fun _ => .refl _ _

theorem kalo_congr {block block' : Reader (List Stmt)} {length : Nat} (room : Nat)
    (same : AgreeUpTo length block block') (orderly : Orderly block') {count count' : Nat}
    (enough : length < count) (enough' : length < count') :
    AgreeUpTo length (kalo room block count) (kalo room block' count') :=
  (AgreeUpTo.refl _ _).bind (orderly_expression room) fun _ => same.bind orderly fun _ =>
    (otherwise_congr room same orderly enough enough').bind
      (orderly_otherwise orderly room count') fun _ => .refl _ _

theorem statement_congr {block block' : Reader (List Stmt)} {length : Nat} (room : Nat)
    (same : AgreeUpTo length block block') (orderly : Orderly block') {count count' : Nat}
    (enough : length < count) (enough' : length < count') :
    AgreeUpTo (length + 1) (statement room block count) (statement room block' count') := by
  refine AgreeUpTo.accept?_bind (.refl _ _) fun token => ?_
  dsimp only
  split
  · exact .refl _ _
  · exact kalo_congr room same orderly enough enough'
  · exact .refl _ _

theorem AgreeUpTo.recovering {α : Type} {length : Nat} {first second : Reader α}
    (same : AgreeUpTo length first second) :
    AgreeUpTo length (recovering first) (recovering second) := by
  intro tokens le
  rw [run_recovering, run_recovering, same tokens le]

@[simp] theorem run_statements_nil (room : Nat) (inBlock : Bool) (count : Nat) :
    (statements room inBlock count).run [] = ⟨some [], [], []⟩ := by
  cases count with
  | zero => rfl
  | succ count => simp [statements]

theorem run_statements_cons (room : Nat) (inBlock : Bool) (count : Nat) (token : Token)
    (rest : List Token) :
    (statements room inBlock (count + 1)).run (token :: rest) =
      if token.kind = .newline then (statements room inBlock count).run rest
      else if inBlock && endsBlock token.kind then ⟨some [], token :: rest, []⟩
      else
        (recovering (statement room (boundedBlock room count) count) >>= fun stmt? =>
          statements room inBlock count >>= fun rest => pure (stmt? :: rest)).run
          (token :: rest) := by
  simp only [statements, run_ahead_bind]
  split
  · next newline => simp [run_accept?_bind_cons, newline]
  · split
    · rfl
    · rfl

theorem statements_found (room : Nat) (inBlock : Bool) (count : Nat) (tokens : List Token) :
    ∃ program rest faults,
      (statements room inBlock count).run tokens = ⟨some program, rest, faults⟩ := by
  induction count generalizing tokens with
  | zero => exact ⟨[], tokens, [], rfl⟩
  | succ count ih =>
      cases tokens with
      | nil => exact ⟨[], [], [], run_statements_nil _ _ _⟩
      | cons token rest =>
          rw [run_statements_cons]
          split
          · exact ih rest
          · split
            · exact ⟨_, _, _, rfl⟩
            · obtain ⟨stmt?, middle, faults, reading⟩ :=
                run_recovering_found (statement room (boundedBlock room count) count)
                  (token :: rest)
              obtain ⟨stmts, left, later, run⟩ := ih middle
              rw [run_bind_of_found reading, run_bind_of_found run]
              exact ⟨_, _, _, rfl⟩

theorem orderly_boundedBlock (room count : Nat) : Orderly (boundedBlock room count) :=
  (orderly_expect (by decide) _).bind fun _ => (orderly_statements _ _ _).bind fun _ =>
    orderly_pure _

theorem statements_congr {length count count' : Nat} (room : Nat) (inBlock : Bool)
    (enough : length < count) (enough' : length < count') :
    AgreeUpTo length (statements room inBlock count) (statements room inBlock count') := by
  induction length generalizing room inBlock count count' with
  | zero =>
      intro tokens le
      obtain rfl := List.length_eq_zero_iff.1 (Nat.le_zero.1 le)
      simp
  | succ length ih =>
      obtain ⟨count, rfl⟩ := Nat.exists_eq_add_one_of_ne_zero (Nat.ne_zero_of_lt enough)
      obtain ⟨count', rfl⟩ := Nat.exists_eq_add_one_of_ne_zero (Nat.ne_zero_of_lt enough')
      have inner (room : Nat) (inBlock : Bool) :
          AgreeUpTo length (statements room inBlock count) (statements room inBlock count') :=
        ih room inBlock (by omega) (by omega)
      have block : AgreeUpTo length (boundedBlock room count) (boundedBlock room count') :=
        (AgreeUpTo.refl _ _).bind (orderly_expect (by decide) _) fun _ =>
          (inner _ _).bind (orderly_statements _ _ _) fun _ => .refl _ _
      have orderly := orderly_boundedBlock room count'
      have stmt := (statement_congr room block orderly (show length < count by omega)
        (show length < count' by omega)).recovering
      intro tokens le
      cases tokens with
      | nil => simp
      | cons token rest =>
          rw [run_statements_cons, run_statements_cons]
          split
          · exact inner room inBlock rest (by simpa using le)
          · next noNewline =>
            split
            · rfl
            · rw [run_bind, run_bind, stmt _ le]
              split
              · rfl
              · have shorter := recovering_length_lt (orderly_statement orderly room count')
                  (consumes_statement orderly room count') noNewline rest
                have short : ((recovering (statement room (boundedBlock room count') count')).run
                    (token :: rest)).rest.length ≤ length := by
                  simp only [List.length_cons] at le shorter
                  omega
                rw [(inner room inBlock).bind (orderly_statements _ _ _)
                  (fun _ => .refl _ _) _ short]

/-! ## Equations -/

theorem orderly_lines (room : Nat) (inBlock : Bool) : Orderly (lines room inBlock) :=
  orderly_of_runs fun tokens => ⟨_, orderly_statements room inBlock _, run_lines _ _ tokens⟩

theorem orderly_block (room : Nat) : Orderly (block room) :=
  (orderly_expect (by decide) _).bind fun _ => (orderly_lines _ _).bind fun _ =>
    orderly_pure _

theorem orderly_branches (room : Nat) : Orderly (branches room) :=
  orderly_of_runs fun tokens => ⟨_, orderly_otherwise (orderly_block room) room _,
    run_branches _ tokens⟩

/-- Reading line by line is reading statements with any count that is large enough. -/
theorem statements_agrees {length count : Nat} (room : Nat) (inBlock : Bool)
    (enough : length < count) : AgreeUpTo length (statements room inBlock count)
      (lines room inBlock) := by
  intro tokens le
  rw [run_lines]
  exact statements_congr _ _ (by omega) (Nat.lt_succ_self _) tokens (Nat.le_refl _)

theorem boundedBlock_agrees {length count : Nat} (room : Nat) (enough : length < count) :
    AgreeUpTo length (boundedBlock room count) (block room) := by
  exact (AgreeUpTo.refl _ _).bind (orderly_expect (by decide) _) fun _ =>
    (statements_agrees _ _ enough).bind (orderly_lines _ _) fun _ => .refl _ _

theorem otherwise_agrees {length count : Nat} (room : Nat) (enough : length < count) :
    AgreeUpTo length (otherwise room (boundedBlock room count) count) (branches room) := by
  intro tokens le
  rw [run_branches]
  exact otherwise_congr room ((boundedBlock_agrees room enough).mono le) (orderly_block room)
    (by omega) (Nat.lt_succ_self _) tokens (Nat.le_refl _)

theorem statement_agrees {length count : Nat} (room : Nat) (enough : length < count) :
    AgreeUpTo (length + 1) (statement room (boundedBlock room count) count)
      (anyStatement room) := by
  refine AgreeUpTo.accept?_bind (.refl _ _) fun token => ?_
  dsimp only
  cases token.kind with
  | kalo =>
      exact (AgreeUpTo.refl _ _).bind (orderly_expression room) fun _ =>
        (boundedBlock_agrees room enough).bind (orderly_block room) fun _ =>
          (otherwise_agrees room enough).bind (orderly_branches room) fun _ => .refl _ _
  | _ => exact .refl _ _

theorem orderly_conditional (room : Nat) : Orderly (conditional room) :=
  (orderly_expression room).bind fun _ => (orderly_block room).bind fun _ =>
    (orderly_branches room).bind fun _ => (orderly_expect (by decide) _).bind fun _ =>
      (orderly_expectEnd (by decide)).bind fun _ => orderly_pure _

theorem orderly_anyStatement_tail (room : Nat) (token : Token) :
    Orderly (match token.kind with
      | .literally => declaration room
      | .kalo => conditional room
      | _ => spill room) := by
  split
  · exact orderly_declaration room
  · exact orderly_conditional room
  · exact orderly_spill room

theorem orderly_anyStatement (room : Nat) : Orderly (anyStatement room) := by
  refine (orderly_accept? _).bind fun found => ?_
  cases found with
  | none => exact orderly_expressionStatement room
  | some token => exact orderly_anyStatement_tail room token

theorem consumes_anyStatement (room : Nat) : Consumes (anyStatement room) :=
  consumes_accept?_bind (consumes_expressionStatement room) (orderly_anyStatement_tail room)

@[simp] theorem run_lines_nil (room : Nat) (inBlock : Bool) :
    (lines room inBlock).run [] = ⟨some [], [], []⟩ :=
  (run_lines room inBlock []).trans (run_statements_nil room inBlock _)

theorem run_lines_cons (room : Nat) (inBlock : Bool) (token : Token) (rest : List Token) :
    (lines room inBlock).run (token :: rest) =
      if token.kind = .newline then (lines room inBlock).run rest
      else if inBlock && endsBlock token.kind then ⟨some [], token :: rest, []⟩
      else
        (recovering (anyStatement room) >>= fun stmt? =>
          lines room inBlock >>= fun stmts => pure (stmt? :: stmts)).run (token :: rest) := by
  rw [run_lines, List.length_cons, run_statements_cons]
  split
  · rw [run_lines]
  · next noNewline =>
    split
    · rfl
    · have orderly := orderly_boundedBlock room (rest.length + 1)
      have stmt := (statement_agrees room (Nat.lt_succ_self rest.length)).recovering
        (token :: rest) (Nat.le_refl _)
      have shorter := recovering_length_lt (orderly_statement orderly room (rest.length + 1))
        (consumes_statement orderly room (rest.length + 1)) noNewline rest
      rw [stmt] at shorter
      rw [run_bind, run_bind, stmt]
      generalize (recovering (anyStatement room)).run (token :: rest) = reading at *
      split
      · rfl
      · rw [(statements_agrees room inBlock (Nat.lt_succ_self rest.length)).bind
          (orderly_lines _ _) (fun _ => .refl _ _) reading.rest
          (by simpa [Nat.lt_succ_iff] using shorter)]

@[simp] theorem run_branches_nil (room : Nat) :
    (branches room).run [] = ⟨some .nothing, [], []⟩ := by
  rw [run_branches]
  rfl

theorem run_branches_cons (room : Nat) (token : Token) (rest : List Token) :
    (branches room).run (token :: rest) =
      if token.kind = .perhaps then
        (expression room >>= fun condition => block room >>= fun body =>
          branches room >>= fun others => pure (.perhaps condition body others)).run rest
      else if token.kind = .kalogak then
        (block room >>= fun body => pure (.kalogak body)).run rest
      else ⟨some .nothing, token :: rest, []⟩ := by
  rw [run_branches, List.length_cons, otherwise, run_accept?_bind_cons]
  by_cases perhaps : token.kind = .perhaps
  · simp only [perhaps, beq_self_eq_true, Bool.true_or, if_true]
    have others : AgreeUpTo rest.length (otherwise room (block room) (rest.length + 1))
        (branches room) := by
      intro tokens le
      rw [run_branches]
      exact otherwise_congr room (.refl _ _) (orderly_block room) (by omega)
        (Nat.lt_succ_self _) tokens (Nat.le_refl _)
    exact ((AgreeUpTo.refl _ _).bind (orderly_expression room) fun _ =>
      (AgreeUpTo.refl _ _).bind (orderly_block room) fun _ =>
        others.bind (orderly_branches room) fun _ => .refl _ _) rest (Nat.le_refl _)
  · by_cases kalogak : token.kind = .kalogak <;> simp [perhaps, kalogak]

theorem ofTokens_eq (room : Nat) (tokens : Tokens) :
    Parsed.ofTokens room tokens =
      ⟨((lines room false).run tokens.items).found.getD [],
        ((lines room false).run tokens.items).faults⟩ := by
  simp only [Parsed.ofTokens, run_lines]

end BilingualScript.Reader
