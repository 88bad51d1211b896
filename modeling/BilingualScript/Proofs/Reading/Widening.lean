import BilingualScript.Proofs.Reading.Completeness

/-!
# More room

Where reading does not run out of room, a call more changes nothing, but that a report that was cut
short comes out in full.
-/

namespace BilingualScript

/-- A fault as it is met with a call more. -/
def SyntaxFault.relieved (fault : SyntaxFault) : SyntaxFault :=
  if fault.cause = .cutShort then ⟨.expectExpression, fault.rest⟩ else fault

namespace Reader

open Grammar

variable {α β : Type}

/-- Where a reader does not run out of room, another one reads as it does, with more room. -/
def Widens (reader wider : Reader α) : Prop :=
  ∀ tokens, (∀ fault ∈ (reader.run tokens).faults, fault.cause ≠ .tooDeep) →
    wider.run tokens =
      { reader.run tokens with faults := (reader.run tokens).faults.map SyntaxFault.relieved }

/-! ## Combinators -/

theorem widens_pure (value : α) : Widens (pure value) (pure value) := fun _ _ => rfl

theorem widens_ahead : Widens ahead ahead := fun _ _ => rfl

theorem widens_accept? (wanted : Kind → Bool) : Widens (accept? wanted) (accept? wanted) := by
  intro tokens _
  cases tokens with
  | nil => rfl
  | cons token rest =>
      rw [run_accept?_cons]
      split
      · rfl
      · rfl

theorem widens_fail {cause : SyntaxCause} (whole : cause ≠ .cutShort) :
    Widens (fail cause : Reader α) (fail cause) := by
  intro tokens _
  simp [SyntaxFault.relieved, whole]

theorem widens_report {fault : SyntaxFault} (whole : fault.cause ≠ .cutShort) :
    Widens (report fault) (report fault) := by
  intro tokens _
  simp [SyntaxFault.relieved, whole]

theorem widens_of_sinks {reader : Reader α} (sinks : ∀ tokens, Sinks reader tokens)
    (wider : Reader α) : Widens reader wider := by
  intro tokens shallow
  obtain ⟨fault, stuck, deep⟩ := sinks tokens
  exact absurd deep (shallow fault stuck.mem)

theorem Widens.bind {reader wider : Reader α} {next next' : α → Reader β}
    (first : Widens reader wider) (second : ∀ value, Widens (next value) (next' value)) :
    Widens (reader >>= next) (wider >>= next') := by
  intro tokens shallow
  rcases reading : reader.run tokens with ⟨_ | value, middle, faults⟩
  · rw [run_bind_of_failed reading] at shallow ⊢
    have run := first tokens (by rwa [reading])
    rw [reading] at run
    exact run_bind_of_failed run next'
  · rw [run_bind_of_found reading] at shallow ⊢
    obtain ⟨shallow, shallow'⟩ := List.forall_mem_append.1 shallow
    have run := first tokens (by rwa [reading])
    rw [reading] at run
    rw [run_bind_of_found run, second value middle shallow', List.map_append]

theorem Widens.recovering {reader wider : Reader α} (widens : Widens reader wider) :
    Widens (recovering reader) (recovering wider) := by
  intro tokens shallow
  have same : ((Reader.recovering reader).run tokens).faults = (reader.run tokens).faults := by
    rw [run_recovering]
    split <;> rfl
  rw [same] at shallow
  rw [run_recovering, run_recovering, widens tokens shallow]
  cases (reader.run tokens).found <;> rfl

theorem widens_expect {cause : SyntaxCause} (whole : cause ≠ .cutShort) (kind : Kind) :
    Widens (expect kind cause) (expect kind cause) := by
  refine (widens_accept? _).bind fun found => ?_
  cases found with
  | none => exact widens_fail whole
  | some token => exact widens_pure token

theorem widens_expectEnd {cause : SyntaxCause} (whole : cause ≠ .cutShort) :
    Widens (expectEnd cause) (expectEnd cause) := by
  refine widens_ahead.bind fun tokens => ?_
  split
  · exact widens_pure ()
  · exact (widens_expect whole _).bind fun _ => widens_pure ()

/-! ## Expressions -/

theorem widens_missing (room : Nat) :
    Widens (fail (missing room) : Reader α) (fail (missing (room + 1))) := by
  intro tokens shallow
  unfold missing reportRoom at *
  by_cases whole : 6 ≤ room
  · simp [whole, Nat.le_succ_of_le whole, SyntaxFault.relieved]
  · by_cases cut : 6 ≤ room + 1
    · simp [whole, cut, SyntaxFault.relieved]
    · simp [whole, cut] at shallow

theorem widens_primary {expression : Nat → Reader Expr} {room : Nat}
    (widens : Widens (expression room) (expression (room + 1))) :
    Widens (primary expression room) (primary expression (room + 1)) := by
  refine (widens_accept? _).bind fun found => ?_
  cases found with
  | none => exact widens_missing room
  | some token =>
      dsimp only
      split
      case h_5 =>
        exact widens.bind fun _ => (widens_expect (by decide) _).bind fun _ => widens_pure _
      all_goals exact widens_pure _

theorem widens_unary {operand : Nat → Reader Expr} {room : Nat}
    (widens : ∀ less ≤ room, Widens (operand less) (operand (less + 1))) :
    Widens (unary operand room) (unary operand (room + 1)) := by
  induction room with
  | zero => exact widens_of_sinks (sinks_unary_zero operand) _
  | succ room ih =>
      refine (widens_accept? _).bind fun found => ?_
      cases found with
      | none => exact widens _ (Nat.le_refl _)
      | some operator =>
          exact (ih fun less le => widens less (Nat.le_succ_of_le le)).bind fun _ => widens_pure _

theorem widens_chain {operators : Kind → Bool} {operand wider : Reader Expr}
    (widens : Widens operand wider) : Widens (chain operators operand) (chain operators wider) := by
  refine widens.bind fun left => widens_ahead.bind fun bound => ?_
  induction bound generalizing left with
  | nil => exact widens_pure left
  | cons _ bound ih =>
      refine (widens_accept? _).bind fun found => ?_
      cases found with
      | none => exact widens_pure left
      | some operator => exact widens.bind fun right => ih _

theorem widens_assignment {room : Nat}
    (widens : ∀ less ≤ room, Widens (operand less) (operand (less + 1))) :
    Widens (assignment operand room) (assignment operand (room + 1)) := by
  induction room with
  | zero => exact widens_of_sinks sinks_operand_zero _
  | succ room ih =>
      refine (widens _ (Nat.le_refl _)).bind fun target => widens_ahead.bind fun _ =>
        (widens_accept? _).bind fun found => ?_
      cases found with
      | none => exact widens_pure target
      | some _ =>
          refine (ih fun less le => widens less (Nat.le_succ_of_le le)).bind fun value => ?_
          cases target with
          | reference => exact widens_pure _
          | _ => exact (widens_report (by simp)).bind fun _ => widens_pure _

theorem sinks_expression {room : Nat} (small : room < expressionRoom) (tokens : List Token) :
    Sinks (expression room) tokens := by
  rw [expression_eq, if_pos small]
  exact sinks_fail

theorem widens_expression (room : Nat) : Widens (expression room) (expression (room + 1)) := by
  induction room using Nat.strongRecOn with
  | ind room ih =>
      by_cases small : room < expressionRoom
      · exact widens_of_sinks (sinks_expression small) _
      · have less : room + 1 - expressionRoom = room - expressionRoom + 1 :=
          Nat.succ_sub (Nat.le_of_not_lt small)
        rw [expression_eq, expression_eq, if_neg small, if_neg (by omega), less]
        refine widens_assignment fun outer outer_le => widens_chain (widens_chain (widens_chain
          (widens_chain (widens_unary fun inner inner_le => widens_primary (ih inner ?_)))))
        unfold expressionRoom at *
        omega

/-! ## Statements -/

theorem widens_declaration (room : Nat) :
    Widens (declaration room) (declaration (room + 1)) := by
  refine (widens_expect (by decide) _).bind fun name => (widens_accept? _).bind fun found => ?_
  cases found with
  | none => exact (widens_expectEnd (by decide)).bind fun _ => widens_pure _
  | some _ =>
      exact ((widens_expression _).bind fun _ => widens_pure _).bind fun _ =>
        (widens_expectEnd (by decide)).bind fun _ => widens_pure _

section Blocks

variable {room : Nat} {block wider : Reader (List Stmt)}

theorem widens_otherwise (widens : Widens block wider) (count : Nat) :
    Widens (otherwise room block count) (otherwise (room + 1) wider count) := by
  induction count with
  | zero => exact widens_pure _
  | succ count ih =>
      refine (widens_accept? _).bind fun found => ?_
      cases found with
      | none => exact widens_pure _
      | some token =>
          dsimp only
          split
          · exact (widens_expression room).bind fun _ => widens.bind fun _ => ih.bind fun _ =>
              widens_pure _
          · exact widens.bind fun _ => widens_pure _

theorem widens_kalo (widens : blockRoom ≤ room → Widens block wider) (count : Nat) :
    Widens (kalo room block count) (kalo (room + 1) wider count) := by
  by_cases small : room < expressionRoom
  · exact widens_of_sinks (fun tokens => (sinks_expression small tokens).bind _) _
  · have widens := widens (by unfold expressionRoom at small; unfold blockRoom; omega)
    exact (widens_expression room).bind fun _ => widens.bind fun _ =>
      (widens_otherwise widens count).bind fun _ => (widens_expect (by decide) _).bind fun _ =>
        (widens_expectEnd (by decide)).bind fun _ => widens_pure _

theorem widens_statement (widens : blockRoom ≤ room → Widens block wider) (count : Nat) :
    Widens (statement room block count) (statement (room + 1) wider count) := by
  have ended (cause : SyntaxCause) (whole : cause ≠ .cutShort) (f : Expr → Stmt) :
      Widens (expression room >>= fun value => expectEnd cause >>= fun _ => pure (f value))
        (expression (room + 1) >>= fun value => expectEnd cause >>= fun _ => pure (f value)) :=
    (widens_expression room).bind fun _ => (widens_expectEnd whole).bind fun _ => widens_pure _
  refine (widens_accept? _).bind fun found => ?_
  cases found with
  | none => exact ended .expectEndOfExpression (by decide) .expression
  | some token =>
      dsimp only
      split
      · exact widens_declaration room
      · exact widens_kalo widens count
      · exact ended .expectEndOfSpill (by decide) .spill

end Blocks

theorem widens_statements (room : Nat) (inBlock : Bool) (count : Nat) :
    Widens (statements room inBlock count) (statements (room + 1) inBlock count) := by
  induction count generalizing room inBlock with
  | zero => exact widens_pure _
  | succ count ih =>
      refine widens_ahead.bind fun tokens => ?_
      cases tokens with
      | nil => exact widens_pure _
      | cons token _ =>
          dsimp only
          split
          · exact (widens_accept? _).bind fun _ => ih room inBlock
          · split
            · exact widens_pure _
            · have block (enough : blockRoom ≤ room) :
                  Widens (boundedBlock room count) (boundedBlock (room + 1) count) := by
                unfold boundedBlock
                rw [Nat.succ_sub enough]
                exact (widens_expect (by decide) _).bind fun _ => (ih _ true).bind fun _ =>
                  widens_pure _
              exact (widens_statement block count).recovering.bind fun _ =>
                (ih room inBlock).bind fun _ => widens_pure _

end Reader

/-- A program that is read without running out of room is read alike with a call more. -/
theorem Parsed.ofTokens_succ {room : Nat} {tokens : Tokens}
    (shallow : ∀ fault ∈ (ofTokens room tokens).faults, fault.cause ≠ .tooDeep) :
    ofTokens (room + 1) tokens =
      ⟨(ofTokens room tokens).program,
        (ofTokens room tokens).faults.map SyntaxFault.relieved⟩ := by
  have run := Reader.widens_statements room false (tokens.items.length + 1) tokens.items shallow
  simp only [ofTokens, run]

end BilingualScript
