import BilingualScript.Proofs.Reading.Outcome
import BilingualScript.Proofs.Reading.Placement

/-!
# Looking ahead

Readers look no farther than the next token.  So where one stops in front of a token, or gets stuck
at it, it does so whatever stands behind that token.
-/

namespace BilingualScript.Reader

variable {α β : Type} {front left rest : List Token} {token : Token}

/-- Behind some tokens a reader stops in front of a token, or gets stuck at it, whatever stands
behind that. -/
structure NearsightedAt (reader : Reader α) (front : List Token) (token : Token) : Prop where
  found : ∀ {left rest value},
    Found true reader (front ++ token :: rest) (left ++ token :: rest) value →
      ∀ other, Found true reader (front ++ token :: other) (left ++ token :: other) value
  stuck : ∀ {rest cause}, Stuck reader (front ++ token :: rest) ⟨cause, token :: rest⟩ →
      ∀ other, Stuck reader (front ++ token :: other) ⟨cause, token :: other⟩

structure Nearsighted (reader : Reader α) : Prop extends Placed reader where
  nearsightedAt : ∀ front token, NearsightedAt reader front token

theorem not_suffix_behind (left : List Token) (token : Token) (rest : List Token) :
    ¬left ++ token :: rest <:+ rest := by
  intro suffix
  have le := suffix.length_le
  simp only [List.length_append, List.length_cons] at le
  omega

section At

variable {reader other : Reader α}

theorem NearsightedAt.of_run {fewer : List Token}
    (run : ∀ rest, reader.run (front ++ token :: rest) = other.run (fewer ++ token :: rest))
    (near : NearsightedAt other fewer token) : NearsightedAt reader front token where
  found read behind :=
    (found_congr (run behind)).2 (near.found ((found_congr (run _)).1 read) behind)
  stuck read behind :=
    (stuck_congr (run behind)).2 (near.stuck ((stuck_congr (run _)).1 read) behind)

theorem nearsightedAt_pure (value : α) : NearsightedAt (pure value) front token where
  found read other := by
    obtain ⟨rfl, same⟩ := found_pure.1 read
    obtain rfl := List.append_cancel_right same
    exact found_pure.2 ⟨rfl, rfl⟩
  stuck read := nomatch read

theorem nearsightedAt_of_stays {value : α}
    (run : ∀ rest, reader.run (front ++ token :: rest) = ⟨some value, front ++ token :: rest, []⟩) :
    NearsightedAt reader front token :=
  .of_run (fun rest => (run rest).trans (run_pure value _).symm) (nearsightedAt_pure value)

theorem nearsightedAt_of_taken (placed : Placed other)
    (run : ∀ rest, reader.run (token :: rest) = other.run rest) :
    NearsightedAt reader [] token where
  found {left rest _} read := by
    have suffix := ((found_congr (run rest)).1 read).suffix placed.toOrderly
    exact absurd suffix (not_suffix_behind left token rest)
  stuck {rest _} read := by
    have suffix := placed.placed rest _ ((stuck_congr (run rest)).1 read).mem
    exact absurd suffix (not_suffix_behind [] token rest)

theorem NearsightedAt.bind {next : α → Reader β} (near : NearsightedAt reader front token)
    (orderly : Orderly reader) (placed : ∀ value, Placed (next value))
    (behind : ∀ value between, between.length ≤ front.length →
      NearsightedAt (next value) between token) :
    NearsightedAt (reader >>= next) front token := by
  have shorter {between rest : List Token} {value : α}
      (read : Found true reader (front ++ token :: rest) (between ++ token :: rest) value) :
      between.length ≤ front.length := by
    have le := (read.suffix orderly).length_le
    simpa using le
  constructor
  · intro left rest value read other
    obtain ⟨value, middle, first, second⟩ := found_bind.1 read
    obtain ⟨between, rfl⟩ := second.suffix (placed value).toOrderly
    rw [← List.append_assoc] at first second
    have near' := behind value _ (shorter first)
    exact found_bind.2 ⟨value, _, near.found first other, near'.found second other⟩
  · intro rest cause read other
    rcases stuck_bind.1 read with first | ⟨value, middle, first, second⟩
    · exact stuck_bind.2 (.inl (near.stuck first other))
    · obtain ⟨between, rfl⟩ := (placed value).placed _ _ second.mem
      have near' := behind value _ (shorter first)
      exact (near'.stuck second other).behind (near.found first other)

end At

/-! ## Compound readers -/

theorem nearsighted_pure (value : α) : Nearsighted (pure value) where
  toPlaced := placed_pure value
  nearsightedAt _ _ := nearsightedAt_pure value

theorem nearsighted_fail {cause : SyntaxCause} (counts : cause ≠ .invalidTarget) :
    Nearsighted (fail cause : Reader α) where
  toPlaced := placed_fail counts
  nearsightedAt front token := by
    refine ⟨fun read => absurd read not_found_fail, fun {rest _} read other => ?_⟩
    have first : [SyntaxFault.mk cause (front ++ token :: rest)].find?
        (·.cause != .invalidTarget) = some ⟨cause, front ++ token :: rest⟩ := by simp [counts]
    obtain ⟨rfl, same⟩ := SyntaxFault.mk.inj (Option.some.inj (first.symm.trans read))
    rw [← List.nil_append (token :: rest)] at same
    obtain rfl := List.append_cancel_right same
    simp [Stuck, counts]

theorem nearsighted_accept? (wanted : Kind → Bool) : Nearsighted (accept? wanted) where
  toPlaced := placed_accept? wanted
  nearsightedAt front token := by
    have run := run_accept?_cons wanted
    cases front with
    | nil =>
        by_cases fits : wanted token.kind = true
        · exact nearsightedAt_of_taken (placed_pure (some token)) fun rest =>
            (run token rest).trans (if_pos fits)
        · exact nearsightedAt_of_stays fun rest => (run token rest).trans (if_neg fits)
    | cons head front =>
        by_cases fits : wanted head.kind = true
        · exact .of_run (fun rest => (run head _).trans (if_pos fits))
            (nearsightedAt_pure (some head))
        · exact nearsightedAt_of_stays fun rest => (run head _).trans (if_neg fits)

theorem Nearsighted.bind {reader : Reader α} {next : α → Reader β} (first : Nearsighted reader)
    (second : ∀ value, Nearsighted (next value)) : Nearsighted (reader >>= next) where
  toPlaced := first.toPlaced.bind fun value => (second value).toPlaced
  nearsightedAt front token := .bind (first.nearsightedAt front token) first.toOrderly
    (fun value => (second value).toPlaced) fun value _ _ => (second value).nearsightedAt _ _

theorem Nearsighted.recovering {reader : Reader α} (near : Nearsighted reader) :
    Nearsighted (recovering reader) where
  toPlaced := near.toPlaced.recovering
  nearsightedAt front token := by
    refine ⟨fun read other => ?_, fun read other => ?_⟩
    · obtain ⟨value, rfl, found⟩ := (found_recovering near.toOrderly).1 read
      exact (found_recovering near.toOrderly).2
        ⟨value, rfl, (near.nearsightedAt front token).found found other⟩
    · exact stuck_recovering.2
        ((near.nearsightedAt front token).stuck (stuck_recovering.1 read) other)

theorem nearsighted_peek {next : List Token → Reader α}
    (head : ∀ token rest other, next (token :: rest) = next (token :: other))
    (near : ∀ tokens, Nearsighted (next tokens)) : Nearsighted (ahead >>= next) where
  toPlaced := hereditary_placed.peek head fun tokens => (near tokens).toPlaced
  nearsightedAt front token := by
    have same (rest : List Token) : next (front ++ token :: rest) = next (front ++ [token]) := by
      cases front with
      | nil => exact head token rest []
      | cons first front => exact head first _ _
    refine .of_run (fun rest => ?_) ((near (front ++ [token])).nearsightedAt front token)
    rw [run_ahead_bind, same]

theorem hereditary_nearsighted : Hereditary fun _ reader => Nearsighted reader where
  pure := nearsighted_pure
  fail := nearsighted_fail
  accept? := nearsighted_accept?
  bind := Nearsighted.bind
  peek := nearsighted_peek
  recovering := Nearsighted.recovering

/-! ## Expressions -/

theorem nearsighted_further {operators : Kind → Bool} {operand : Reader Expr}
    (near : Nearsighted operand) (left : Expr) :
    Nearsighted (further operators operand left) := by
  have placed (left : Expr) : Placed (further operators operand left) := by
    refine ⟨orderly_ahead.bind fun _ => orderly_operations near.toOrderly _ _, fun tokens => ?_⟩
    rw [further, run_ahead_bind]
    exact (hereditary_placed.operations near.toPlaced tokens left).placed tokens
  refine ⟨placed left, fun front token => ?_⟩
  -- each operator and operand leave fewer tokens in front
  induction size : front.length using Nat.strongRecOn generalizing front left with
  | ind length ih =>
      have run (token : Token) (rest : List Token) :
          (further operators operand left).run (token :: rest) = _ :=
        run_further_cons near.toOrderly left token rest
      cases front with
      | nil =>
          by_cases accepted : operators token.kind = true
          · exact nearsightedAt_of_taken (near.toPlaced.bind fun _ => placed _)
              fun rest => (run token rest).trans (if_pos accepted)
          · exact nearsightedAt_of_stays fun rest => (run token rest).trans (if_neg accepted)
      | cons head front =>
          by_cases accepted : operators head.kind = true
          · refine .of_run (fun rest => (run head _).trans (if_pos accepted)) ?_
            refine .bind (near.nearsightedAt front token) near.toOrderly (fun _ => placed _) ?_
            exact fun _ between le => ih _ (size ▸ Nat.lt_succ_of_le le) _ between rfl
          · exact nearsightedAt_of_stays fun rest => (run head _).trans (if_neg accepted)

section Targets

variable {value : Reader Expr} (target : Expr)

theorem found_behindTarget_cons {expr : Expr} :
    Found true (behindTarget value target) (token :: rest) left expr ↔
      if token.kind = .itu then
        ∃ found, Found true value rest left found ∧ Grammar.assigned target found = expr
      else target = expr ∧ token :: rest = left := by
  have run := run_behindTarget_cons value target token rest
  by_cases itu : token.kind = .itu
  · rw [if_pos itu] at run ⊢
    rcases reading : value.run rest with ⟨_ | found, middle, faults⟩
    · rw [reading] at run
      constructor
      · rintro ⟨_, found, _⟩
        cases congrArg Reading.found (run.symm.trans found)
      · rintro ⟨_, ⟨_, found, _⟩, _⟩
        cases congrArg Reading.found (reading.symm.trans found)
    · rw [reading] at run
      have tolerated : Tolerated true (targetFaults (token :: rest) target) := by
        cases target <;> simp [targetFaults, Tolerated]
      constructor
      · rintro ⟨_, found, tolerated⟩
        obtain ⟨same, rfl, rfl⟩ := Reading.mk.inj (run.symm.trans found)
        exact ⟨_, ⟨faults, reading, (tolerated_append.1 tolerated).1⟩, Option.some.inj same⟩
      · rintro ⟨_, ⟨_, found, tolerated'⟩, rfl⟩
        obtain ⟨same, rfl, rfl⟩ := Reading.mk.inj (reading.symm.trans found)
        cases same
        exact ⟨_, run, tolerated_append.2 ⟨tolerated', tolerated⟩⟩
  · rw [if_neg itu] at run ⊢
    exact found_iff_of_run run

theorem stuck_behindTarget_cons {fault : SyntaxFault} :
    Stuck (behindTarget value target) (token :: rest) fault ↔
      token.kind = .itu ∧ Stuck value rest fault := by
  have run := run_behindTarget_cons value target token rest
  have tolerated :
      (targetFaults (token :: rest) target).find? (·.cause != .invalidTarget) = none := by
    cases target <;> simp [targetFaults]
  unfold Stuck
  rw [run]
  by_cases itu : token.kind = .itu
  · rw [if_pos itu, and_iff_right itu]
    rcases value.run rest with ⟨_ | found, middle, faults⟩
    · exact Iff.rfl
    · rw [List.find?_append, tolerated, Option.or_none]
  · rw [if_neg itu]
    simp [itu]

theorem placed_behindTarget (placed : Placed value) : Placed (behindTarget value target) where
  toOrderly := by
    refine orderly_ahead.bind fun _ => (orderly_accept? _).bind fun found => ?_
    cases found with
    | none => exact orderly_pure target
    | some _ =>
        refine placed.toOrderly.bind fun value => ?_
        cases target with
        | reference => exact orderly_pure _
        | _ => exact (orderly_report _).bind fun _ => orderly_pure _
  placed tokens := by
    cases tokens with
    | nil => simp [run_behindTarget_nil]
    | cons token rest =>
        rw [run_behindTarget_cons]
        split
        · have inner : ∀ fault ∈ (value.run rest).faults, fault.rest <:+ token :: rest :=
            fun fault mem => (placed.placed rest fault mem).trans (List.suffix_cons _ _)
          rcases reading : value.run rest with ⟨_ | found, middle, faults⟩
          · rwa [reading] at inner
          · rw [reading] at inner
            refine List.forall_mem_append.2 ⟨inner, ?_⟩
            cases target <;> simp [targetFaults]
        · simp

theorem nearsighted_behindTarget (near : Nearsighted value) :
    Nearsighted (behindTarget value target) where
  toPlaced := placed_behindTarget target near.toPlaced
  nearsightedAt front token := by
    have run := run_behindTarget_cons value target
    cases front with
    | nil =>
        by_cases itu : token.kind = .itu
        · constructor
          · intro left rest expr read
            rw [List.nil_append, found_behindTarget_cons, if_pos itu] at read
            obtain ⟨_, inner, _⟩ := read
            exact absurd (inner.suffix near.toOrderly) (not_suffix_behind left token rest)
          · intro rest cause read
            have inner := ((stuck_behindTarget_cons target).1 read).2
            exact absurd (near.placed rest _ inner.mem) (not_suffix_behind [] token rest)
        · exact nearsightedAt_of_stays fun rest => (run token rest).trans (if_neg itu)
    | cons head front =>
        by_cases itu : head.kind = .itu
        · constructor
          · intro left rest expr read other
            rw [List.cons_append, found_behindTarget_cons, if_pos itu] at read ⊢
            obtain ⟨found, inner, same⟩ := read
            exact ⟨found, (near.nearsightedAt front token).found inner other, same⟩
          · intro rest cause read other
            have inner := ((stuck_behindTarget_cons target).1 read).2
            exact (stuck_behindTarget_cons target).2
              ⟨itu, (near.nearsightedAt front token).stuck inner other⟩
        · exact nearsightedAt_of_stays fun rest => (run head _).trans (if_neg itu)

end Targets

theorem nearsighted_assignment {operand : Nat → Reader Expr}
    (near : ∀ room, Nearsighted (operand room)) (room : Nat) :
    Nearsighted (assignment operand room) := by
  induction room with
  | zero => exact near 0
  | succ room ih =>
      rw [assignment_succ]
      exact (near _).bind fun target => nearsighted_behindTarget target ih

theorem nearsighted_chain {operators : Kind → Bool} {operand : Reader Expr}
    (near : Nearsighted operand) : Nearsighted (chain operators operand) :=
  near.bind (nearsighted_further near)

theorem nearsighted_expressionWithin (count room : Nat) :
    Nearsighted (expressionWithin count room) := by
  induction count generalizing room with
  | zero => exact nearsighted_fail (by decide)
  | succ count ih =>
      unfold expressionWithin
      split
      · exact nearsighted_fail (by decide)
      · refine nearsighted_assignment (fun room => ?_) _
        have unary := hereditary_nearsighted.unary (hereditary_nearsighted.primary ih) room
        exact nearsighted_chain (nearsighted_chain (nearsighted_chain (nearsighted_chain unary)))

/-! ## Programs -/

theorem nearsighted_statements (room : Nat) (inBlock : Bool) (count : Nat) :
    Nearsighted (statements room inBlock count) :=
  hereditary_nearsighted.statements (fun room => nearsighted_expressionWithin room room) room
    inBlock count

/-- What a program is first stuck at depends on nothing behind that token. -/
theorem stuck_lines {room : Nat} {inBlock : Bool} {cause : SyntaxCause}
    (stuck : Stuck (lines room inBlock) (front ++ token :: rest) ⟨cause, token :: rest⟩)
    (other : List Token) :
    Stuck (lines room inBlock) (front ++ token :: other) ⟨cause, token :: other⟩ := by
  -- one count is large enough for both texts
  let count := (front ++ token :: (rest ++ other)).length + 1
  have agrees (behind : List Token) (le : behind.length ≤ (rest ++ other).length) :
      (statements room inBlock count).run (front ++ token :: behind) =
        (lines room inBlock).run (front ++ token :: behind) := by
    refine statements_agrees room inBlock (Nat.lt_succ_self _) _ ?_
    simpa using le
  have bounded := (stuck_congr (agrees rest (by simp))).2 stuck
  have near := (nearsighted_statements room inBlock count).nearsightedAt front token
  exact (stuck_congr (agrees other (by simp))).1 (near.stuck bounded other)

end BilingualScript.Reader
