import BilingualScript.Proofs.Reading.Grammar
import BilingualScript.Proofs.Reading.Unbounded

/-!
# Expressions end at newlines

No expression goes on behind a newline.  So it is read alike whether a newline or the end of the
text stands behind it, whatever mistakes there are in it.
-/

namespace BilingualScript

variable {α β : Type}

/-! ## Tokens behind -/

def SyntaxFault.before (tail : List Token) (fault : SyntaxFault) : SyntaxFault :=
  ⟨fault.cause, fault.rest ++ tail⟩

def Reading.before (tail : List Token) (reading : Reading α) : Reading α :=
  ⟨reading.found, reading.rest ++ tail, reading.faults.map (SyntaxFault.before tail)⟩

namespace Reader

/-- A reader reads tokens alike with and without a tail behind them, and it meets its faults among
these tokens or at their end. -/
structure ConfinedTo (tail : List Token) (reader : Reader α) (tokens : List Token) : Prop where
  before : reader.run (tokens ++ tail) = (reader.run tokens).before tail
  placed : ∀ fault ∈ (reader.run tokens).faults, fault.rest <:+ tokens

structure Confined (tail : List Token) (reader : Reader α) : Prop extends Orderly reader where
  confinedTo : ∀ tokens, ConfinedTo tail reader tokens

section Confined

variable {tail tokens rest : List Token}

theorem ConfinedTo.run_append {reader : Reader α} {found : Option α} {faults : List SyntaxFault}
    (confined : ConfinedTo tail reader tokens) (run : reader.run tokens = ⟨found, rest, faults⟩) :
    reader.run (tokens ++ tail) =
      ⟨found, rest ++ tail, faults.map (SyntaxFault.before tail)⟩ := by
  rw [confined.before, run]
  rfl

theorem ConfinedTo.of_run {reader other : Reader α} {fewer : List Token}
    (suffix : fewer <:+ tokens) (run : reader.run tokens = other.run fewer)
    (run_append : reader.run (tokens ++ tail) = other.run (fewer ++ tail))
    (confined : ConfinedTo tail other fewer) : ConfinedTo tail reader tokens where
  before := by rw [run, run_append, confined.before]
  placed := by
    rw [run]
    exact fun fault mem => (confined.placed fault mem).trans suffix

theorem ConfinedTo.bind {reader : Reader α} {next : α → Reader β} (orderly : Orderly reader)
    (first : ConfinedTo tail reader tokens)
    (second : ∀ value, ConfinedTo tail (next value) (reader.run tokens).rest) :
    ConfinedTo tail (reader >>= next) tokens := by
  rcases reading : reader.run tokens with ⟨found, middle, faults⟩
  have reading' := first.run_append reading
  have placed := first.placed
  have left := orderly.suffix tokens
  rw [reading] at placed left second
  cases found with
  | none =>
      constructor
      · rw [run_bind_of_failed reading, run_bind_of_failed reading']
        rfl
      · rwa [run_bind_of_failed reading]
  | some value =>
      constructor
      · rw [run_bind_of_found reading, run_bind_of_found reading', (second value).before]
        simp [Reading.before]
      · rw [run_bind_of_found reading]
        exact List.forall_mem_append.2
          ⟨placed, fun fault mem => ((second value).placed fault mem).trans left⟩

theorem confined_pure (value : α) : Confined tail (pure value) where
  toOrderly := orderly_pure value
  confinedTo _ := ⟨rfl, by simp⟩

theorem confined_fail {cause : SyntaxCause} (counts : cause ≠ .invalidTarget) :
    Confined tail (fail cause : Reader α) where
  toOrderly := orderly_fail counts
  confinedTo _ := ⟨rfl, by simp⟩

theorem Confined.bind {reader : Reader α} {next : α → Reader β} (first : Confined tail reader)
    (second : ∀ value, Confined tail (next value)) : Confined tail (reader >>= next) where
  toOrderly := first.toOrderly.bind fun value => (second value).toOrderly
  confinedTo tokens := .bind first.toOrderly (first.confinedTo tokens)
    fun value => (second value).confinedTo _

theorem Confined.map {reader : Reader α} (confined : Confined tail reader) (f : α → β) :
    Confined tail (f <$> reader) :=
  confined.bind fun _ => confined_pure _

end Confined

/-! ## Expressions -/

def behindTarget (value : Reader Expr) (target : Expr) : Reader Expr := do
  let fromItu ← ahead
  match ← accept? (· == .itu) with
  | none => pure target
  | some _ =>
    let value ← value
    match target with
    | .reference name => pure (.assign name value)
    | _ =>
      report ⟨.invalidTarget, fromItu⟩
      pure target

theorem assignment_succ (operand : Nat → Reader Expr) (room : Nat) :
    assignment operand (room + 1) =
      operand (room + 1) >>= behindTarget (assignment operand room) := rfl

def targetFaults (fromItu : List Token) : Expr → List SyntaxFault
  | .reference _ => []
  | _ => [⟨.invalidTarget, fromItu⟩]

theorem run_behindTarget_nil (value : Reader Expr) (target : Expr) :
    (behindTarget value target).run [] = ⟨some target, [], []⟩ := by
  simp [behindTarget, run_bind]

theorem run_behindTarget_cons (value : Reader Expr) (target : Expr) (token : Token)
    (rest : List Token) :
    (behindTarget value target).run (token :: rest) =
      if token.kind = .itu then
        match value.run rest with
        | ⟨some value, left, faults⟩ =>
          ⟨some (Grammar.assigned target value), left,
            faults ++ targetFaults (token :: rest) target⟩
        | ⟨none, left, faults⟩ => ⟨none, left, faults⟩
      else ⟨some target, token :: rest, []⟩ := by
  rw [behindTarget, run_ahead_bind, run_accept?_bind_cons]
  by_cases itu : token.kind = .itu
  · rw [if_pos itu, if_pos (by simp [itu])]
    rcases reading : value.run rest with ⟨_ | found, left, faults⟩
    · rw [run_bind_of_failed reading]
    · rw [run_bind_of_found reading]
      cases target <;> simp [run_bind, Grammar.assigned, targetFaults]
  · rw [if_neg itu, if_neg (by simpa using itu)]
    rfl

section Newline

variable {newline : Token} {behind : List Token} (kind : newline.kind = .newline)

include kind

theorem confined_accept? {wanted : Kind → Bool} (unwanted : wanted .newline = false) :
    Confined (newline :: behind) (accept? wanted) where
  toOrderly := orderly_accept? wanted
  confinedTo tokens := by
    cases tokens with
    | nil => constructor <;> simp [Reading.before, kind, unwanted]
    | cons token rest =>
        by_cases fits : wanted token.kind = true <;> constructor <;> simp [Reading.before, fits]

theorem confined_expect {wanted : Kind} {cause : SyntaxCause} (counts : cause ≠ .invalidTarget)
    (differs : wanted ≠ .newline) : Confined (newline :: behind) (expect wanted cause) := by
  have unwanted : (Kind.newline == wanted) = false := by simpa using differs.symm
  refine (confined_accept? kind unwanted).bind fun found => ?_
  cases found with
  | none => exact confined_fail counts
  | some token => exact confined_pure token

theorem confined_further {operators : Kind → Bool} {operand : Reader Expr}
    (unwanted : operators .newline = false) (confined : Confined (newline :: behind) operand)
    (left : Expr) : Confined (newline :: behind) (further operators operand left) where
  toOrderly := orderly_ahead.bind fun _ => orderly_operations confined.toOrderly _ _
  confinedTo tokens := by
    -- each operator and operand leave fewer tokens for those behind them
    induction size : tokens.length using Nat.strongRecOn generalizing tokens left with
    | ind length ih =>
        cases tokens with
        | nil =>
            constructor
            · rw [List.nil_append, run_further_cons confined.toOrderly, kind, unwanted]
              rfl
            · simp
        | cons token tokens =>
            have run (rest : List Token) : (further operators operand left).run (token :: rest) =
                if operators token.kind then (operand >>= fun right =>
                  further operators operand (.binary left token right)).run rest
                else ⟨some left, token :: rest, []⟩ :=
              run_further_cons confined.toOrderly left token rest
            by_cases accepted : operators token.kind = true
            · simp only [if_pos accepted] at run
              refine .of_run (List.suffix_cons token tokens) (run tokens) (run _) ?_
              refine .bind confined.toOrderly (confined.confinedTo tokens) fun right => ?_
              have shorter := confined.length_le tokens
              simp only [List.length_cons] at size
              exact ih _ (by omega) _ _ rfl
            · simp only [if_neg accepted] at run
              constructor
              · rw [List.cons_append, run, run]
                rfl
              · simp [run]

theorem confined_chain {operators : Kind → Bool} {operand : Reader Expr}
    (unwanted : operators .newline = false) (confined : Confined (newline :: behind) operand) :
    Confined (newline :: behind) (chain operators operand) :=
  confined.bind (confined_further kind unwanted confined)

theorem confined_unary {operand : Nat → Reader Expr}
    (confined : ∀ room, Confined (newline :: behind) (operand room)) (room : Nat) :
    Confined (newline :: behind) (unary operand room) := by
  induction room with
  | zero => exact (confined_accept? kind rfl).bind fun _ => confined_fail (by decide)
  | succ room ih =>
      refine (confined_accept? kind rfl).bind fun found => ?_
      cases found with
      | none => exact confined _
      | some operator => exact ih.bind fun _ => confined_pure _

theorem confined_primary {expression : Nat → Reader Expr} {room : Nat}
    (confined : Confined (newline :: behind) (expression room)) :
    Confined (newline :: behind) (primary expression room) := by
  refine (confined_accept? kind rfl).bind fun found => ?_
  cases found with
  | none => exact confined_fail (missing_ne_invalidTarget room)
  | some token =>
      dsimp only
      split
      case h_5 =>
        exact confined.bind fun _ => (confined_expect kind (by decide) (by decide)).bind fun _ =>
          confined_pure _
      all_goals exact confined_pure _

/-- A value behind a target is read alike.  The fault of a target that is no name is placed at the
`itu`, so that it keeps all tokens from there on. -/
theorem confinedTo_behindTarget {value : Reader Expr} {tokens : List Token} (target : Expr)
    (confined : Confined (newline :: behind) value) :
    ConfinedTo (newline :: behind) (behindTarget value target) tokens := by
  cases tokens with
  | nil =>
      have other : newline.kind ≠ .itu := by simp [kind]
      constructor <;> simp [run_behindTarget_cons, run_behindTarget_nil, Reading.before, other]
  | cons token rest =>
      by_cases itu : token.kind = .itu
      · rcases reading : value.run rest with ⟨found, behind, faults⟩
        have reading' := (confined.confinedTo rest).run_append reading
        have placed := (confined.confinedTo rest).placed
        rw [reading] at placed
        have placed' : ∀ fault ∈ faults, fault.rest <:+ token :: rest := fun fault mem =>
          (placed fault mem).trans (List.suffix_cons token rest)
        constructor
        · rw [List.cons_append, run_behindTarget_cons, run_behindTarget_cons, if_pos itu,
            if_pos itu, reading, reading']
          cases found with
          | none => rfl
          | some value => cases target <;> simp [Reading.before, targetFaults, SyntaxFault.before]
        · rw [run_behindTarget_cons, if_pos itu, reading]
          cases found with
          | none => exact placed'
          | some value =>
              refine List.forall_mem_append.2 ⟨placed', ?_⟩
              cases target <;> simp [targetFaults]
      · constructor <;> simp [run_behindTarget_cons, Reading.before, itu]

theorem confined_assignment {operand : Nat → Reader Expr}
    (confined : ∀ room, Confined (newline :: behind) (operand room)) (room : Nat) :
    Confined (newline :: behind) (assignment operand room) := by
  induction room with
  | zero => exact confined 0
  | succ room ih =>
      refine ⟨orderly_assignment (fun room => (confined room).toOrderly) _, fun tokens => ?_⟩
      rw [assignment_succ]
      exact .bind (confined _).toOrderly ((confined _).confinedTo tokens) fun target =>
        confinedTo_behindTarget kind target ih

theorem confined_expressionWithin (count room : Nat) :
    Confined (newline :: behind) (expressionWithin count room) := by
  induction count generalizing room with
  | zero => exact confined_fail (by decide)
  | succ count ih =>
      unfold expressionWithin
      split
      · exact confined_fail (by decide)
      · refine confined_assignment kind (fun room => ?_) _
        have unary := confined_unary kind (fun room => confined_primary kind (ih room)) room
        exact confined_chain kind rfl (confined_chain kind rfl
          (confined_chain kind rfl (confined_chain kind rfl unary)))

theorem confined_expression (room : Nat) : Confined (newline :: behind) (expression room) :=
  confined_expressionWithin kind room room

end Newline

end Reader

end BilingualScript
