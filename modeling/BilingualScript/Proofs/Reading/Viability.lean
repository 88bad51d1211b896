import BilingualScript.Proofs.Reading.Balance
import BilingualScript.Proofs.Reading.Confinement
import BilingualScript.Proofs.Reading.Lookahead
import BilingualScript.Proofs.Reading.Soundness

/-!
# Phrases under way

Where a reader is stuck for another reason than want of room, the tokens that it has taken can be
continued, so that a phrase of the grammar that allows all targets stands there.
-/

namespace BilingualScript

def Kind.sample (kind : Kind) : Token := ⟨kind, "", .hampa, .start⟩

namespace Grammar

variable {α β : Type} {front : List Token}

/-- With some tokens behind it, what has been read is a phrase, whatever stands behind those. -/
def Opens (phrase : List Token → List Token → α → Prop) (front : List Token) : Prop :=
  ∃ more value, ∀ rest, phrase (front ++ (more ++ rest)) rest value

theorem Opens.map {phrase : List Token → List Token → α → Prop}
    {phrase' : List Token → List Token → β → Prop} (opens : Opens phrase front)
    (f : α → β) (closing : List Token)
    (step : ∀ tokens rest value, phrase tokens (closing ++ rest) value →
      phrase' tokens rest (f value)) : Opens phrase' front := by
  obtain ⟨more, value, opens⟩ := opens
  refine ⟨more ++ closing, f value, fun rest => step _ _ _ ?_⟩
  rw [List.append_assoc]
  exact opens _

theorem Opens.behind {phrase : List Token → List Token → α → Prop} {words : List Token}
    (opens : Opens (fun tokens => phrase (words ++ tokens)) front) :
    Opens phrase (words ++ front) := by
  obtain ⟨more, value, opens⟩ := opens
  exact ⟨more, value, fun rest => by simpa only [List.append_assoc] using opens rest⟩

theorem opens_primary : Opens (Phrase true .primary) [] :=
  ⟨[Kind.ril.sample], _, fun _ => .ril rfl⟩

end Grammar

namespace Reader

open Grammar

variable {α β γ : Type} {tokens : List Token}

/-- Where a reader is stuck at some tokens, what it has taken opens a phrase. -/
def UnderwayAt (reader : Reader α) (phrase : List Token → List Token → β → Prop)
    (tokens : List Token) : Prop :=
  ∀ fault, Stuck reader tokens fault → fault.cause ≠ .tooDeep →
    ∃ front, tokens = front ++ fault.rest ∧ Opens phrase front

section UnderwayAt

variable {reader : Reader α} {phrase : List Token → List Token → β → Prop}

theorem UnderwayAt.map {phrase' : List Token → List Token → γ → Prop}
    (under : UnderwayAt reader phrase tokens) (f : β → γ) (closing : List Token)
    (step : ∀ tokens rest value, phrase tokens (closing ++ rest) value →
      phrase' tokens rest (f value)) : UnderwayAt reader phrase' tokens := by
  intro fault stuck shallow
  obtain ⟨front, same, opens⟩ := under fault stuck shallow
  exact ⟨front, same, opens.map f closing step⟩

theorem UnderwayAt.mono {phrase' : List Token → List Token → β → Prop}
    (under : UnderwayAt reader phrase tokens)
    (step : ∀ tokens rest value, phrase tokens rest value → phrase' tokens rest value) :
    UnderwayAt reader phrase' tokens :=
  under.map id [] step

theorem underwayAt_of_found {rest : List Token} {value : α}
    (found : Found true reader tokens rest value) : UnderwayAt reader phrase tokens :=
  fun _ stuck => absurd stuck found.not_stuck

theorem underwayAt_pure (value : α) : UnderwayAt (pure value) phrase tokens :=
  underwayAt_of_found (found_of_run (run_pure value tokens))

theorem underwayAt_tooDeep : UnderwayAt (fail .tooDeep : Reader α) phrase tokens := by
  intro fault stuck shallow
  obtain ⟨_, rfl⟩ := stuck_fail.1 stuck
  exact absurd rfl shallow

theorem UnderwayAt.of_run {other : Reader γ} (words : List Token)
    (run : ∀ fault, Stuck reader (words ++ tokens) fault → Stuck other tokens fault)
    (under : UnderwayAt other (fun others => phrase (words ++ others)) tokens) :
    UnderwayAt reader phrase (words ++ tokens) := by
  intro fault stuck shallow
  obtain ⟨front, rfl, opens⟩ := under fault (run fault stuck) shallow
  exact ⟨words ++ front, (List.append_assoc _ _ _).symm, opens.behind⟩

theorem UnderwayAt.bind {next : α → Reader γ} (first : UnderwayAt reader phrase tokens)
    (second : ∀ value middle, Found true reader tokens middle value →
      ∃ front, tokens = front ++ middle ∧
        UnderwayAt (next value) (fun others => phrase (front ++ others)) middle) :
    UnderwayAt (reader >>= next) phrase tokens := by
  intro fault stuck shallow
  rcases stuck_bind.1 stuck with early | ⟨value, middle, found, later⟩
  · exact first fault early shallow
  · obtain ⟨words, same, under⟩ := second value middle found
    obtain ⟨front, rfl, opens⟩ := under fault later shallow
    exact ⟨words ++ front, by rw [same, List.append_assoc], opens.behind⟩

theorem UnderwayAt.bind_pure (first : UnderwayAt reader phrase tokens) (f : α → γ) :
    UnderwayAt (reader >>= fun value => pure (f value)) phrase tokens := by
  intro fault stuck shallow
  rcases stuck_bind.1 stuck with stuck | ⟨_, _, _, stuck⟩
  · exact first fault stuck shallow
  · exact absurd stuck not_stuck_pure

theorem underwayAt_expect {kind : Kind} {cause : SyntaxCause} (opens : Opens phrase []) :
    UnderwayAt (expect kind cause) phrase tokens :=
  fun _ stuck _ => ⟨[], stuck.rest_of_expect.symm, opens⟩

theorem underwayAt_expectEnd {cause : SyntaxCause} (opens : Opens phrase []) :
    UnderwayAt (expectEnd cause) phrase tokens :=
  fun _ stuck _ => ⟨[], stuck.rest_of_expectEnd.1.symm, opens⟩

theorem underwayAt_accept?_bind {wanted : Kind → Bool} {next : Option Token → Reader α}
    (none : (∀ token ∈ tokens.head?, wanted token.kind = false) →
      UnderwayAt (next none) phrase tokens)
    (some : ∀ token rest, tokens = token :: rest → wanted token.kind = true →
      UnderwayAt (next (some token)) (fun others => phrase (token :: others)) rest) :
    UnderwayAt (accept? wanted >>= next) phrase tokens := by
  cases tokens with
  | nil => exact fun fault stuck => none (by simp) fault (stuck_accept?_bind_nil.1 stuck)
  | cons token rest =>
      by_cases fits : wanted token.kind = true
      · exact .of_run [token] (fun _ => (stuck_accept?_bind_of_wanted fits).1) (some _ _ rfl fits)
      · rw [Bool.not_eq_true] at fits
        exact fun fault stuck =>
          none (by simpa using fits) fault ((stuck_accept?_bind_of_unwanted fits).1 stuck)

end UnderwayAt

/-! ## Expressions -/

def Underway (reader : Reader Expr) (form : Form) : Prop :=
  ∀ tokens, UnderwayAt reader (Phrase true form) tokens

theorem underway_primary {room : Nat} (under : Underway (expression room) .assignment) :
    Underway (primary expression room) .primary := by
  intro tokens
  refine underwayAt_accept?_bind (fun _ => ?_) fun token rest _ _ => ?_
  · intro fault stuck _
    obtain ⟨_, rfl⟩ := stuck_fail.1 stuck
    exact ⟨[], rfl, opens_primary⟩
  · dsimp only
    split
    case h_5 =>
      next kind =>
      refine .bind ((under rest).map .grouping [Kind.rightParen.sample] fun _ _ _ phrase =>
        .grouping kind phrase rfl) fun inner middle found => ?_
      obtain ⟨front, same, _, framed⟩ := (expression_yields found).1.frame
      refine ⟨front, same, .bind_pure (underwayAt_expect ?_) _⟩
      exact ⟨[Kind.rightParen.sample], _, fun rest => .grouping kind (framed _) rfl⟩
    all_goals exact underwayAt_pure _

theorem underway_unary {operand : Nat → Reader Expr} {room : Nat}
    (under : ∀ less ≤ room, Underway (operand less) .primary) :
    Underway (unary operand room) .unary := by
  induction room with
  | zero =>
      exact fun _ => underwayAt_accept?_bind (fun _ => underwayAt_tooDeep) fun _ _ _ _ =>
        underwayAt_tooDeep
  | succ room ih =>
      intro tokens
      refine underwayAt_accept?_bind (fun _ => ?_) fun token rest _ negation => ?_
      · exact (under _ (Nat.le_refl _) tokens).mono fun _ _ _ => .primary
      · refine .bind_pure ?_ _
        exact (ih (fun less le => under less (Nat.le_succ_of_le le)) rest).map (.unary token) []
          fun _ _ _ => .unary ((isNegation_iff _).1 negation)

section Chains

variable {level : Chain} {operand : Reader Expr} {room : Nat}

theorem underway_further (orderly : Orderly operand)
    (yields : Yields true operand level.operand room) (under : Underway operand level.operand)
    (left : Expr) : Underway (further level.accepts operand left) (.further level left) := by
  intro tokens
  -- each operator and operand leave fewer tokens for those behind them
  induction size : tokens.length using Nat.strongRecOn generalizing tokens left with
  | ind length ih =>
      cases tokens with
      | nil => exact underwayAt_of_found (found_of_run (run_further_nil left))
      | cons token tokens =>
          have run := level.run_further_cons orderly left token tokens
          by_cases accepted : level.accepts token.kind = true
          · rw [if_pos accepted] at run
            refine .of_run [token] (fun _ => (stuck_congr run).1) ?_
            have operator := (level.accepts_iff _).1 accepted
            refine .bind ((under tokens).map (.binary left token) [] fun _ _ _ phrase =>
              .further operator phrase .last) fun right middle found => ?_
            obtain ⟨front, same, _, framed⟩ := (yields _ _ _ found).1.frame
            have shorter : middle.length < length :=
              size ▸ Nat.lt_succ_of_le (found.suffix orderly).length_le
            exact ⟨front, same, (ih _ shorter _ middle rfl).mono fun _ _ _ phrase =>
              .further operator (framed _) phrase⟩
          · rw [if_neg accepted] at run
            exact underwayAt_of_found (found_of_run run)

theorem underway_chain (level : Chain) (orderly : Orderly operand)
    (yields : Yields true operand level.operand room) (under : Underway operand level.operand) :
    Underway (chain level.accepts operand) (.operands level) := by
  intro tokens
  rw [chain_eq]
  refine .bind ((under tokens).mono fun _ _ _ phrase => .operands phrase .last)
    fun first middle found => ?_
  obtain ⟨front, same, _, framed⟩ := (yields _ _ _ found).1.frame
  exact ⟨front, same, (underway_further orderly yields under first middle).mono
    fun _ _ _ phrase => .operands (framed _) phrase⟩

end Chains

theorem underway_operand {room : Nat}
    (yields : Yields true (unary (primary expression) room) .unary room)
    (under : Underway (unary (primary expression) room) .unary) :
    Underway (operand room) (.operands .equality) := by
  have orderly := fun level : Chain => level.orderly_operandReader room
  have product := yields_chain .product (orderly .product) yields
  have sum := yields_chain .sum (orderly .sum) product
  have comparison := yields_chain .comparison (orderly .comparison) sum
  have product' := underway_chain .product (orderly .product) yields under
  have sum' := underway_chain .sum (orderly .sum) product product'
  have comparison' := underway_chain .comparison (orderly .comparison) sum sum'
  exact underway_chain .equality (orderly .equality) comparison comparison'

theorem underway_assignment {operand : Nat → Reader Expr} {room : Nat}
    (yields : ∀ less ≤ room, Yields true (operand less) (.operands .equality) less)
    (under : ∀ less ≤ room, Underway (operand less) (.operands .equality)) :
    Underway (assignment operand room) .assignment := by
  induction room with
  | zero => exact fun tokens => (under 0 (Nat.le_refl 0) tokens).mono fun _ _ _ => .equality
  | succ room ih =>
      intro tokens
      rw [assignment_succ]
      refine .bind ((under _ (Nat.le_refl _) tokens).mono fun _ _ _ => .equality)
        fun target middle found => ?_
      obtain ⟨front, same, _, framed⟩ := (yields _ (Nat.le_refl _) _ _ _ found).1.frame
      refine ⟨front, same, ?_⟩
      cases middle with
      | nil =>
          have run := run_behindTarget_nil (assignment operand room) target
          exact underwayAt_of_found (found_of_run run)
      | cons token middle =>
          by_cases itu : token.kind = .itu
          · have under' := ih (fun less le => yields less (Nat.le_succ_of_le le))
              (fun less le => under less (Nat.le_succ_of_le le)) middle
            refine .of_run [token] (fun _ stuck => ((stuck_behindTarget_cons target).1 stuck).2) ?_
            exact under'.map (assigned target) [] fun _ _ _ phrase =>
              .assignment (framed _) itu phrase (.inl rfl)
          · have run := run_behindTarget_cons (assignment operand room) target token middle
            rw [if_neg itu] at run
            exact underwayAt_of_found (found_of_run run)

theorem underway_whole (room : Nat) : Underway (assignment operand room) .assignment := by
  induction room using Nat.strongRecOn with
  | ind room ih =>
      have expressions : ∀ less ≤ room, Underway (expression less) .assignment := by
        intro less le tokens
        rw [expression_eq]
        split
        · exact underwayAt_tooDeep
        · next enough =>
          refine ih _ ?_ tokens
          unfold expressionRoom at *
          omega
      have primaries : ∀ less ≤ room, Underway (primary expression less) .primary :=
        fun less le => underway_primary (expressions less le)
      have yields : ∀ less, 0 < less → less ≤ room →
          Yields true (primary expression less) .primary less := fun less pos _ =>
        yields_primary (fun _ _ _ => expression_yields) pos
      have unaries : ∀ less ≤ room, Yields true (unary (primary expression) less) .unary less :=
        fun less le => yields_unary fun inner pos inner_le => yields inner pos (by omega)
      exact underway_assignment (fun less le => yields_operand (unaries less le)) fun less le =>
        underway_operand (unaries less le) (underway_unary fun inner inner_le =>
          primaries inner (Nat.le_trans inner_le le))

theorem underway_expression (room : Nat) : Underway (expression room) .assignment := by
  intro tokens
  rw [expression_eq]
  split
  · exact underwayAt_tooDeep
  · exact underway_whole _ tokens

theorem underwayAt_expression_bind {room : Nat} {next : Expr → Reader γ}
    {phrase : List Token → List Token → β → Prop} (f : Expr → β) (closing : List Token)
    (step : ∀ tokens rest value, Phrase true .assignment tokens (closing ++ rest) value →
      phrase tokens rest (f value))
    (behind : ∀ value front middle, tokens = front ++ middle →
      (∀ other, Phrase true .assignment (front ++ other) other value) →
        UnderwayAt (next value) (fun others => phrase (front ++ others)) middle) :
    UnderwayAt (expression room >>= next) phrase tokens := by
  refine .bind ((underway_expression room tokens).map f closing step) fun value middle found => ?_
  obtain ⟨front, same, _, framed⟩ := (expression_yields found).1.frame
  exact ⟨front, same, behind value front middle same framed⟩

end Reader

end BilingualScript
