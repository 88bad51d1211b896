import BilingualScript.Proofs.Reading.Progress

/-!
# What readers inherit

The readers of statements are put together from those of expressions by a few operations.  So a
property that these operations keep holds of a whole program's reader if it holds of expressions.
-/

namespace BilingualScript.Reader

/-- A property that readers inherit from those of which they are made. -/
structure Compositional (P : ∀ α : Type, Reader α → Prop) : Prop where
  pure : ∀ {α : Type} (value : α), P α (pure value)
  fail : ∀ {α : Type} {cause : SyntaxCause}, cause ≠ .invalidTarget → P α (fail cause)
  accept? : ∀ wanted : Kind → Bool, P (Option Token) (accept? wanted)
  bind : ∀ {α β : Type} {reader : Reader α} {next : α → Reader β}, P α reader →
    (∀ value, P β (next value)) → P β (reader >>= next)
  /-- Of the tokens that are left, no more than the first may decide how reading goes on. -/
  peek : ∀ {α : Type} {next : List Token → Reader α},
    (∀ token rest other, next (token :: rest) = next (token :: other)) →
    (∀ tokens, P α (next tokens)) → P α (ahead >>= next)

/-- A property that giving up a statement keeps, too, so that readers of programs inherit it. -/
structure Hereditary (P : ∀ α : Type, Reader α → Prop) : Prop extends Compositional P where
  recovering : ∀ {α : Type} {reader : Reader α}, P α reader → P (Option α) (recovering reader)

namespace Compositional

variable {P : ∀ α : Type, Reader α → Prop} (compositional : Compositional P)

include compositional

theorem map {α β : Type} {reader : Reader α} (inherited : P α reader) (f : α → β) :
    P β (f <$> reader) :=
  compositional.bind inherited fun _ => compositional.pure _

theorem expect {cause : SyntaxCause} (counts : cause ≠ .invalidTarget) (kind : Kind) :
    P Token (expect kind cause) := by
  refine compositional.bind (compositional.accept? _) fun found => ?_
  cases found with
  | none => exact compositional.fail counts
  | some token => exact compositional.pure token

theorem expectEnd {cause : SyntaxCause} (counts : cause ≠ .invalidTarget) :
    P Unit (expectEnd cause) := by
  refine compositional.peek (fun _ _ _ => rfl) fun tokens => ?_
  split
  · exact compositional.pure ()
  · exact compositional.bind (compositional.expect counts _) fun _ => compositional.pure ()

/-! ## Expressions -/

section Expressions

variable {operand : Nat → Reader Expr}

theorem unary (inherited : ∀ room, P Expr (operand room)) (room : Nat) :
    P Expr (unary operand room) := by
  induction room with
  | zero =>
      exact compositional.bind (compositional.accept? _) fun _ => compositional.fail (by decide)
  | succ room ih =>
      refine compositional.bind (compositional.accept? _) fun found => ?_
      cases found with
      | none => exact inherited _
      | some operator => exact compositional.bind ih fun _ => compositional.pure _

theorem primary (inherited : ∀ room, P Expr (operand room)) (room : Nat) :
    P Expr (primary operand room) := by
  refine compositional.bind (compositional.accept? _) fun found => ?_
  cases found with
  | none => exact compositional.fail (missing_ne_invalidTarget room)
  | some token =>
      dsimp only
      split
      case h_5 =>
        exact compositional.bind (inherited room) fun _ =>
          compositional.bind (compositional.expect (by decide) _) fun _ => compositional.pure _
      all_goals exact compositional.pure _

theorem operations {operators : Kind → Bool} {operand : Reader Expr} (inherited : P Expr operand)
    (bound : List Token) (left : Expr) : P Expr (operations operators operand bound left) := by
  induction bound generalizing left with
  | nil => exact compositional.pure left
  | cons _ bound ih =>
      refine compositional.bind (compositional.accept? _) fun found => ?_
      cases found with
      | none => exact compositional.pure left
      | some operator => exact compositional.bind inherited fun right => ih _

end Expressions

/-! ## Statements -/

section Statements

variable (expressions : ∀ room, P Expr (expression room))

include expressions

theorem declaration (room : Nat) : P Stmt (declaration room) := by
  refine compositional.bind (compositional.expect (by decide) _) fun name =>
    compositional.bind (compositional.accept? _) fun found => ?_
  cases found with
  | none =>
      exact compositional.bind (compositional.pure _) fun _ =>
        compositional.bind (compositional.expectEnd (by decide)) fun _ => compositional.pure _
  | some _ =>
      exact compositional.bind (compositional.map (expressions _) some) fun _ =>
        compositional.bind (compositional.expectEnd (by decide)) fun _ => compositional.pure _

theorem spill (room : Nat) : P Stmt (spill room) :=
  compositional.bind (expressions room) fun _ =>
    compositional.bind (compositional.expectEnd (by decide)) fun _ => compositional.pure _

theorem expressionStatement (room : Nat) : P Stmt (expressionStatement room) :=
  compositional.bind (expressions room) fun _ =>
    compositional.bind (compositional.expectEnd (by decide)) fun _ => compositional.pure _

variable {block : Reader (List Stmt)} (blocks : P (List Stmt) block)

include blocks

theorem otherwise (room count : Nat) : P Otherwise (otherwise room block count) := by
  induction count with
  | zero => exact compositional.pure _
  | succ count ih =>
      refine compositional.bind (compositional.accept? _) fun found => ?_
      cases found with
      | none => exact compositional.pure _
      | some token =>
          dsimp only
          split
          · exact compositional.bind (expressions room) fun _ => compositional.bind blocks fun _ =>
              compositional.bind ih fun _ => compositional.pure _
          · exact compositional.bind blocks fun _ => compositional.pure _

theorem kalo (room count : Nat) : P Stmt (kalo room block count) :=
  compositional.bind (expressions room) fun _ => compositional.bind blocks fun _ =>
    compositional.bind (compositional.otherwise expressions blocks room count) fun _ =>
      compositional.bind (compositional.expect (by decide) _) fun _ =>
        compositional.bind (compositional.expectEnd (by decide)) fun _ => compositional.pure _

theorem statement (room count : Nat) : P Stmt (statement room block count) := by
  refine compositional.bind (compositional.accept? _) fun found => ?_
  cases found with
  | none => exact compositional.expressionStatement expressions room
  | some token =>
      dsimp only
      split
      · exact compositional.declaration expressions room
      · exact compositional.kalo expressions blocks room count
      · exact compositional.spill expressions room

end Statements

end Compositional

theorem Hereditary.statements {P : ∀ α : Type, Reader α → Prop} (hereditary : Hereditary P)
    (expressions : ∀ room, P Expr (expression room)) (room : Nat) (inBlock : Bool) (count : Nat) :
    P (List (Option Stmt)) (statements room inBlock count) := by
  induction count generalizing room inBlock with
  | zero => exact hereditary.pure _
  | succ count ih =>
      refine hereditary.peek (fun _ _ _ => rfl) fun tokens => ?_
      cases tokens with
      | nil => exact hereditary.pure _
      | cons token _ =>
          dsimp only
          split
          · exact hereditary.bind (hereditary.accept? _) fun _ => ih room inBlock
          · split
            · exact hereditary.pure _
            · have block : P (List Stmt) (boundedBlock room count) :=
                hereditary.bind (hereditary.expect (by decide) _) fun _ =>
                  hereditary.bind (ih _ true) fun _ => hereditary.pure _
              exact hereditary.bind
                (hereditary.recovering (hereditary.statement expressions block room count))
                fun _ => hereditary.bind (ih room inBlock) fun _ => hereditary.pure _

end BilingualScript.Reader
