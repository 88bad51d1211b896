import BilingualScript.Proofs.Reading.Outcome

/-!
# Nesting

How much room the tree of a phrase needs to be read, and the readers of the phrases for some room.
-/

namespace BilingualScript

open Reader

/-! ## Room -/

/-- The room in which an expression can be read, apart from what it takes as a whole. -/
def Expr.nesting : Expr → Nat
  | .literal _ | .reference _ => 1
  | .grouping inner => inner.nesting + expressionRoom
  | .unary _ operand => operand.nesting + 1
  | .binary left _ right => max left.nesting right.nesting
  | .assign _ value => value.nesting + 1

theorem Expr.nesting_pos (expr : Expr) : 0 < expr.nesting := by
  induction expr with
  | literal | reference => exact Nat.one_pos
  | grouping _ ih => exact Nat.add_pos_left ih _
  | unary | assign => exact Nat.succ_pos _
  | binary left _ _ ih _ => exact Nat.lt_of_lt_of_le ih (Nat.le_max_left _ _)

mutual

def Stmt.nesting : Stmt → Nat
  | .expression value | .spill value => value.nesting + expressionRoom
  | .declare _ (some value) => value.nesting + expressionRoom - 1
  | .declare _ none => 0
  | .kalo condition body otherwise =>
    max (condition.nesting + expressionRoom)
      (max (Block.nesting body + blockRoom) otherwise.nesting)

def Otherwise.nesting : Otherwise → Nat
  | .nothing => 0
  | .kalogak body => Block.nesting body + blockRoom
  | .perhaps condition body otherwise =>
    max (condition.nesting + expressionRoom)
      (max (Block.nesting body + blockRoom) otherwise.nesting)

def Block.nesting : List Stmt → Nat
  | [] => 0
  | stmt :: rest => max stmt.nesting (Block.nesting rest)

end

theorem Block.nesting_append (first second : List Stmt) :
    Block.nesting (first ++ second) = max (Block.nesting first) (Block.nesting second) := by
  induction first with
  | nil => simp [nesting]
  | cons stmt first ih => rw [List.cons_append, nesting, nesting, ih, Nat.max_assoc]

/-! ## Readers of phrases -/

theorem Reader.isNegation_iff (kind : Kind) :
    isNegation kind = true ↔ kind = .bang ∨ kind = .minus := by
  simp [isNegation]

namespace Grammar

def Chain.accepts : Chain → Kind → Bool
  | .equality => isEquality
  | .comparison => isComparison
  | .sum => isSum
  | .product => isProduct

theorem Chain.accepts_iff (chain : Chain) (kind : Kind) :
    chain.accepts kind = true ↔ kind ∈ chain.operators := by
  cases chain <;>
    simp [accepts, operators, isEquality, isComparison, isSum, isProduct, or_assoc]

theorem Chain.run_further_cons (level : Chain) {operand : Reader Expr}
    (orderly : Orderly operand) (left : Expr) (token : Token) (rest : List Token) :
    (Reader.further level.accepts operand left).run (token :: rest) =
      if level.accepts token.kind then
        (operand >>= fun right =>
          Reader.further level.accepts operand (.binary left token right)).run rest
      else ⟨some left, token :: rest, []⟩ :=
  Reader.run_further_cons orderly left token rest

def Chain.operandReader (room : Nat) : Chain → Reader Expr
  | .product => unary (primary expression) room
  | .sum => chain isProduct (unary (primary expression) room)
  | .comparison => chain isSum (chain isProduct (unary (primary expression) room))
  | .equality =>
    chain isComparison (chain isSum (chain isProduct (unary (primary expression) room)))

def Form.reader (room : Nat) : Form → Reader Expr
  | .assignment => Reader.assignment Reader.operand room
  | .operands level => chain level.accepts (level.operandReader room)
  | .further level left => Reader.further level.accepts (level.operandReader room) left
  | .unary => Reader.unary (Reader.primary expression) room
  | .primary => Reader.primary expression room

theorem Phrase.nesting_le {allTargets : Bool} {level : Chain} {left expr : Expr}
    {tokens rest : List Token} (phrase : Phrase allTargets (.further level left) tokens rest expr) :
    left.nesting ≤ expr.nesting := by
  generalize same : Form.further level left = form at phrase
  induction phrase generalizing left with
  | last =>
      obtain ⟨_, rfl⟩ := Form.further.inj same
      exact Nat.le_refl _
  | @further _ operator _ right _ _ _ _ _ _ _ _ ih =>
      obtain ⟨rfl, rfl⟩ := Form.further.inj same
      have both : (Expr.binary left operator right).nesting ≤ _ := ih rfl
      exact Nat.le_trans (Nat.le_max_left _ _) both
  | _ => cases same

theorem Chain.reader_operand (level : Chain) (room : Nat) :
    level.operand.reader room = level.operandReader room := by
  cases level <;> rfl

theorem Chain.orderly_operandReader (level : Chain) (room : Nat) :
    Orderly (level.operandReader room) := by
  have unary := orderly_unary (orderly_primary orderly_expression) room
  cases level with
  | product => exact unary
  | sum => exact orderly_chain unary
  | comparison => exact orderly_chain (orderly_chain unary)
  | equality => exact orderly_chain (orderly_chain (orderly_chain unary))

end Grammar

/-- Where reading line by line halts: at the end of the text or, in a block, at a word that ends
it. -/
def Halts (inBlock : Bool) (rest : List Token) : Prop :=
  ∀ token ∈ rest.head?, inBlock = true ∧ endsBlock token.kind = true

theorem Reader.halts_nil (inBlock : Bool) : Halts inBlock [] := by simp [Halts]

theorem Reader.Halts.eq_nil {rest : List Token} (halts : Halts false rest) : rest = [] := by
  cases rest with
  | nil => rfl
  | cons token rest => cases (halts token rfl).1

end BilingualScript
