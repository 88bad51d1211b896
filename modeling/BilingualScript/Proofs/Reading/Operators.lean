import BilingualScript.Proofs.Reading.Grammar

/-!
# Operators in trees

The operators in the tree of a program are those of its grammar: two kinds with one operand, and
eleven with two.
-/

namespace BilingualScript

/-! ## Operable trees -/

def Kind.unaries : List Kind := [.bang, .minus]

def Kind.binaries : List Kind :=
  [.equalEqual, .bangEqual, .plus, .minus, .star, .slash, .percent, .greater, .greaterEqual, .less,
   .lessEqual]

/-- Every operator in an expression is one for its number of operands. -/
def Expr.Operable : Expr → Prop
  | .literal _ | .reference _ => True
  | .grouping inner => inner.Operable
  | .unary operator operand => operator.kind ∈ Kind.unaries ∧ operand.Operable
  | .binary left operator right =>
    operator.kind ∈ Kind.binaries ∧ left.Operable ∧ right.Operable
  | .assign _ value => value.Operable

mutual

def Stmt.Operable : Stmt → Prop
  | .expression value | .spill value | .declare _ (some value) => value.Operable
  | .declare _ none => True
  | .kalo condition body otherwise => condition.Operable ∧ Block.Operable body ∧ otherwise.Operable

def Otherwise.Operable : Otherwise → Prop
  | .nothing => True
  | .kalogak body => Block.Operable body
  | .perhaps condition body otherwise =>
    condition.Operable ∧ Block.Operable body ∧ otherwise.Operable

def Block.Operable : List Stmt → Prop
  | [] => True
  | stmt :: rest => stmt.Operable ∧ Block.Operable rest

end

namespace Grammar

theorem Chain.operators_subset (level : Chain) : level.operators ⊆ Kind.binaries := by
  cases level <;> decide

def Form.StartsOperable : Form → Prop
  | .further _ left => left.Operable
  | _ => True

theorem Chain.operand_startsOperable (level : Chain) : level.operand.StartsOperable := by
  cases level <;> trivial

variable {allTargets : Bool} {tokens rest : List Token}

theorem assigned_operable {target value : Expr} (targets : target.Operable)
    (values : value.Operable) : (assigned target value).Operable := by
  cases target with
  | reference => exact values
  | _ => exact targets

theorem Phrase.operable {form : Form} {expr : Expr}
    (phrase : Phrase allTargets form tokens rest expr) (starts : form.StartsOperable) :
    expr.Operable := by
  induction phrase with
  | ril | impossible | hampa | literal | name => trivial
  | grouping _ _ _ ih | primary _ ih | equality _ ih => exact ih trivial
  | unary operates _ ih =>
      refine ⟨?_, ih trivial⟩
      rcases operates with kind | kind <;> rw [kind] <;> decide
  | @operands level _ _ _ _ _ _ _ ih ih' => exact ih' (ih level.operand_startsOperable)
  | last => exact starts
  | @further level _ _ _ _ _ _ _ operates _ _ ih ih' =>
      exact ih' ⟨level.operators_subset operates, starts, ih level.operand_startsOperable⟩
  | assignment _ _ _ _ ih ih' => exact assigned_operable (ih trivial) (ih' trivial)

mutual

theorem Statement.operable {tokens rest : List Token} {stmt : Stmt}
    (statement : Statement allTargets tokens rest stmt) : stmt.Operable := by
  match tokens, rest, stmt, statement with
  | _, _, _, .expression phrase _ | _, _, _, .spill _ phrase _
  | _, _, _, .declareAs _ _ _ phrase _ => exact phrase.operable trivial
  | _, _, _, .declare _ _ _ => trivial
  | _, _, _, .kalo _ phrase _ body others _ _ =>
      exact ⟨phrase.operable trivial, Lines.operable body, Branches.operable others⟩

theorem Branches.operable {tokens rest : List Token} {otherwise : Otherwise}
    (branches : Branches allTargets tokens rest otherwise) : otherwise.Operable := by
  match tokens, rest, otherwise, branches with
  | _, _, _, .nothing => trivial
  | _, _, _, .kalogak _ _ body => exact Lines.operable body
  | _, _, _, .perhaps _ phrase _ body others =>
      exact ⟨phrase.operable trivial, Lines.operable body, Branches.operable others⟩

theorem Lines.operable {tokens rest : List Token} {stmts : List Stmt}
    (lines : Lines allTargets tokens rest stmts) : Block.Operable stmts := by
  match tokens, rest, stmts, lines with
  | _, _, _, .nil => trivial
  | _, _, _, .blank _ behind => exact Lines.operable behind
  | _, _, _, .cons statement behind => exact ⟨Statement.operable statement, Lines.operable behind⟩

end

end Grammar

end BilingualScript
