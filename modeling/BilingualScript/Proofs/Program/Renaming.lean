import BilingualScript.Proofs.Evaluation.Similarity
import BilingualScript.Proofs.Evaluation.Visits

/-!
# Renaming a variable of a block

The declarations of a name directly in a block make one variable.  It is meant behind the first of
them, in the block and in the blocks inside it, up to another declaration of the name in one of
these.  Declarations and uses of the variable get a new name; other uses of the old name, in front
of the first declaration and in its own initial value, keep it.
-/

namespace BilingualScript

/-! ## Names and tokens -/

def renamedTo (old new name : String) : String := if name = old then new else name

@[simp] theorem renamedTo_old (old new : String) : renamedTo old new old = new := if_pos rfl

theorem renamedTo_of_ne {old new name : String} (other : name ≠ old) :
    renamedTo old new name = name := if_neg other

@[simp] theorem renamedTo_self (old name : String) : renamedTo old old name = name := by
  unfold renamedTo
  split
  · next same => exact same.symm
  · rfl

def Token.renamed (old new : String) (token : Token) : Token :=
  { token with lexeme := renamedTo old new token.lexeme }

@[simp] theorem Token.renamed_self (old : String) (token : Token) :
    token.renamed old old = token := by
  simp [renamed]

/-! ## Where the variable is meant -/

def Expr.renamed (old new : String) : Expr → Expr
  | .literal value => .literal value
  | .grouping inner => .grouping (inner.renamed old new)
  | .unary operator operand => .unary operator (operand.renamed old new)
  | .binary left operator right => .binary (left.renamed old new) operator (right.renamed old new)
  | .reference name => .reference (name.renamed old new)
  | .assign name value => .assign (name.renamed old new) (value.renamed old new)

mutual

/-- A statement at the start of which the old name means the variable of a block around it.  What
it declares is another variable. -/
def Stmt.renamedInside (old new : String) : Stmt → Stmt
  | .expression value => .expression (value.renamed old new)
  | .spill value => .spill (value.renamed old new)
  | .declare name initial => .declare name (initial.map (Expr.renamed old new))
  | .kalo condition body otherwise =>
    .kalo (condition.renamed old new) (Block.renamedInside old new body)
      (otherwise.renamedInside old new)

def Otherwise.renamedInside (old new : String) : Otherwise → Otherwise
  | .nothing => .nothing
  | .kalogak body => .kalogak (Block.renamedInside old new body)
  | .perhaps condition body otherwise =>
    .perhaps (condition.renamed old new) (Block.renamedInside old new body)
      (otherwise.renamedInside old new)

/-- A block inside that of the variable.  Behind a declaration of the old name there it means
something else. -/
def Block.renamedInside (old new : String) : List Stmt → List Stmt
  | [] => []
  | stmt :: rest =>
    stmt.renamedInside old new ::
      if old ∈ stmt.declared then rest else Block.renamedInside old new rest

end

/-! ## The block of the variable -/

def Stmt.renamed (old new : String) : Stmt → Stmt
  | .declare name initial =>
    .declare (name.renamed old new) (initial.map (Expr.renamed old new))
  | stmt => stmt.renamedInside old new

/-- The block.  Up to the first declaration, and in the initial value there, the old name means
something else. -/
def Block.renamed (old new : String) : List Stmt → List Stmt
  | [] => []
  | .declare name initial :: rest =>
    if name.lexeme = old then
      .declare (name.renamed old new) initial :: rest.map (Stmt.renamed old new)
    else .declare name initial :: Block.renamed old new rest
  | stmt :: rest => stmt :: Block.renamed old new rest

/-! ## Renaming to the same name -/

@[simp] theorem Expr.renamed_self (old : String) (expr : Expr) : expr.renamed old old = expr := by
  induction expr with
  | literal | reference => simp [renamed]
  | grouping _ ih | unary _ _ ih | assign _ _ ih => simp [renamed, ih]
  | binary _ _ _ ih ih' => simp [renamed, ih, ih']

@[simp] theorem Expr.map_renamed_self (old : String) (initial : Option Expr) :
    initial.map (Expr.renamed old old) = initial := by
  cases initial <;> simp

mutual

@[simp] theorem Stmt.renamedInside_self (old : String) (stmt : Stmt) :
    stmt.renamedInside old old = stmt := by
  match stmt with
  | .expression _ | .spill _ | .declare _ _ => simp [Stmt.renamedInside]
  | .kalo _ body otherwise =>
      simp [Stmt.renamedInside, Block.renamedInside_self old body,
        Otherwise.renamedInside_self old otherwise]

@[simp] theorem Otherwise.renamedInside_self (old : String) (otherwise : Otherwise) :
    otherwise.renamedInside old old = otherwise := by
  match otherwise with
  | .nothing => rfl
  | .kalogak body => simp [Otherwise.renamedInside, Block.renamedInside_self old body]
  | .perhaps _ body otherwise =>
      simp [Otherwise.renamedInside, Block.renamedInside_self old body,
        Otherwise.renamedInside_self old otherwise]

@[simp] theorem Block.renamedInside_self (old : String) (stmts : List Stmt) :
    Block.renamedInside old old stmts = stmts := by
  match stmts with
  | [] => rfl
  | stmt :: rest =>
      simp [Block.renamedInside, Stmt.renamedInside_self old stmt,
        Block.renamedInside_self old rest]

end

/-! ## Blocks of a program -/

/-- Where a block of an if statement stands: in the branch with some number, counted from zero, of
the statement with some number in a list, or farther inside that branch. -/
inductive BlockPath where
  | branch (index number : Nat)
  | inside (index number : Nat) (path : BlockPath)
  deriving DecidableEq, Repr

def Otherwise.changeBranch (change : List Stmt → List Stmt) : Nat → Otherwise → Otherwise
  | _, .nothing => .nothing
  | 0, .kalogak body => .kalogak (change body)
  | _ + 1, .kalogak body => .kalogak body
  | 0, .perhaps condition body otherwise => .perhaps condition (change body) otherwise
  | number + 1, .perhaps condition body otherwise =>
    .perhaps condition body (otherwise.changeBranch change number)

def Stmt.changeBranch (change : List Stmt → List Stmt) : Nat → Stmt → Stmt
  | 0, .kalo condition body otherwise => .kalo condition (change body) otherwise
  | number + 1, .kalo condition body otherwise =>
    .kalo condition body (otherwise.changeBranch change number)
  | _, stmt => stmt

def BlockPath.change (change : List Stmt → List Stmt) : BlockPath → List Stmt → List Stmt
  | .branch index number, stmts => stmts.modify index (Stmt.changeBranch change number)
  | .inside index number path, stmts =>
    stmts.modify index (Stmt.changeBranch (path.change change) number)

end BilingualScript
