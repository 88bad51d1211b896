import BilingualScript.Proofs.Reading.Nesting
import BilingualScript.Proofs.Token.Break

/-!
# Trees of moved tokens

A tree keeps the positions of its tokens.  A sentence that stands farther down in a text has the
same tree but for them.
-/

namespace BilingualScript

/-! ## Trees -/

def Expr.moved (lines : Int) : Expr → Expr
  | .literal value => .literal value
  | .grouping inner => .grouping (inner.moved lines)
  | .unary operator operand => .unary (operator.moved lines) (operand.moved lines)
  | .binary left operator right =>
    .binary (left.moved lines) (operator.moved lines) (right.moved lines)
  | .reference name => .reference (name.moved lines)
  | .assign name value => .assign (name.moved lines) (value.moved lines)

mutual

def Stmt.moved (lines : Int) : Stmt → Stmt
  | .expression value => .expression (value.moved lines)
  | .spill value => .spill (value.moved lines)
  | .declare name none => .declare (name.moved lines) none
  | .declare name (some value) => .declare (name.moved lines) (some (value.moved lines))
  | .kalo condition body otherwise =>
    .kalo (condition.moved lines) (Block.moved lines body) (otherwise.moved lines)

def Otherwise.moved (lines : Int) : Otherwise → Otherwise
  | .nothing => .nothing
  | .kalogak body => .kalogak (Block.moved lines body)
  | .perhaps condition body otherwise =>
    .perhaps (condition.moved lines) (Block.moved lines body) (otherwise.moved lines)

def Block.moved (lines : Int) : List Stmt → List Stmt
  | [] => []
  | stmt :: rest => stmt.moved lines :: Block.moved lines rest

end

/-! ## Nesting -/

@[simp] theorem Expr.nesting_moved (lines : Int) (expr : Expr) :
    (expr.moved lines).nesting = expr.nesting := by
  induction expr with
  | literal | reference => rfl
  | grouping _ ih | unary _ _ ih | assign _ _ ih => simp only [moved, nesting, ih]
  | binary _ _ _ ih ih' => simp only [moved, nesting, ih, ih']

mutual

theorem Stmt.nesting_moved (lines : Int) (stmt : Stmt) :
    (stmt.moved lines).nesting = stmt.nesting := by
  match stmt with
  | .expression _ | .spill _ | .declare _ none | .declare _ (some _) =>
      simp [Stmt.moved, Stmt.nesting]
  | .kalo _ body otherwise =>
      simp [Stmt.moved, Stmt.nesting, Block.nesting_moved lines body,
        Otherwise.nesting_moved lines otherwise]

theorem Otherwise.nesting_moved (lines : Int) (otherwise : Otherwise) :
    (otherwise.moved lines).nesting = otherwise.nesting := by
  match otherwise with
  | .nothing => rfl
  | .kalogak body => simp [Otherwise.moved, Otherwise.nesting, Block.nesting_moved lines body]
  | .perhaps _ body otherwise =>
      simp [Otherwise.moved, Otherwise.nesting, Block.nesting_moved lines body,
        Otherwise.nesting_moved lines otherwise]

theorem Block.nesting_moved (lines : Int) (stmts : List Stmt) :
    Block.nesting (Block.moved lines stmts) = Block.nesting stmts := by
  match stmts with
  | [] => rfl
  | stmt :: rest =>
      simp [Block.moved, Block.nesting, Stmt.nesting_moved lines stmt,
        Block.nesting_moved lines rest]

end

/-! ## Phrases -/

namespace Grammar

def Form.moved (lines : Int) : Form → Form
  | .further level left => .further level (left.moved lines)
  | form => form

@[simp] theorem Chain.moved_operand (lines : Int) (level : Chain) :
    level.operand.moved lines = level.operand := by
  cases level <;> rfl

variable {allTargets : Bool} (lines : Int)

theorem Target.moved {target : Expr} (names : Target allTargets target) :
    Target allTargets (target.moved lines) :=
  names.imp_right fun ⟨name, same⟩ => ⟨name.moved lines, by rw [same]; rfl⟩

theorem moved_assigned (target value : Expr) :
    (assigned target value).moved lines = assigned (target.moved lines) (value.moved lines) := by
  cases target <;> rfl

theorem Phrase.moved {form : Form} {tokens rest : List Token} {expr : Expr}
    (phrase : Phrase allTargets form tokens rest expr) :
    Phrase allTargets (form.moved lines) (tokens.map (Token.moved lines))
      (rest.map (Token.moved lines)) (expr.moved lines) := by
  induction phrase with
  | ril kind => exact .ril kind
  | impossible kind => exact .impossible kind
  | hampa kind => exact .hampa kind
  | literal kind => exact .literal kind
  | name kind => exact .name kind
  | grouping kind _ kind' ih => exact .grouping kind ih kind'
  | primary _ ih => exact .primary ih
  | unary operates _ ih => exact .unary operates ih
  | operands _ _ ih ih' => exact .operands (by simpa using ih) ih'
  | last => exact .last
  | further operates _ _ ih ih' => exact .further operates (by simpa using ih) ih'
  | equality _ ih => exact .equality ih
  | assignment _ kind _ names ih ih' =>
      rw [moved_assigned]
      exact .assignment ih kind ih' (names.moved lines)

theorem End.moved {tokens rest : List Token} (ends : End tokens rest) :
    End (tokens.map (Token.moved lines)) (rest.map (Token.moved lines)) := by
  cases ends with
  | newline kind => exact .newline kind
  | stop => exact .stop

mutual

theorem Statement.moved {tokens rest : List Token} {stmt : Stmt}
    (statement : Statement allTargets tokens rest stmt) :
    Statement allTargets (tokens.map (Token.moved lines)) (rest.map (Token.moved lines))
      (stmt.moved lines) := by
  match tokens, rest, stmt, statement with
  | _, _, _, .expression phrase ends => exact .expression (phrase.moved lines) (ends.moved lines)
  | _, _, _, .spill kind phrase ends => exact .spill kind (phrase.moved lines) (ends.moved lines)
  | _, _, _, .declare kind named ends => exact .declare kind named (ends.moved lines)
  | _, _, _, .declareAs kind named itu phrase ends =>
      exact .declareAs kind named itu (phrase.moved lines) (ends.moved lines)
  | _, _, _, .kalo kind phrase newline body others udahan ends =>
      exact .kalo kind (phrase.moved lines) newline (Lines.moved body) (Branches.moved others)
        udahan (ends.moved lines)

theorem Branches.moved {tokens rest : List Token} {otherwise : Otherwise}
    (branches : Branches allTargets tokens rest otherwise) :
    Branches allTargets (tokens.map (Token.moved lines)) (rest.map (Token.moved lines))
      (otherwise.moved lines) := by
  match tokens, rest, otherwise, branches with
  | _, _, _, .nothing => exact .nothing
  | _, _, _, .kalogak kind newline body => exact .kalogak kind newline (Lines.moved body)
  | _, _, _, .perhaps kind phrase newline body others =>
      exact .perhaps kind (phrase.moved lines) newline (Lines.moved body) (Branches.moved others)

theorem Lines.moved {tokens rest : List Token} {stmts : List Stmt}
    (statements : Lines allTargets tokens rest stmts) :
    Lines allTargets (tokens.map (Token.moved lines)) (rest.map (Token.moved lines))
      (Block.moved lines stmts) := by
  match tokens, rest, stmts, statements with
  | _, _, _, .nil => exact .nil
  | _, _, _, .blank kind behind => exact .blank kind (Lines.moved behind)
  | _, _, _, .cons statement behind => exact .cons (Statement.moved statement) (Lines.moved behind)

end

theorem Lines.moved_back {tokens : List Token} {stmts : List Stmt}
    (statements : Lines allTargets (tokens.map (Token.moved lines)) [] stmts) :
    Lines allTargets tokens [] (Block.moved (-lines) stmts) := by
  have back := Lines.moved (-lines) statements
  rw [List.map_map] at back
  have same : Token.moved (-lines) ∘ Token.moved lines = id := by
    funext token
    rw [Function.comp_apply, Token.moved_moved, Int.add_right_neg, Token.moved_zero, id]
  rwa [same, List.map_id] at back

end Grammar

end BilingualScript
