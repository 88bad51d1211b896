import BilingualScript.Program.Basic

/-!
# Interchangeable trees

Two trees are the same if they differ in nothing but literals that count as the same.  They
are compared part by part up to the first difference.  A comparison that would have to go too
deep before it finds one has no answer.
-/

namespace BilingualScript

/-- The answer for two parts, of which the second counts only if the first agrees. -/
@[macro_inline] def both (first second : Option Bool) : Option Bool :=
  match first with
  | some true => second
  | answer => answer

@[simp] theorem both_true (second : Option Bool) : both (some true) second = second := rfl

@[simp] theorem both_false (second : Option Bool) : both (some false) second = some false := rfl

@[simp] theorem both_none (second : Option Bool) : both none second = none := rfl

/-! ## Expressions -/

def Expr.same? : Nat → Expr → Expr → Option Bool
  | 0, _, _ => none
  | _ + 1, .literal left, .literal right => some (left.matchesLiteral right)
  | depth + 1, .grouping left, .grouping right => left.same? depth right
  | depth + 1, .unary operator left, .unary operator' right =>
    both (some (operator == operator')) (left.same? depth right)
  | depth + 1, .binary left operator right, .binary left' operator' right' =>
    both (left.same? depth left')
      (both (some (operator == operator')) (right.same? depth right'))
  | _ + 1, .reference left, .reference right => some (left == right)
  | depth + 1, .assign name left, .assign name' right =>
    both (some (name == name')) (left.same? depth right)
  | _ + 1, _, _ => some false

def Expr.sameInitial? (depth : Nat) : Option Expr → Option Expr → Option Bool
  | none, none => some true
  | some left, some right => left.same? depth right
  | _, _ => some false

/-! ## Statements -/

namespace Otherwise

def conditions : Otherwise → Nat
  | .nothing | .kalogak _ => 0
  | .perhaps _ _ otherwise => otherwise.conditions + 1

def last? : Otherwise → Option (List Stmt)
  | .nothing => none
  | .kalogak body => some body
  | .perhaps _ _ otherwise => otherwise.last?

end Otherwise

mutual

/-- Compares two statements.  In an if statement the block at the end comes before further
conditions. -/
def Stmt.same? : Nat → Stmt → Stmt → Option Bool
  | 0, _, _ => none
  | depth + 1, .expression left, .expression right => left.same? depth right
  | depth + 1, .spill left, .spill right => left.same? depth right
  | depth + 1, .declare name left, .declare name' right =>
    both (some (name == name')) (Expr.sameInitial? depth left right)
  | depth + 1, .kalo left body otherwise, .kalo right body' otherwise' =>
    both (left.same? depth right)
      (both (some (body.length == body'.length))
        (both (Block.same? depth body body')
          (both (otherwise.sameLast? depth otherwise'.last?)
            (both (some (otherwise.conditions == otherwise'.conditions))
              (otherwise.sameBranches? depth otherwise')))))
  | _ + 1, _, _ => some false

def Otherwise.sameLast? : Nat → Otherwise → Option (List Stmt) → Option Bool
  | _, .nothing, last => some last.isNone
  | depth, .kalogak body, last =>
    match last with
    | none => some false
    | some body' => both (some (body.length == body'.length)) (Block.same? depth body body')
  | depth, .perhaps _ _ otherwise, last => otherwise.sameLast? depth last

def Otherwise.sameBranches? : Nat → Otherwise → Otherwise → Option Bool
  | depth, .perhaps left body otherwise, .perhaps right body' otherwise' =>
    both (left.same? depth right)
      (both (some (body.length == body'.length))
        (both (Block.same? depth body body') (otherwise.sameBranches? depth otherwise')))
  | _, _, _ => some true

def Block.same? : Nat → List Stmt → List Stmt → Option Bool
  | depth, stmt :: rest, stmt' :: rest' =>
    both (stmt.same? depth stmt') (Block.same? depth rest rest')
  | _, _, _ => some true

end

/-! ## Programs -/

namespace Program

def sameDepth : Nat := 330

def sameFrom? : Program → Program → Option Bool
  | some stmt :: rest, some stmt' :: rest' =>
    both (stmt.same? sameDepth stmt') (sameFrom? rest rest')
  | none :: rest, none :: rest' => sameFrom? rest rest'
  | [], [] => some true
  | _, _ => some false

def same? (left right : Program) : Option Bool :=
  both (some (left.length == right.length)) (sameFrom? left right)

end Program

end BilingualScript
