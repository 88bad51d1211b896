import BilingualScript.Program.Basic

/-!
# Tree dumps

A tree is written in parentheses with its operator in front, a program as one such form
after another with a newline between them.
-/

namespace BilingualScript

def parenthesized (parts : List (List Char)) : List Char :=
  '(' :: ([' '].intercalate parts ++ [')'])

/-- Texts stand in double quotes, as they are; other literals as a program prints them. -/
def Value.dump : Value → List Char
  | .text value => '"' :: (value.toList ++ ['"'])
  | value => value.display.toList

def Expr.dump : Expr → List Char
  | .literal value => value.dump
  | .grouping inner => parenthesized ["group".toList, inner.dump]
  | .unary operator operand => parenthesized [operator.lexeme.toList, operand.dump]
  | .binary left operator right => parenthesized [operator.lexeme.toList, left.dump, right.dump]
  | .reference name => name.lexeme.toList
  | .assign name value => parenthesized ["itu".toList, name.lexeme.toList, value.dump]

mutual

def Stmt.dump : Stmt → List Char
  | .expression value => parenthesized [";".toList, value.dump]
  | .spill value => parenthesized ["spill".toList, value.dump]
  | .declare name none => parenthesized ["literally".toList, name.lexeme.toList]
  | .declare name (some initial) =>
    parenthesized ["literally".toList, name.lexeme.toList, initial.dump]
  | .kalo condition body otherwise =>
    parenthesized ("kalo".toList :: condition.dump ::
      parenthesized ("then".toList :: Block.dumps body) :: otherwise.dumps)

def Otherwise.dumps : Otherwise → List (List Char)
  | .nothing => []
  | .kalogak body => [parenthesized ("kalogak".toList :: Block.dumps body)]
  | .perhaps condition body otherwise =>
    parenthesized ("perhaps".toList :: condition.dump :: Block.dumps body) :: otherwise.dumps

def Block.dumps : List Stmt → List (List Char)
  | [] => []
  | stmt :: rest => stmt.dump :: Block.dumps rest

end

/-! ## Depth -/

def Value.dumpCalls : Value → Nat
  | .text _ => 3
  | .number _ => 6
  | .truth _ | .hampa => 4

/-- A form in parentheses has five calls open around each of its parts. -/
def Expr.dumpCalls : Expr → Nat
  | .literal value => value.dumpCalls
  | .reference _ => 3
  | .grouping inner => inner.dumpCalls + 5
  | .unary _ operand => operand.dumpCalls + 5
  | .binary left _ right => max left.dumpCalls right.dumpCalls + 5
  | .assign _ value => value.dumpCalls + 5

mutual

/-- The conditions of an if statement are written by the statement itself, with three calls open;
its blocks are forms in parentheses. -/
def Stmt.dumpCalls : Stmt → Nat
  | .expression value | .spill value | .declare _ (some value) => value.dumpCalls + 5
  | .declare _ none => 3
  | .kalo condition body otherwise =>
    max (condition.dumpCalls + 3) (max (Block.dumpCalls body + 5) otherwise.dumpCalls)

def Otherwise.dumpCalls : Otherwise → Nat
  | .nothing => 0
  | .kalogak body => Block.dumpCalls body + 5
  | .perhaps condition body otherwise =>
    max (condition.dumpCalls + 3) (max (Block.dumpCalls body + 5) otherwise.dumpCalls)

def Block.dumpCalls : List Stmt → Nat
  | [] => 0
  | stmt :: rest => max stmt.dumpCalls (Block.dumpCalls rest)

end

namespace Program

/-- Three calls are open around the statements. -/
def dumpCalls (program : Program) : Nat := Block.dumpCalls (program.filterMap id) + 3

/-- One form for each statement; what could not be read stands as an error. -/
def dumpChars (program : Program) : List Char :=
  ['\n'].intercalate (program.map fun stmt? => (stmt?.map Stmt.dump).getD "<error>".toList)

def dump? (program : Program) (calls : Nat) : Option String :=
  if program.dumpCalls ≤ calls then some (.ofList program.dumpChars) else none

end Program

def Expr.dump? (expr : Expr) (calls : Nat) : Option String :=
  if expr.dumpCalls ≤ calls then some (.ofList expr.dump) else none

end BilingualScript
