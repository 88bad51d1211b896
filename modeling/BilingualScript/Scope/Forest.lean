import BilingualScript.Evaluation.Fault
import BilingualScript.Scope.Basic

/-!
# Forests of scopes

Scopes that share those around them.  Each scope is known by a number and remembers its
chain: itself and the scopes around it, from the inside out.
-/

namespace BilingualScript

structure Cell where
  frame : Frame
  enclosing : List Nat
  deriving DecidableEq, Repr, Inhabited

/-- The scope with the number `n` is the `n`-th cell. -/
structure Forest where
  cells : List Cell
  deriving DecidableEq, Repr, Inhabited

namespace Forest

def empty : Forest := ⟨[]⟩

def next (forest : Forest) : Nat := forest.cells.length

def frame (forest : Forest) (scope : Nat) : Frame := (forest.cells[scope]?.map Cell.frame).getD []

def enclosing (forest : Forest) (scope : Nat) : List Nat :=
  (forest.cells[scope]?.map Cell.enclosing).getD []

def chain (forest : Forest) (scope : Nat) : List Nat := scope :: forest.enclosing scope

def addRoot (forest : Forest) : Forest := ⟨forest.cells ++ [⟨[], []⟩]⟩

def addChild (forest : Forest) (parent : Nat) : Forest :=
  ⟨forest.cells ++ [⟨[], forest.chain parent⟩]⟩

/-- The nearest scope on the chain that binds a name. -/
def owner? (forest : Forest) (scope : Nat) (name : String) : Option Nat :=
  (forest.chain scope).find? fun candidate => (forest.frame candidate).binds name

def define (forest : Forest) (scope : Nat) (name : String) (value : Value) : Forest :=
  ⟨forest.cells.modify scope fun cell => { cell with frame := cell.frame.define name value }⟩

def lookup? (forest : Forest) (scope : Nat) (name : String) : Option Value :=
  (forest.owner? scope name).bind fun owner => (forest.frame owner).lookup? name

def assign? (forest : Forest) (scope : Nat) (name : String) (value : Value) : Option Forest :=
  (forest.owner? scope name).map fun owner => forest.define owner name value

def describe (forest : Forest) (scope : Nat) : String :=
  let place := if (forest.enclosing scope).isEmpty then "global" else "has parent"
  let names := (forest.frame scope).names
  let shown := if names.isEmpty then "none" else ", ".intercalate names
  "<Environment(" ++ place ++ ") vars=[" ++ shown ++ "]>"

/-! ## Deeds -/

inductive Deed where
  | root
  | child (parent : Nat)
  | define (scope : Nat) (name : String) (value : Value)
  | assign (scope : Nat) (name : Token) (value : Value)
  | get (scope : Nat) (name : Token)
  deriving DecidableEq, Repr

/-- Does a deed.  It yields a value if it reads one, or a fault that leaves the forest as it is. -/
def perform (forest : Forest) : Deed → Except Fault (Option Value) × Forest
  | .root => (.ok none, forest.addRoot)
  | .child parent => (.ok none, forest.addChild parent)
  | .define scope name value => (.ok none, forest.define scope name value)
  | .assign scope name value =>
    match forest.assign? scope name.lexeme value with
    | some after => (.ok none, after)
    | none => (.error (.undefinedVariable name), forest)
  | .get scope name =>
    match forest.lookup? scope name.lexeme with
    | some value => (.ok (some value), forest)
    | none => (.error (.undefinedVariable name), forest)

end Forest

end BilingualScript
