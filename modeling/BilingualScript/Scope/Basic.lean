import BilingualScript.Value

/-!
# Scopes

A frame binds names in the order of their first definition.  A scope is the frame of a block
together with the scopes around it; a name means its nearest binding.
-/

namespace BilingualScript

/-- Bindings, each name once. -/
abbrev Frame := List (String × Value)

namespace Frame

def lookup? : Frame → String → Option Value
  | [], _ => none
  | (bound, value) :: rest, name => if bound = name then some value else lookup? rest name

def binds (frame : Frame) (name : String) : Bool := (frame.lookup? name).isSome

/-- Binds a name.  One that is bound already keeps its place. -/
def define : Frame → String → Value → Frame
  | [], name, value => [(name, value)]
  | (bound, old) :: rest, name, value =>
    if bound = name then (bound, value) :: rest else (bound, old) :: define rest name value

def names (frame : Frame) : List String := frame.map Prod.fst

@[simp] theorem lookup?_nil (name : String) : lookup? [] name = none := rfl

theorem lookup?_define (frame : Frame) (name : String) (value : Value) (wanted : String) :
    (frame.define name value).lookup? wanted =
      if wanted = name then some value else frame.lookup? wanted := by
  induction frame with
  | nil => simp [define, lookup?, eq_comm]
  | cons binding rest ih =>
    obtain ⟨bound, old⟩ := binding
    by_cases found : bound = name <;> by_cases same : wanted = name <;>
      simp_all [define, lookup?, eq_comm]

/-- A name that is bound already keeps its place; another one comes last. -/
theorem names_define (frame : Frame) (name : String) (value : Value) :
    (frame.define name value).names =
      if name ∈ frame.names then frame.names else frame.names ++ [name] := by
  induction frame with
  | nil => rfl
  | cons binding rest ih =>
    obtain ⟨bound, old⟩ := binding
    by_cases found : bound = name <;> by_cases later : name ∈ names rest <;>
      simp_all [define, names, eq_comm]

end Frame

inductive Scope where
  | global (frame : Frame)
  | nested (frame : Frame) (enclosing : Scope)
  deriving DecidableEq, Repr

namespace Scope

instance : Inhabited Scope := ⟨.global []⟩

def frame : Scope → Frame
  | .global frame | .nested frame _ => frame

def outermost : Scope → Frame
  | .global frame => frame
  | .nested _ enclosing => enclosing.outermost

def lookup? : Scope → String → Option Value
  | .global frame, name => frame.lookup? name
  | .nested frame enclosing, name => (frame.lookup? name).or (enclosing.lookup? name)

def define : Scope → String → Value → Scope
  | .global frame, name, value => .global (frame.define name value)
  | .nested frame enclosing, name, value => .nested (frame.define name value) enclosing

def assign? : Scope → String → Value → Option Scope
  | .global frame, name, value =>
    if frame.binds name then some (.global (frame.define name value)) else none
  | .nested frame enclosing, name, value =>
    if frame.binds name then some (.nested (frame.define name value) enclosing)
    else (enclosing.assign? name value).map (.nested frame)

def enter (scope : Scope) : Scope := .nested [] scope

def leave : Scope → Scope
  | .global frame => .global frame
  | .nested _ enclosing => enclosing

@[simp] theorem leave_enter (scope : Scope) : scope.enter.leave = scope := rfl

end Scope

end BilingualScript
