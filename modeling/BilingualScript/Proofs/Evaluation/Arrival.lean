import BilingualScript.Proofs.Evaluation.Stopping
import BilingualScript.Proofs.Evaluation.Visits
import Mathlib.Logic.Function.Iterate

/-!
# Where a run arrives

A run arrives at the expressions of its statements, one after another.  If one of these has no value
the run is over: nothing behind that is arrived at, every open block is left, and what was printed
and assigned before stays.
-/

namespace BilingualScript

/-! ## Expressions of a statement -/

def Otherwise.guards : Otherwise → List Expr
  | .nothing | .kalogak _ => []
  | .perhaps condition _ otherwise => condition :: otherwise.guards

/-- The expressions that a statement evaluates itself; those of the statements inside it are not
among them. -/
def Stmt.expressions : Stmt → List Expr
  | .expression value | .spill value => [value]
  | .declare _ initial => initial.toList
  | .kalo condition _ otherwise => condition :: otherwise.guards

theorem Stmt.value?_subset {stmt : Stmt} {expr : Expr} (same : stmt.value? = some expr) :
    expr ∈ stmt.expressions := by
  cases stmt with
  | expression | spill =>
      obtain rfl := Option.some.inj same
      exact List.mem_singleton_self _
  | declare => exact Option.mem_toList.2 same
  | kalo => cases same

/-! ## Arrivals -/

/-- A run has come to an expression of a statement: what it has printed so far, the scope and the
room for the expression, and how many blocks it has entered and not left. -/
structure Arrival where
  stmt : Stmt
  expr : Expr
  room : Nat
  scope : Scope
  outputs : List String
  blocks : Nat

namespace Arrival

def start (stmt : Stmt) (expr : Expr) (room : Nat) (scope : Scope) : Arrival :=
  ⟨stmt, expr, room, scope, [], 0⟩

def behind (arrival : Arrival) (printed : List String) : Arrival :=
  { arrival with outputs := printed ++ arrival.outputs }

def inside (arrival : Arrival) : Arrival := { arrival with blocks := arrival.blocks + 1 }

def result (arrival : Arrival) : Except Fault Value × Scope :=
  (arrival.expr.value arrival.room).run arrival.scope

def stopped (arrival : Arrival) (fault : Fault) (after : Scope) : Execution :=
  ⟨arrival.outputs, some (fault.within arrival.stmt.token), Scope.leave^[arrival.blocks] after⟩

end Arrival

mutual

inductive Stmt.Arrives : Nat → Stmt → Scope → Arrival → Prop
  | value {room stmt expr scope} : stmt.value? = some expr →
      Stmt.Arrives room stmt scope (.start stmt expr room scope)
  | kalo {room condition body otherwise scope arrival} :
      Otherwise.Arrives room (.perhaps condition body otherwise) (.kalo condition body otherwise)
        scope arrival →
      Stmt.Arrives room (.kalo condition body otherwise) scope arrival

inductive Otherwise.Arrives : Nat → Otherwise → Stmt → Scope → Arrival → Prop
  | kalogak {room body stmt scope arrival} :
      Block.Arrives (room - blockRoom) body scope.enter arrival →
      Otherwise.Arrives room (.kalogak body) stmt scope arrival.inside
  | condition {room condition body otherwise stmt scope} :
      Otherwise.Arrives room (.perhaps condition body otherwise) stmt scope
        (.start stmt condition room scope)
  | body {room condition body otherwise stmt scope value after arrival} :
      (condition.value room).run scope = (.ok value, after) → value.holds = true →
      Block.Arrives (room - blockRoom) body after.enter arrival →
      Otherwise.Arrives room (.perhaps condition body otherwise) stmt scope arrival.inside
  | otherwise {room condition body otherwise stmt scope value after arrival} :
      (condition.value room).run scope = (.ok value, after) → value.holds = false →
      Otherwise.Arrives room otherwise stmt after arrival →
      Otherwise.Arrives room (.perhaps condition body otherwise) stmt scope arrival

/-- The run of a block arrives at an expression of one of its statements, and those in front of that
run to their end. -/
inductive Block.Arrives : Nat → List Stmt → Scope → Arrival → Prop
  | here {room stmt rest scope arrival} : Stmt.Arrives room stmt scope arrival →
      Block.Arrives room (stmt :: rest) scope arrival
  | behind {room stmt rest scope printed after arrival} :
      stmt.exec room scope = ⟨printed, none, after⟩ → Block.Arrives room rest after arrival →
      Block.Arrives room (stmt :: rest) scope (arrival.behind printed)

end

/-! ## The statement arrived at -/

mutual

theorem Stmt.Arrives.mem_expressions {room : Nat} {stmt : Stmt} {scope : Scope} {arrival : Arrival}
    (arrives : stmt.Arrives room scope arrival) : arrival.expr ∈ arrival.stmt.expressions := by
  match stmt, arrival, arrives with
  | _, _, .value same => exact Stmt.value?_subset same
  | _, _, .kalo branches => exact Otherwise.Arrives.mem_expressions branches fun _ mem => mem

theorem Otherwise.Arrives.mem_expressions {room : Nat} {otherwise : Otherwise} {stmt : Stmt}
    {scope : Scope} {arrival : Arrival} (arrives : otherwise.Arrives room stmt scope arrival)
    (own : otherwise.guards ⊆ stmt.expressions) :
    arrival.expr ∈ arrival.stmt.expressions := by
  match otherwise, arrival, arrives with
  | _, _, .kalogak inner | _, _, .body _ _ inner =>
      have owned := Block.Arrives.mem_expressions inner
      exact owned
  | _, _, .condition => exact own List.mem_cons_self
  | _, _, .otherwise _ _ branches =>
      exact Otherwise.Arrives.mem_expressions branches (List.cons_subset.1 own).2

theorem Block.Arrives.mem_expressions {room : Nat} {stmts : List Stmt} {scope : Scope}
    {arrival : Arrival} (arrives : Block.Arrives room stmts scope arrival) :
    arrival.expr ∈ arrival.stmt.expressions := by
  match stmts, arrival, arrives with
  | _, _, .here first => exact Stmt.Arrives.mem_expressions first
  | _, _, .behind _ second =>
      have owned := Block.Arrives.mem_expressions second
      exact owned

end

/-! ## Runs that end at an arrival -/

namespace Execution

variable {fault : Fault} {after : Scope}

theorem withValue_stopped {room : Nat} (stmt : Stmt) {expr : Expr} {scope : Scope}
    (fails : (expr.value room).run scope = (.error fault, after))
    (next : Value → Scope → Execution) :
    withValue room stmt.token expr next scope =
      (Arrival.start stmt expr room scope).stopped fault after := by
  rw [withValue, fails]
  rfl

theorem withValue_done {room : Nat} {token : Token} {expr : Expr} {value : Value} {scope : Scope}
    (run : (expr.value room).run scope = (.ok value, after)) (next : Value → Scope → Execution) :
    withValue room token expr next scope = next value after := by
  rw [withValue, run]

theorem inBlock_stopped {body : Scope → Execution} {scope : Scope} {arrival : Arrival}
    (stops : body scope.enter = arrival.stopped fault after) :
    inBlock body scope = arrival.inside.stopped fault after := by
  have left : Scope.leave^[arrival.blocks + 1] after = (Scope.leave^[arrival.blocks] after).leave :=
    Function.iterate_succ_apply' ..
  rw [inBlock, stops, Arrival.stopped, Arrival.stopped, Arrival.inside, left]

theorem andThen_stopped {first : Execution} {arrival : Arrival}
    (stops : first = arrival.stopped fault after) (next : Scope → Execution) :
    first.andThen next = arrival.stopped fault after := by
  rw [stops]
  rfl

theorem andThen_behind {first : Execution} {next : Scope → Execution} {printed : List String}
    {middle : Scope} {arrival : Arrival} (clean : first = ⟨printed, none, middle⟩)
    (stops : next middle = arrival.stopped fault after) :
    first.andThen next = (arrival.behind printed).stopped fault after := by
  rw [clean, andThen, stops]
  rfl

end Execution

open Execution

mutual

theorem Stmt.exec_of_arrives {room : Nat} {stmt : Stmt} {scope : Scope} {arrival : Arrival}
    {fault : Fault} {after : Scope} (arrives : stmt.Arrives room scope arrival)
    (fails : arrival.result = (.error fault, after)) :
    stmt.exec room scope = arrival.stopped fault after := by
  match stmt, arrival, arrives with
  | .expression _, _, .value rfl => exact withValue_stopped _ fails _
  | .spill _, _, .value rfl => exact withValue_stopped _ fails _
  | .declare name (some initial), _, .value rfl =>
      exact withValue_stopped (.declare name (some initial)) fails _
  | .kalo _ _ _, _, .kalo branches => exact Otherwise.exec_of_arrives branches fails

theorem Otherwise.exec_of_arrives {room : Nat} {otherwise : Otherwise} {stmt : Stmt} {scope : Scope}
    {arrival : Arrival} {fault : Fault} {after : Scope}
    (arrives : otherwise.Arrives room stmt scope arrival)
    (fails : arrival.result = (.error fault, after)) :
    otherwise.exec room stmt.token scope = arrival.stopped fault after := by
  match otherwise, arrival, arrives with
  | _, _, .kalogak inner => exact inBlock_stopped (Block.exec_of_arrives inner fails)
  | _, _, .condition => exact withValue_stopped _ fails _
  | _, _, .body run holds inner =>
      rw [Otherwise.exec, withValue_done run, if_pos holds]
      exact inBlock_stopped (Block.exec_of_arrives inner fails)
  | _, _, .otherwise run fallen branches =>
      rw [Otherwise.exec, withValue_done run, if_neg (by simp [fallen])]
      exact Otherwise.exec_of_arrives branches fails

theorem Block.exec_of_arrives {room : Nat} {stmts : List Stmt} {scope : Scope} {arrival : Arrival}
    {fault : Fault} {after : Scope} (arrives : Block.Arrives room stmts scope arrival)
    (fails : arrival.result = (.error fault, after)) :
    Block.exec room stmts scope = arrival.stopped fault after := by
  match stmts, arrival, arrives with
  | _, _, .here first => exact andThen_stopped (Stmt.exec_of_arrives first fails) _
  | _, _, .behind clean second => exact andThen_behind clean (Block.exec_of_arrives second fails)

end

/-! ## Every fault is one of an arrival -/

def Arrival.Fails (arrival : Arrival) : Prop :=
  ∃ fault after, arrival.result = (.error fault, after)

mutual

theorem Stmt.Stops.exists_arrives {room : Nat} {stmt : Stmt} {scope : Scope} {outputs : List String}
    {failure : Failure} (stops : stmt.Stops room scope outputs failure) :
    ∃ arrival, stmt.Arrives room scope arrival ∧ arrival.Fails := by
  match stmt, failure, stops with
  | _, _, .value same run => exact ⟨_, .value same, _, _, run⟩
  | .kalo _ _ _, _, .kalo branches =>
      obtain ⟨arrival, arrives, fails⟩ := Otherwise.Stops.exists_arrives branches _
      exact ⟨arrival, .kalo arrives, fails⟩

theorem Otherwise.Stops.exists_arrives {room : Nat} {otherwise : Otherwise} {token : Token}
    {scope : Scope} {outputs : List String} {failure : Failure}
    (stops : otherwise.Stops room token scope outputs failure) (stmt : Stmt) :
    ∃ arrival, otherwise.Arrives room stmt scope arrival ∧ arrival.Fails := by
  match otherwise, failure, stops with
  | _, _, .kalogak inner =>
      obtain ⟨arrival, arrives, fails⟩ := Block.Stops.exists_arrives inner
      exact ⟨arrival.inside, .kalogak arrives, fails⟩
  | _, _, .condition run => exact ⟨_, .condition, _, _, run⟩
  | _, _, .body run holds inner =>
      obtain ⟨arrival, arrives, fails⟩ := Block.Stops.exists_arrives inner
      exact ⟨arrival.inside, .body run holds arrives, fails⟩
  | _, _, .otherwise run fallen branches =>
      obtain ⟨arrival, arrives, fails⟩ := Otherwise.Stops.exists_arrives branches stmt
      exact ⟨arrival, .otherwise run fallen arrives, fails⟩

theorem Block.Stops.exists_arrives {room : Nat} {stmts : List Stmt} {scope : Scope}
    {outputs : List String} {failure : Failure}
    (stops : Block.Stops room stmts scope outputs failure) :
    ∃ arrival, Block.Arrives room stmts scope arrival ∧ arrival.Fails := by
  match stmts, outputs, stops with
  | _, _, .here first =>
      obtain ⟨arrival, arrives, fails⟩ := Stmt.Stops.exists_arrives first
      exact ⟨arrival, .here arrives, fails⟩
  | _, _, .behind clean second =>
      obtain ⟨arrival, arrives, fails⟩ := Block.Stops.exists_arrives second
      exact ⟨arrival.behind _, .behind clean arrives, fails⟩

end

/-- A run ends with a fault exactly if it arrives at an expression with that fault. -/
theorem Block.fault?_exec_iff (room : Nat) (stmts : List Stmt) (scope : Scope) (fault : Fault) :
    (Block.exec room stmts scope).fault? = some fault ↔
      ∃ arrival after, Block.Arrives room stmts scope arrival ∧
        arrival.result = (.error fault, after) := by
  constructor
  · intro stopped
    obtain ⟨failure, failed, rfl⟩ := Option.map_eq_some_iff.1 stopped
    have stops := (Block.fails_iff_stops room stmts scope _ failure).1 ⟨rfl, failed⟩
    obtain ⟨arrival, arrives, fault, after, fails⟩ := stops.exists_arrives
    rw [Block.exec_of_arrives arrives fails] at failed
    obtain rfl := Option.some.inj failed
    exact ⟨arrival, after, arrives, fails⟩
  · rintro ⟨arrival, after, arrives, fails⟩
    rw [Block.exec_of_arrives arrives fails]
    rfl

/-! ## Nothing is arrived at twice -/

theorem Arrival.Fails.not_done {arrival : Arrival} {value : Value} {after : Scope}
    (fails : arrival.Fails) : arrival.result ≠ (.ok value, after) := by
  obtain ⟨fault, after', fails⟩ := fails
  rw [fails]
  nofun

mutual

theorem Stmt.Arrives.unique {room : Nat} {stmt : Stmt} {scope : Scope} {arrival other : Arrival}
    (arrives : stmt.Arrives room scope arrival) (fails : arrival.Fails)
    (arrives' : stmt.Arrives room scope other) (fails' : other.Fails) : other = arrival := by
  match stmt, arrival, arrives with
  | _, _, .value same =>
      cases arrives' with
      | value same' =>
          obtain rfl := Option.some.inj (same.symm.trans same')
          rfl
      | kalo => cases same
  | .kalo _ _ _, _, .kalo branches =>
      cases arrives' with
      | value none => cases none
      | kalo branches' => exact Otherwise.Arrives.unique branches fails branches' fails'

theorem Otherwise.Arrives.unique {room : Nat} {otherwise : Otherwise} {stmt : Stmt} {scope : Scope}
    {arrival other : Arrival} (arrives : otherwise.Arrives room stmt scope arrival)
    (fails : arrival.Fails) (arrives' : otherwise.Arrives room stmt scope other)
    (fails' : other.Fails) : other = arrival := by
  match otherwise, arrival, arrives with
  | _, _, .kalogak inner =>
      cases arrives' with
      | kalogak inner' =>
          exact congrArg Arrival.inside (Block.Arrives.unique inner fails inner' fails')
  | _, _, .condition =>
      cases arrives' with
      | condition => rfl
      | body run | otherwise run => exact absurd run fails.not_done
  | _, _, .body run holds inner =>
      cases arrives' with
      | condition => exact absurd run fails'.not_done
      | body run' _ inner' =>
          cases run.symm.trans run'
          exact congrArg Arrival.inside (Block.Arrives.unique inner fails inner' fails')
      | otherwise run' fallen =>
          cases run.symm.trans run'
          cases holds.symm.trans fallen
  | _, _, .otherwise run fallen branches =>
      cases arrives' with
      | condition => exact absurd run fails'.not_done
      | body run' holds =>
          cases run.symm.trans run'
          cases holds.symm.trans fallen
      | otherwise run' _ branches' =>
          cases run.symm.trans run'
          exact Otherwise.Arrives.unique branches fails branches' fails'

theorem Block.Arrives.unique {room : Nat} {stmts : List Stmt} {scope : Scope}
    {arrival other : Arrival} (arrives : Block.Arrives room stmts scope arrival)
    (fails : arrival.Fails) (arrives' : Block.Arrives room stmts scope other)
    (fails' : other.Fails) : other = arrival := by
  match stmts, arrival, arrives with
  | _, _, .here first =>
      cases arrives' with
      | here first' => exact Stmt.Arrives.unique first fails first' fails'
      | behind clean =>
          obtain ⟨fault, after, fails⟩ := fails
          cases clean.symm.trans (Stmt.exec_of_arrives first fails)
  | _, _, .behind clean second =>
      cases arrives' with
      | here first =>
          obtain ⟨fault, after, fails'⟩ := fails'
          cases clean.symm.trans (Stmt.exec_of_arrives first fails')
      | behind clean' second' =>
          cases clean.symm.trans clean'
          exact congrArg (Arrival.behind · _) (Block.Arrives.unique second fails second' fails')

end

end BilingualScript
