import BilingualScript.Evaluation.Statement
import BilingualScript.Proofs.Number.Guards
import BilingualScript.Proofs.Reading.Operators

/-!
# Checked runs

A checked run does what a run does, but leaves quotients, remainders and whole parts to a machine
that refuses some operands, and breaks off where it comes to an operator that is none or to a gap
in the program.  A program of operable statements is never broken off: its checked run is its run,
and what stops it, if anything does, is a fault of the program.
-/

namespace BilingualScript

/-- The faults that a program can have: a name without a binding, operands of the wrong kinds, and
too much depth. -/
inductive Fault.Ordinary : Fault → Prop
  | undefinedVariable (name : Token) : Ordinary (.undefinedVariable name)
  | operandNotNumber (operator : Token) : Ordinary (.operandNotNumber operator)
  | operandsNotNumbers (operator : Token) : Ordinary (.operandsNotNumbers operator)
  | operandsMismatched (operator : Token) : Ordinary (.operandsMismatched operator)
  | tooDeep : Ordinary .tooDeep

/-! ## Operators -/

def checkedUnary? (operator : Token) (operand : Value) : Option (Except Fault Value) :=
  if operator.kind ∈ Kind.unaries then some (applyUnary operator operand) else none

def checkedBinary? (operator : Token) (left right : Value) : Option (Except Fault Value) :=
  match operator.kind, left, right with
  | .slash, .number left, .number right =>
    (left.guardedQuotient? right).map fun value => .ok (.number value)
  | .percent, .number left, .number right =>
    (left.guardedRemainder? right).map fun value => .ok (.number value)
  | kind, left, right =>
    if kind ∈ Kind.binaries then some (applyBinary operator left right) else none

def Value.checkedDisplay? : Value → Option String
  | .number value => value.guardedChars?.map String.ofList
  | value => some value.display

theorem checkedUnary?_eq {operator : Token} (known : operator.kind ∈ Kind.unaries)
    (operand : Value) : checkedUnary? operator operand = some (applyUnary operator operand) :=
  if_pos known

theorem checkedBinary?_eq {operator : Token} (known : operator.kind ∈ Kind.binaries)
    (left right : Value) :
    checkedBinary? operator left right = some (applyBinary operator left right) := by
  unfold checkedBinary?
  split
  · next kind =>
    rw [Number.guardedQuotient?_eq, applyBinary, kind]
    rfl
  · next kind =>
    rw [Number.guardedRemainder?_eq, applyBinary, kind]
    rfl
  · exact if_pos known

theorem Value.checkedDisplay?_eq (value : Value) : value.checkedDisplay? = some value.display := by
  cases value with
  | number value =>
      rw [checkedDisplay?, Number.guardedChars?_eq]
      rfl
  | hampa | truth | text => rfl

theorem applyUnary_ordinary {operator : Token} (known : operator.kind ∈ Kind.unaries)
    {operand : Value} {fault : Fault} (fails : applyUnary operator operand = .error fault) :
    fault.Ordinary := by
  unfold applyUnary at fails
  split at fails
  · cases fails
  · split at fails
    · cases fails
    · cases fails
      exact .operandNotNumber operator
  · next noBang noMinus =>
    rcases (by simpa [Kind.unaries] using known) with bang | minus
    · exact absurd bang noBang
    · exact absurd minus noMinus

theorem numeric?_isSome :
    ∀ kind ∈ Kind.binaries, kind ≠ .equalEqual → kind ≠ .bangEqual → kind ≠ .plus →
      (numeric? kind).isSome = true := by
  decide

theorem applyBinary_ordinary {operator : Token} (known : operator.kind ∈ Kind.binaries)
    {left right : Value} {fault : Fault} (fails : applyBinary operator left right = .error fault) :
    fault.Ordinary := by
  unfold applyBinary at fails
  split at fails
  · cases fails
  · cases fails
  · unfold applyPlus at fails
    split at fails
    · cases fails
    · cases fails
    · cases fails
      exact .operandsMismatched operator
  · next noEqual noUnequal noPlus =>
    have numeric := numeric?_isSome _ known noEqual noUnequal noPlus
    split at fails
    · next none =>
      rw [none] at numeric
      cases numeric
    · split at fails
      · cases fails
      · cases fails
        exact .operandsNotNumbers operator

/-! ## Evaluations -/

/-- What an evaluation comes to, or nothing where it is broken off. -/
def Checked (α : Type) : Type := Scope → Option (Except Fault α × Scope)

namespace Checked

variable {α β : Type}

protected def bind (checked : Checked α) (next : α → Checked β) : Checked β := fun scope =>
  match checked scope with
  | none => none
  | some (.ok value, after) => next value after
  | some (.error fault, after) => some (.error fault, after)

def ofEvaluation (evaluation : Evaluation α) : Checked α := fun scope => some (evaluation.run scope)

instance : Monad Checked where
  pure value := ofEvaluation (pure value)
  bind := Checked.bind

def ofOption (result : Option (Except Fault α)) : Checked α := fun scope => result.map (·, scope)

end Checked

def Expr.checked : Nat → Expr → Checked Value
  | 0, _ => .ofEvaluation (.fail .tooDeep)
  | _ + 1, .literal value => pure value
  | depth + 1, .grouping inner => inner.checked depth
  | depth + 1, .unary operator operand => do
    let operand ← operand.checked depth
    .ofOption (checkedUnary? operator operand)
  | depth + 1, .binary left operator right => do
    let left ← left.checked depth
    let right ← right.checked depth
    .ofOption (checkedBinary? operator left right)
  | _ + 1, .reference name => .ofEvaluation (.lookup name)
  | depth + 1, .assign name value => do
    let value ← value.checked depth
    .ofEvaluation (.assign name value)

/-- A checked evaluation is never broken off, and the evaluation fails by ordinary faults only. -/
structure Checked.Sound {α : Type} (checked : Checked α) (evaluation : Evaluation α) : Prop where
  runs : ∀ scope, checked scope = some (evaluation.run scope)
  ordinary : ∀ scope fault, (evaluation.run scope).1 = .error fault → fault.Ordinary

namespace Checked.Sound

variable {α β : Type}

theorem ofOption {checked : Option (Except Fault α)} {result : Except Fault α}
    (same : checked = some result) (ordinary : ∀ fault, result = .error fault → fault.Ordinary) :
    (Checked.ofOption checked).Sound (.ofExcept result) where
  runs scope := by rw [same]; rfl
  ordinary _ := ordinary

theorem bind {checked : Checked α} {evaluation : Evaluation α} {next : α → Checked β}
    {next' : α → Evaluation β} (sound : checked.Sound evaluation)
    (sound' : ∀ value, (next value).Sound (next' value)) :
    (checked >>= next).Sound (evaluation >>= next') where
  runs scope := by
    change Checked.bind checked next scope = _
    rw [Checked.bind, sound.runs, Evaluation.run_bind]
    rcases evaluation.run scope with ⟨_ | value, after⟩
    · rfl
    · exact (sound' value).runs after
  ordinary scope fault fails := by
    rw [Evaluation.run_bind] at fails
    rcases run : evaluation.run scope with ⟨other | value, after⟩
    · rw [run] at fails
      cases fails
      exact sound.ordinary scope fault (congrArg Prod.fst run)
    · rw [run] at fails
      exact (sound' value).ordinary after fault fails

theorem lookup (name : Token) :
    (Checked.ofEvaluation (.lookup name)).Sound (.lookup name) where
  runs _ := rfl
  ordinary scope fault fails := by
    unfold Evaluation.run Evaluation.lookup at fails
    split at fails
    · cases fails
    · cases fails
      exact .undefinedVariable name

theorem assign (name : Token) (value : Value) :
    (Checked.ofEvaluation (.assign name value)).Sound (.assign name value) where
  runs _ := rfl
  ordinary scope fault fails := by
    unfold Evaluation.run Evaluation.assign at fails
    split at fails
    · cases fails
    · cases fails
      exact .undefinedVariable name

end Checked.Sound

theorem Expr.checked_sound {expr : Expr} (operable : expr.Operable) (depth : Nat) :
    (expr.checked depth).Sound (expr.eval depth) := by
  induction depth generalizing expr with
  | zero => exact ⟨fun _ => rfl, fun _ _ fails => by cases fails; exact .tooDeep⟩
  | succ depth ih =>
      cases expr with
      | literal => exact ⟨fun _ => rfl, fun _ _ fails => by cases fails⟩
      | grouping inner => exact ih operable
      | unary operator operand =>
          obtain ⟨known, operands⟩ := operable
          exact (ih operands).bind fun operand =>
            .ofOption (checkedUnary?_eq known operand) fun _ => applyUnary_ordinary known
      | binary left operator right =>
          obtain ⟨known, lefts, rights⟩ := operable
          exact (ih lefts).bind fun left => (ih rights).bind fun right =>
            .ofOption (checkedBinary?_eq known left right) fun _ => applyBinary_ordinary known
      | reference name => exact .lookup name
      | assign name value =>
          have values : value.Operable := operable
          exact (ih values).bind (.assign name)

/-! ## Runs -/

namespace Execution

def checkedAndThen (first : Option Execution) (next : Scope → Option Execution) :
    Option Execution :=
  first.bind fun first =>
    match first.failure with
    | some _ => some first
    | none =>
      (next first.scope).map fun second =>
        { second with outputs := first.outputs ++ second.outputs }

def checkedWithValue (room : Nat) (token : Token) (expr : Expr)
    (next : Value → Scope → Option Execution) (scope : Scope) : Option Execution :=
  match expr.checked (room / levelRoom) scope with
  | none => none
  | some (.ok value, after) => next value after
  | some (.error fault, after) => some ⟨[], some (fault.within token), after⟩

def checkedInBlock (body : Scope → Option Execution) (scope : Scope) : Option Execution :=
  (body scope.enter).map fun inner => { inner with scope := inner.scope.leave }

end Execution

open Execution

mutual

def Stmt.checked : Nat → Stmt → Scope → Option Execution
  | room, .expression value =>
    checkedWithValue room (Stmt.expression value).token value fun _ scope => some (.idle scope)
  | room, .spill value =>
    checkedWithValue room (Stmt.spill value).token value fun value scope =>
      value.checkedDisplay?.map fun text => ⟨[text], none, scope⟩
  | _, .declare name none => fun scope => some (.idle (scope.define name.lexeme .hampa))
  | room, .declare name (some initial) =>
    checkedWithValue room name initial fun value scope =>
      some (.idle (scope.define name.lexeme value))
  | room, .kalo condition body otherwise =>
    let token := condition.token?.getD (.eof .start)
    checkedWithValue room token condition fun value scope =>
      if value.holds then checkedInBlock (Block.checked (room - blockRoom) body) scope
      else otherwise.checked room token scope

def Otherwise.checked : Nat → Otherwise → Token → Scope → Option Execution
  | _, .nothing, _ => fun scope => some (.idle scope)
  | room, .kalogak body, _ => checkedInBlock (Block.checked (room - blockRoom) body)
  | room, .perhaps condition body otherwise, token =>
    checkedWithValue room token condition fun value scope =>
      if value.holds then checkedInBlock (Block.checked (room - blockRoom) body) scope
      else otherwise.checked room token scope

def Block.checked : Nat → List Stmt → Scope → Option Execution
  | _, [] => fun scope => some (.idle scope)
  | room, stmt :: rest => fun scope =>
    checkedAndThen (stmt.checked room scope) (Block.checked room rest)

end

def Program.checked (room : Nat) : Program → Scope → Option Execution
  | [] => fun scope => some (.idle scope)
  | none :: _ => fun _ => none
  | some stmt :: rest => fun scope =>
    checkedAndThen (stmt.checked room scope) (Program.checked room rest)

structure Execution.Sound (checked : Option Execution) (run : Execution) : Prop where
  runs : checked = some run
  ordinary : ∀ failure, run.failure = some failure → failure.fault.Ordinary

namespace Execution.Sound

theorem unfailing (outputs : List String) (scope : Scope) :
    Sound (some ⟨outputs, none, scope⟩) ⟨outputs, none, scope⟩ :=
  ⟨rfl, fun _ failed => by cases failed⟩

theorem andThen {checked : Option Execution} {run : Execution}
    {next : Scope → Option Execution} {next' : Scope → Execution} (sound : Sound checked run)
    (sound' : ∀ scope, Sound (next scope) (next' scope)) :
    Sound (checkedAndThen checked next) (run.andThen next') := by
  obtain ⟨rfl, ordinary⟩ := sound
  unfold checkedAndThen Execution.andThen
  rw [Option.bind_some]
  cases failure : run.failure with
  | some failure => exact ⟨rfl, ordinary⟩
  | none =>
      obtain ⟨runs, ordinary'⟩ := sound' run.scope
      refine ⟨?_, ordinary'⟩
      rw [runs]
      rfl

theorem withValue {expr : Expr} (operable : expr.Operable) {room : Nat} {token : Token}
    {next : Value → Scope → Option Execution} {next' : Value → Scope → Execution}
    (sound : ∀ value scope, Sound (next value scope) (next' value scope)) (scope : Scope) :
    Sound (checkedWithValue room token expr next scope)
      (Execution.withValue room token expr next' scope) := by
  obtain ⟨runs, ordinary⟩ := Expr.checked_sound operable (room / levelRoom)
  unfold checkedWithValue Execution.withValue Expr.value
  rw [runs]
  rcases run : (expr.eval (room / levelRoom)).run scope with ⟨fault | value, after⟩
  · refine ⟨rfl, fun failure same => ?_⟩
    cases same
    exact ordinary scope fault (congrArg Prod.fst run)
  · exact sound value after

theorem inBlock {body : Scope → Option Execution} {body' : Scope → Execution}
    (sound : ∀ scope, Sound (body scope) (body' scope)) (scope : Scope) :
    Sound (checkedInBlock body scope) (Execution.inBlock body' scope) := by
  obtain ⟨runs, ordinary⟩ := sound scope.enter
  refine ⟨?_, ordinary⟩
  rw [checkedInBlock, runs]
  rfl

end Execution.Sound

mutual

theorem Stmt.checked_sound {stmt : Stmt} (operable : stmt.Operable) (room : Nat) (scope : Scope) :
    Sound (stmt.checked room scope) (stmt.exec room scope) := by
  match stmt with
  | .expression value => exact .withValue operable (fun _ => .unfailing []) scope
  | .spill value =>
      refine .withValue operable (fun value after => ?_) scope
      rw [value.checkedDisplay?_eq]
      exact .unfailing [value.display] after
  | .declare name none => exact .unfailing [] _
  | .declare name (some initial) => exact .withValue operable (fun _ _ => .unfailing [] _) scope
  | .kalo condition body otherwise =>
      obtain ⟨conditions, bodies, others⟩ := operable
      refine .withValue conditions (fun value after => ?_) scope
      split
      · exact .inBlock (Block.checked_sound bodies (room - blockRoom)) after
      · exact Otherwise.checked_sound others room _ after

theorem Otherwise.checked_sound {otherwise : Otherwise} (operable : otherwise.Operable) (room : Nat)
    (token : Token) (scope : Scope) :
    Sound (otherwise.checked room token scope) (otherwise.exec room token scope) := by
  match otherwise with
  | .nothing => exact .unfailing [] scope
  | .kalogak body => exact .inBlock (Block.checked_sound operable (room - blockRoom)) scope
  | .perhaps condition body otherwise =>
      obtain ⟨conditions, bodies, others⟩ := operable
      refine .withValue conditions (fun value after => ?_) scope
      split
      · exact .inBlock (Block.checked_sound bodies (room - blockRoom)) after
      · exact Otherwise.checked_sound others room token after

theorem Block.checked_sound {stmts : List Stmt} (operable : Block.Operable stmts) (room : Nat)
    (scope : Scope) : Sound (Block.checked room stmts scope) (Block.exec room stmts scope) := by
  match stmts with
  | [] => exact .unfailing [] scope
  | stmt :: rest =>
      exact (Stmt.checked_sound operable.1 room scope).andThen
        (Block.checked_sound operable.2 room)

end

theorem Program.checked_map_some (room : Nat) (stmts : List Stmt) :
    Program.checked room (stmts.map some) = Block.checked room stmts := by
  induction stmts with
  | nil => rfl
  | cons stmt rest ih =>
      rw [List.map_cons, checked, ih]
      rfl

theorem Program.checked_sound {stmts : List Stmt} (operable : Block.Operable stmts) (room : Nat)
    (scope : Scope) :
    Sound (Program.checked room (stmts.map some) scope)
      (Program.exec room (stmts.map some) scope) := by
  have whole : (stmts.map some).filterMap id = stmts := by simp
  rw [checked_map_some, exec, whole]
  exact Block.checked_sound operable room scope

end BilingualScript
