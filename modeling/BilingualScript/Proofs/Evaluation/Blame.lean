import BilingualScript.Evaluation.Statement
import BilingualScript.Proofs.Program.Tokens

/-!
# What failures are reported at

A run that fails is reported at a token of its program, unless the failure is one of depth in a
statement that has no token.
-/

namespace BilingualScript

/-! ## Expressions -/

namespace Evaluation

variable {α β : Type} {tokens : List Token}

def Blames (tokens : List Token) (evaluation : Evaluation α) : Prop :=
  ∀ scope, ∀ fault after, evaluation.run scope = (.error fault, after) →
    ∀ token ∈ fault.token?, token ∈ tokens

theorem blames_pure (value : α) : Blames tokens (pure value) :=
  fun _ _ _ run => nomatch congrArg Prod.fst run

theorem blames_ofExcept {result : Except Fault α}
    (faults : ∀ fault, result = .error fault → ∀ token ∈ fault.token?, token ∈ tokens) :
    Blames tokens (ofExcept result) :=
  fun _ fault _ run => faults fault (congrArg Prod.fst run)

theorem Blames.bind {evaluation : Evaluation α} {next : α → Evaluation β}
    (first : Blames tokens evaluation) (second : ∀ value, Blames tokens (next value)) :
    Blames tokens (evaluation >>= next) := by
  intro scope fault after run
  rw [run_bind] at run
  split at run
  · exact second _ _ _ _ run
  · next found =>
    obtain ⟨same, _⟩ := Prod.mk.inj run
    obtain rfl := Except.error.inj same
    exact first _ _ _ found

theorem blames_lookup {name : Token} (mem : name ∈ tokens) : Blames tokens (lookup name) := by
  intro scope fault after run
  unfold Evaluation.run lookup at run
  split at run
  · cases congrArg Prod.fst run
  · obtain rfl := Except.error.inj (congrArg Prod.fst run)
    simpa [Fault.token?] using mem

theorem blames_assign {name : Token} (mem : name ∈ tokens) (value : Value) :
    Blames tokens (assign name value) := by
  intro scope fault after run
  unfold Evaluation.run assign at run
  split at run
  · cases congrArg Prod.fst run
  · obtain rfl := Except.error.inj (congrArg Prod.fst run)
    simpa [Fault.token?] using mem

end Evaluation

theorem applyUnary_blames {operator : Token} {operand : Value} {fault : Fault}
    (fails : applyUnary operator operand = .error fault) : fault.token? = some operator := by
  unfold applyUnary at fails
  split at fails
  · cases fails
  · split at fails
    · cases fails
    · cases fails
      rfl
  · cases fails
    rfl

theorem applyBinary_blames {operator : Token} {left right : Value} {fault : Fault}
    (fails : applyBinary operator left right = .error fault) : fault.token? = some operator := by
  unfold applyBinary at fails
  split at fails
  · cases fails
  · cases fails
  · unfold applyPlus at fails
    split at fails
    · cases fails
    · cases fails
    · cases fails
      rfl
  · split at fails
    · cases fails
      rfl
    · split at fails
      · cases fails
      · cases fails
        rfl

open Evaluation in
theorem Expr.eval_blames {tokens : List Token} (depth : Nat) {expr : Expr}
    (subset : expr.tokens ⊆ tokens) : Blames tokens (expr.eval depth) := by
  induction depth generalizing expr with
  | zero =>
      refine blames_ofExcept fun fault fails token mem => ?_
      obtain rfl := Except.error.inj fails
      cases mem
  | succ depth ih =>
      cases expr with
      | literal value => exact blames_pure value
      | grouping inner => exact ih subset
      | unary operator operand =>
          obtain ⟨mem, inner⟩ := List.cons_subset.1 subset
          refine .bind (ih inner) fun _ => blames_ofExcept fun fault fails token found => ?_
          rw [applyUnary_blames fails] at found
          exact Option.some.inj found ▸ mem
      | binary left operator right =>
          obtain ⟨first, behind⟩ := List.append_subset.1 subset
          obtain ⟨mem, second⟩ := List.cons_subset.1 behind
          refine .bind (ih first) fun _ => .bind (ih second) fun _ => ?_
          refine blames_ofExcept fun fault fails token found => ?_
          rw [applyBinary_blames fails] at found
          exact Option.some.inj found ▸ mem
      | reference name => exact blames_lookup (subset List.mem_cons_self)
      | assign name value =>
          obtain ⟨mem, inner⟩ := List.cons_subset.1 subset
          exact .bind (ih inner) fun value => blames_assign mem value

/-! ## Statements -/

mutual

def Stmt.heads : Stmt → List Expr
  | .expression value | .spill value => [value]
  | .declare _ _ => []
  | .kalo condition body otherwise => condition :: (Block.heads body ++ otherwise.heads)

def Otherwise.heads : Otherwise → List Expr
  | .nothing => []
  | .kalogak body => Block.heads body
  | .perhaps _ body otherwise => Block.heads body ++ otherwise.heads

def Block.heads : List Stmt → List Expr
  | [] => []
  | stmt :: rest => stmt.heads ++ Block.heads rest

end

/-- A failure is reported at one of some tokens, or it is one of depth and reported at the start of
the text, because of an expression that has no token. -/
def Failure.Blames (tokens : List Token) (heads : List Expr) (failure : Failure) : Prop :=
  failure.token ∈ tokens ∨
    failure = ⟨.tooDeep, .eof .start⟩ ∧ ∃ head ∈ heads, head.token? = none

namespace Execution

variable {tokens : List Token} {heads : List Expr}

def Blames (tokens : List Token) (heads : List Expr) (execution : Execution) : Prop :=
  ∀ failure ∈ execution.failure, failure.Blames tokens heads

theorem blames_of_clean (outputs : List String) (scope : Scope) :
    Blames tokens heads ⟨outputs, none, scope⟩ := by
  intro failure failed
  cases failed

theorem Blames.andThen {first : Execution} {next : Scope → Execution}
    (blames : Blames tokens heads first) (after : ∀ scope, Blames tokens heads (next scope)) :
    Blames tokens heads (first.andThen next) := by
  unfold Execution.andThen
  split
  · exact blames
  · exact after _

theorem blames_inBlock {body : Scope → Execution} {scope : Scope}
    (blames : Blames tokens heads (body scope.enter)) : Blames tokens heads (inBlock body scope) :=
  blames

theorem blames_withValue {room : Nat} {token : Token} {expr : Expr}
    {next : Value → Scope → Execution} {scope : Scope}
    (values : expr.tokens ⊆ tokens) (whole : Failure.Blames tokens heads ⟨.tooDeep, token⟩)
    (after : ∀ value middle, Blames tokens heads (next value middle)) :
    Blames tokens heads (withValue room token expr next scope) := by
  unfold withValue
  split
  · exact after _ _
  · next fault _ run =>
    intro failure failed
    obtain rfl := Option.some.inj failed
    cases found : fault.token? with
    | some blamed =>
        have mem := expr.eval_blames _ values _ _ _ run blamed found
        exact .inl (by simpa [Fault.within, found] using mem)
    | none =>
        obtain rfl := fault.token?_eq_none_iff.1 found
        exact whole

theorem blames_token? {expr : Expr} (subset : expr.tokens ⊆ tokens) (mem : expr ∈ heads) :
    Failure.Blames tokens heads ⟨.tooDeep, expr.token?.getD (.eof .start)⟩ := by
  cases found : expr.token? with
  | some token => exact .inl (subset (Expr.mem_tokens_of_token? found))
  | none => exact .inr ⟨rfl, expr, mem, found⟩

end Execution

open Execution

variable {tokens : List Token} {heads : List Expr}

mutual

theorem Stmt.exec_blames (room : Nat) {stmt : Stmt} (scope : Scope)
    (subset : stmt.tokens ⊆ tokens) (subset' : stmt.heads ⊆ heads) :
    Blames tokens heads (stmt.exec room scope) := by
  match stmt with
  | .expression _ | .spill _ =>
      have whole := blames_token? subset (subset' List.mem_cons_self)
      exact blames_withValue subset whole fun _ _ => blames_of_clean _ _
  | .declare _ none => exact blames_of_clean _ _
  | .declare _ (some _) =>
      obtain ⟨mem, values⟩ := List.cons_subset.1 subset
      exact blames_withValue values (.inl mem) fun _ _ => blames_of_clean _ _
  | .kalo condition body otherwise =>
      obtain ⟨values, behind⟩ := List.append_subset.1 subset
      obtain ⟨body_tokens, other_tokens⟩ := List.append_subset.1 behind
      obtain ⟨mem, behind'⟩ := List.cons_subset.1 subset'
      obtain ⟨body_heads, other_heads⟩ := List.append_subset.1 behind'
      have whole := blames_token? values mem
      refine blames_withValue values whole fun value middle => ?_
      split
      · exact blames_inBlock (Block.exec_blames _ _ body_tokens body_heads)
      · exact Otherwise.exec_blames room whole middle other_tokens other_heads

theorem Otherwise.exec_blames (room : Nat) {otherwise : Otherwise} {token : Token}
    (whole : Failure.Blames tokens heads ⟨.tooDeep, token⟩) (scope : Scope)
    (subset : otherwise.tokens ⊆ tokens) (subset' : otherwise.heads ⊆ heads) :
    Blames tokens heads (otherwise.exec room token scope) := by
  match otherwise with
  | .nothing => exact blames_of_clean _ _
  | .kalogak _ => exact blames_inBlock (Block.exec_blames _ _ subset subset')
  | .perhaps _ _ _ =>
      obtain ⟨values, behind⟩ := List.append_subset.1 subset
      obtain ⟨body_tokens, other_tokens⟩ := List.append_subset.1 behind
      obtain ⟨body_heads, other_heads⟩ := List.append_subset.1 subset'
      refine blames_withValue values whole fun value middle => ?_
      split
      · exact blames_inBlock (Block.exec_blames _ _ body_tokens body_heads)
      · exact Otherwise.exec_blames room whole middle other_tokens other_heads

theorem Block.exec_blames (room : Nat) {stmts : List Stmt} (scope : Scope)
    (subset : Block.tokens stmts ⊆ tokens) (subset' : Block.heads stmts ⊆ heads) :
    Blames tokens heads (Block.exec room stmts scope) := by
  match stmts with
  | [] => exact blames_of_clean _ _
  | _ :: _ =>
      obtain ⟨first, rest⟩ := List.append_subset.1 subset
      obtain ⟨first', rest'⟩ := List.append_subset.1 subset'
      exact (Stmt.exec_blames room scope first first').andThen fun scope =>
        Block.exec_blames room scope rest rest'

end

end BilingualScript
