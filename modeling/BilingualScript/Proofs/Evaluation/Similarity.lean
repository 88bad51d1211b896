import BilingualScript.Evaluation.Statement

/-!
# Runs side by side

A program comes near its scope only where it mentions a name.  Whatever relation between two scopes
lasts while mentioned names are read and changed lasts for a whole run, and the two runs print and
fail alike.
-/

namespace BilingualScript

/-! ## Mentions -/

inductive Mention where
  | read (name : String)
  | write (name : String)
  deriving DecidableEq, Repr

def Mention.name : Mention → String
  | .read name | .write name => name

def Expr.mentions : Expr → List Mention
  | .literal _ => []
  | .grouping inner => inner.mentions
  | .unary _ operand => operand.mentions
  | .binary left _ right => left.mentions ++ right.mentions
  | .reference name => [.read name.lexeme]
  | .assign name value => value.mentions ++ [.write name.lexeme]

mutual

def Stmt.mentions : Stmt → List Mention
  | .expression value | .spill value => value.mentions
  | .declare name none => [.write name.lexeme]
  | .declare name (some initial) => initial.mentions ++ [.write name.lexeme]
  | .kalo condition body otherwise =>
    condition.mentions ++ (Block.mentions body ++ otherwise.mentions)

def Otherwise.mentions : Otherwise → List Mention
  | .nothing => []
  | .kalogak body => Block.mentions body
  | .perhaps condition body otherwise =>
    condition.mentions ++ (Block.mentions body ++ otherwise.mentions)

def Block.mentions : List Stmt → List Mention
  | [] => []
  | stmt :: rest => stmt.mentions ++ Block.mentions rest

end

/-! ## Relations that last -/

/-- A relation between scopes outlasts some mentions: names are read alike, and what is done to one
scope can be done to the other. -/
structure Outlasts (related : Scope → Scope → Prop) (mentions : List Mention) : Prop where
  lookup : ∀ {first second name}, related first second → .read name ∈ mentions →
    first.lookup? name = second.lookup? name
  assign : ∀ {first second name} value, related first second → .write name ∈ mentions →
    Option.Rel related (first.assign? name value) (second.assign? name value)
  define : ∀ {first second name} value, related first second → .write name ∈ mentions →
    related (first.define name value) (second.define name value)
  enter : ∀ {first second}, related first second → related first.enter second.enter
  leave : ∀ {first second}, related first second → related first.leave second.leave

variable {related : Scope → Scope → Prop} {mentions : List Mention}

namespace Evaluation

variable {α β : Type}

def Similar (related : Scope → Scope → Prop) (evaluation : Evaluation α) : Prop :=
  ∀ first second, related first second → ∃ result after after',
    evaluation.run first = (result, after) ∧ evaluation.run second = (result, after') ∧
      related after after'

theorem similar_ofExcept (result : Except Fault α) : Similar related (ofExcept result) :=
  fun _ _ alike => ⟨result, _, _, rfl, rfl, alike⟩

theorem Similar.bind {evaluation : Evaluation α} {next : α → Evaluation β}
    (similar : Similar related evaluation) (similar' : ∀ value, Similar related (next value)) :
    Similar related (evaluation >>= next) := by
  intro first second alike
  obtain ⟨result, middle, middle', run, run', alike⟩ := similar first second alike
  rw [run_bind, run_bind, run, run']
  cases result with
  | error fault => exact ⟨_, _, _, rfl, rfl, alike⟩
  | ok value => exact similar' value middle middle' alike

theorem similar_lookup (outlasts : Outlasts related mentions) {name : Token}
    (mentioned : .read name.lexeme ∈ mentions) : Similar related (lookup name) := by
  intro first second alike
  unfold Evaluation.run lookup
  rw [outlasts.lookup alike mentioned]
  split
  · exact ⟨_, _, _, rfl, rfl, alike⟩
  · exact ⟨_, _, _, rfl, rfl, alike⟩

theorem similar_assign (outlasts : Outlasts related mentions) {name : Token}
    (mentioned : .write name.lexeme ∈ mentions) (value : Value) :
    Similar related (assign name value) := by
  intro first second alike
  have changed := outlasts.assign value alike mentioned
  unfold Evaluation.run assign
  generalize first.assign? name.lexeme value = after? at changed
  generalize second.assign? name.lexeme value = after?' at changed
  cases changed with
  | some alike => exact ⟨_, _, _, rfl, rfl, alike⟩
  | none => exact ⟨_, _, _, rfl, rfl, alike⟩

end Evaluation

theorem Expr.eval_similar (outlasts : Outlasts related mentions) (depth : Nat) (expr : Expr)
    (mentioned : expr.mentions ⊆ mentions) : (expr.eval depth).Similar related := by
  induction depth generalizing expr with
  | zero => exact Evaluation.similar_ofExcept _
  | succ depth ih =>
      cases expr with
      | literal value => exact Evaluation.similar_ofExcept (.ok value)
      | grouping inner => exact ih inner mentioned
      | unary operator operand =>
          exact (ih operand mentioned).bind fun _ => Evaluation.similar_ofExcept _
      | binary left operator right =>
          obtain ⟨inLeft, inRight⟩ := List.append_subset.1 mentioned
          exact (ih left inLeft).bind fun _ =>
            (ih right inRight).bind fun _ => Evaluation.similar_ofExcept _
      | reference name =>
          exact Evaluation.similar_lookup outlasts (mentioned List.mem_cons_self)
      | assign name value =>
          obtain ⟨inValue, inName⟩ := List.append_subset.1 mentioned
          exact (ih value inValue).bind
            (Evaluation.similar_assign outlasts (inName List.mem_cons_self))

/-! ## Runs -/

namespace Execution

structure Similar (related : Scope → Scope → Prop) (run other : Execution) : Prop where
  outputs : run.outputs = other.outputs
  failure : run.failure = other.failure
  scope : related run.scope other.scope

variable {first second other other' : Execution} {scope scope' : Scope}

theorem similar_of_scope {outputs : List String} {failure? : Option Failure}
    (alike : related scope scope') :
    Similar related ⟨outputs, failure?, scope⟩ ⟨outputs, failure?, scope'⟩ := ⟨rfl, rfl, alike⟩

theorem Similar.ite {condition : Prop} [Decidable condition]
    (similar : Similar related first second) (similar' : Similar related other other') :
    Similar related (if condition then first else other)
      (if condition then second else other') := by
  split
  · exact similar
  · exact similar'

theorem Similar.inBlock (outlasts : Outlasts related mentions) {body : Scope → Execution}
    (similar : ∀ {scope scope'}, related scope scope' →
      Similar related (body scope) (body scope'))
    (alike : related scope scope') : Similar related (inBlock body scope) (inBlock body scope') :=
  have inner := similar (outlasts.enter alike)
  ⟨inner.outputs, inner.failure, outlasts.leave inner.scope⟩

theorem Similar.andThen {next : Scope → Execution} (similar : Similar related first second)
    (similar' : ∀ {scope scope'}, related scope scope' →
      Similar related (next scope) (next scope')) :
    Similar related (first.andThen next) (second.andThen next) := by
  obtain ⟨outputs, failure?, middle⟩ := first
  obtain ⟨outputs', failure?', middle'⟩ := second
  obtain ⟨rfl, rfl, alike⟩ := similar
  cases failure? with
  | some failure => exact ⟨rfl, rfl, alike⟩
  | none =>
      have last := similar' alike
      exact ⟨congrArg (outputs ++ ·) last.outputs, last.failure, last.scope⟩

theorem Similar.withValue (outlasts : Outlasts related mentions) {room : Nat} {token : Token}
    {expr : Expr} {next : Value → Scope → Execution} (mentioned : expr.mentions ⊆ mentions)
    (similar : ∀ value {scope scope'}, related scope scope' →
      Similar related (next value scope) (next value scope'))
    (alike : related scope scope') :
    Similar related (withValue room token expr next scope)
      (withValue room token expr next scope') := by
  obtain ⟨result, middle, middle', run, run', alike⟩ :=
    Expr.eval_similar outlasts (room / levelRoom) expr mentioned _ _ alike
  unfold Execution.withValue Expr.value
  rw [run, run']
  cases result with
  | error fault => exact similar_of_scope alike
  | ok value => exact similar value alike

end Execution

open Execution

mutual

theorem Stmt.exec_similar (outlasts : Outlasts related mentions) (room : Nat) {stmt : Stmt}
    (mentioned : stmt.mentions ⊆ mentions) {scope scope' : Scope} (alike : related scope scope') :
    Similar related (stmt.exec room scope) (stmt.exec room scope') := by
  match stmt with
  | .expression value => exact .withValue outlasts mentioned (fun _ => similar_of_scope) alike
  | .spill value => exact .withValue outlasts mentioned (fun _ => similar_of_scope) alike
  | .declare name none =>
      exact similar_of_scope (outlasts.define _ alike (mentioned List.mem_cons_self))
  | .declare name (some initial) =>
      obtain ⟨inValue, inName⟩ := List.append_subset.1 mentioned
      exact .withValue outlasts inValue
        (fun value _ _ alike =>
          similar_of_scope (outlasts.define value alike (inName List.mem_cons_self))) alike
  | .kalo condition body otherwise =>
      obtain ⟨inCondition, inBranches⟩ := List.append_subset.1 mentioned
      obtain ⟨inBody, inOthers⟩ := List.append_subset.1 inBranches
      exact .withValue outlasts inCondition (fun value _ _ alike =>
        .ite (.inBlock outlasts (Block.exec_similar outlasts _ inBody) alike)
          (Otherwise.exec_similar outlasts room inOthers _ alike)) alike

theorem Otherwise.exec_similar (outlasts : Outlasts related mentions) (room : Nat)
    {otherwise : Otherwise} (mentioned : otherwise.mentions ⊆ mentions) (token : Token)
    {scope scope' : Scope} (alike : related scope scope') :
    Similar related (otherwise.exec room token scope) (otherwise.exec room token scope') := by
  match otherwise with
  | .nothing => exact similar_of_scope alike
  | .kalogak body => exact .inBlock outlasts (Block.exec_similar outlasts _ mentioned) alike
  | .perhaps condition body otherwise =>
      obtain ⟨inCondition, inBranches⟩ := List.append_subset.1 mentioned
      obtain ⟨inBody, inOthers⟩ := List.append_subset.1 inBranches
      exact .withValue outlasts inCondition (fun value _ _ alike =>
        .ite (.inBlock outlasts (Block.exec_similar outlasts _ inBody) alike)
          (Otherwise.exec_similar outlasts room inOthers token alike)) alike

/-- A relation that outlasts what a program mentions outlasts a run of the program. -/
theorem Block.exec_similar (outlasts : Outlasts related mentions) (room : Nat) {stmts : List Stmt}
    (mentioned : Block.mentions stmts ⊆ mentions) {scope scope' : Scope}
    (alike : related scope scope') :
    Similar related (Block.exec room stmts scope) (Block.exec room stmts scope') := by
  match stmts with
  | [] => exact similar_of_scope alike
  | stmt :: rest =>
      obtain ⟨inStmt, inRest⟩ := List.append_subset.1 mentioned
      exact (Stmt.exec_similar outlasts room inStmt alike).andThen
        (Block.exec_similar outlasts room inRest)

end

end BilingualScript
