import BilingualScript.Evaluation.Statement

/-!
# Where a run stops

A run that fails has stopped at an expression of which the value could not be found.  All that came
before ran to its end, and what that printed is all that the run printed.
-/

namespace BilingualScript

def Stmt.value? : Stmt → Option Expr
  | .expression value | .spill value => some value
  | .declare _ initial => initial
  | .kalo _ _ _ => none

mutual

inductive Stmt.Stops : Nat → Stmt → Scope → List String → Failure → Prop
  | value {room stmt expr scope fault after} : stmt.value? = some expr →
      (expr.value room).run scope = (.error fault, after) →
      Stmt.Stops room stmt scope [] (fault.within stmt.token)
  | kalo {room condition body otherwise scope outputs failure} :
      Otherwise.Stops room (.perhaps condition body otherwise)
        (Stmt.kalo condition body otherwise).token scope outputs failure →
      Stmt.Stops room (.kalo condition body otherwise) scope outputs failure

inductive Otherwise.Stops : Nat → Otherwise → Token → Scope → List String → Failure → Prop
  | kalogak {room body token scope outputs failure} :
      Block.Stops (room - blockRoom) body scope.enter outputs failure →
      Otherwise.Stops room (.kalogak body) token scope outputs failure
  | condition {room condition body otherwise token scope fault after} :
      (condition.value room).run scope = (.error fault, after) →
      Otherwise.Stops room (.perhaps condition body otherwise) token scope [] (fault.within token)
  | body {room condition body otherwise token scope value after outputs failure} :
      (condition.value room).run scope = (.ok value, after) → value.holds = true →
      Block.Stops (room - blockRoom) body after.enter outputs failure →
      Otherwise.Stops room (.perhaps condition body otherwise) token scope outputs failure
  | otherwise {room condition body otherwise token scope value after outputs failure} :
      (condition.value room).run scope = (.ok value, after) → value.holds = false →
      Otherwise.Stops room otherwise token after outputs failure →
      Otherwise.Stops room (.perhaps condition body otherwise) token scope outputs failure

/-- One of the statements of a block stops, and those in front of it run to their end. -/
inductive Block.Stops : Nat → List Stmt → Scope → List String → Failure → Prop
  | here {room stmt rest scope outputs failure} : Stmt.Stops room stmt scope outputs failure →
      Block.Stops room (stmt :: rest) scope outputs failure
  | behind {room stmt rest scope before after outputs failure} :
      stmt.exec room scope = ⟨before, none, after⟩ → Block.Stops room rest after outputs failure →
      Block.Stops room (stmt :: rest) scope (before ++ outputs) failure

end

namespace Execution

def Fails (run : Execution) (outputs : List String) (failure : Failure) : Prop :=
  run.outputs = outputs ∧ run.failure = some failure

variable {outputs : List String} {failure : Failure} {scope : Scope}

theorem not_fails_clean {printed : List String} : ¬Fails ⟨printed, none, scope⟩ outputs failure :=
  fun fails => nomatch fails.2

theorem fails_withValue {room : Nat} {token : Token} {expr : Expr}
    {next : Value → Scope → Execution} :
    (withValue room token expr next scope).Fails outputs failure ↔
      (∃ fault after, (expr.value room).run scope = (.error fault, after) ∧ outputs = [] ∧
        failure = fault.within token) ∨
      ∃ value after, (expr.value room).run scope = (.ok value, after) ∧
        (next value after).Fails outputs failure := by
  unfold withValue
  rcases (expr.value room).run scope with ⟨fault | value, after⟩
  · simp [Fails, eq_comm]
  · constructor
    · exact fun fails => .inr ⟨value, after, rfl, fails⟩
    · rintro (⟨_, _, run, _⟩ | ⟨_, _, run, fails⟩)
      · cases congrArg Prod.fst run
      · cases run
        exact fails

theorem fails_andThen {first : Execution} {next : Scope → Execution} :
    (first.andThen next).Fails outputs failure ↔
      first.Fails outputs failure ∨
        ∃ before after behind, first = ⟨before, none, after⟩ ∧
          (next after).Fails behind failure ∧ outputs = before ++ behind := by
  obtain ⟨before, failure', after⟩ := first
  cases failure' with
  | some failure' =>
      refine (or_iff_left ?_).symm
      rintro ⟨_, _, _, clean, _⟩
      cases congrArg Execution.failure clean
  | none =>
      constructor
      · rintro ⟨rfl, failed⟩
        exact .inr ⟨before, after, _, rfl, ⟨rfl, failed⟩, rfl⟩
      · rintro (⟨_, failed⟩ | ⟨_, _, _, clean, ⟨rfl, failed⟩, rfl⟩)
        · cases failed
        · cases clean
          exact ⟨rfl, failed⟩

end Execution

open Execution

theorem Stmt.stops_kalo {room : Nat} {condition : Expr} {body : List Stmt} {otherwise : Otherwise}
    {scope : Scope} {outputs : List String} {failure : Failure} :
    (Stmt.kalo condition body otherwise).Stops room scope outputs failure ↔
      (Otherwise.perhaps condition body otherwise).Stops room
        (Stmt.kalo condition body otherwise).token scope outputs failure := by
  refine ⟨fun stops => ?_, .kalo⟩
  cases stops with
  | value none => cases none
  | kalo stops => exact stops

theorem Otherwise.stops_kalogak {room : Nat} {body : List Stmt} {token : Token} {scope : Scope}
    {outputs : List String} {failure : Failure} :
    (Otherwise.kalogak body).Stops room token scope outputs failure ↔
      Block.Stops (room - blockRoom) body scope.enter outputs failure :=
  ⟨fun (.kalogak stops) => stops, .kalogak⟩

theorem Stmt.fails_iff_stops_value {room : Nat} {stmt : Stmt} {expr : Expr} {scope : Scope}
    {outputs : List String} {failure : Failure} {next : Value → Scope → Execution}
    (same : stmt.value? = some expr)
    (clean : ∀ value after, ¬(next value after).Fails outputs failure) :
    (withValue room stmt.token expr next scope).Fails outputs failure ↔
      stmt.Stops room scope outputs failure := by
  rw [fails_withValue]
  constructor
  · rintro (⟨fault, after, run, rfl, rfl⟩ | ⟨value, after, _, fails⟩)
    · exact .value same run
    · exact absurd fails (clean value after)
  · intro stops
    cases stops with
    | value same' run =>
        obtain rfl := Option.some.inj (same.symm.trans same')
        exact .inl ⟨_, _, run, rfl, rfl⟩
    | kalo => cases same

theorem Otherwise.fails_iff_stops_perhaps {room : Nat} {condition : Expr} {body : List Stmt}
    {otherwise : Otherwise} {token : Token} {scope : Scope} {outputs : List String}
    {failure : Failure}
    (inside : ∀ scope, (Block.exec (room - blockRoom) body scope).Fails outputs failure ↔
      Block.Stops (room - blockRoom) body scope outputs failure)
    (behind : ∀ scope, (otherwise.exec room token scope).Fails outputs failure ↔
      otherwise.Stops room token scope outputs failure) :
    ((Otherwise.perhaps condition body otherwise).exec room token scope).Fails outputs failure ↔
      (Otherwise.perhaps condition body otherwise).Stops room token scope outputs failure := by
  rw [Otherwise.exec, fails_withValue]
  constructor
  · rintro (⟨fault, after, run, rfl, rfl⟩ | ⟨value, after, run, fails⟩)
    · exact .condition run
    · cases holds : value.holds with
      | true =>
          rw [if_pos holds] at fails
          exact .body run holds ((inside after.enter).1 fails)
      | false =>
          rw [if_neg (by simp [holds])] at fails
          exact .otherwise run holds ((behind after).1 fails)
  · intro stops
    cases stops with
    | condition run => exact .inl ⟨_, _, run, rfl, rfl⟩
    | @body _ _ _ _ _ _ _ after _ _ run holds stops =>
        refine .inr ⟨_, after, run, ?_⟩
        rw [if_pos holds]
        exact (inside after.enter).2 stops
    | @otherwise _ _ _ _ _ _ _ after _ _ run fallen stops =>
        refine .inr ⟨_, after, run, ?_⟩
        rw [if_neg (by simp [fallen])]
        exact (behind after).2 stops

mutual

theorem Stmt.fails_iff_stops (room : Nat) (stmt : Stmt) (scope : Scope) (outputs : List String)
    (failure : Failure) :
    (stmt.exec room scope).Fails outputs failure ↔ stmt.Stops room scope outputs failure := by
  match stmt with
  | .expression value => exact Stmt.fails_iff_stops_value rfl fun _ _ => not_fails_clean
  | .spill value => exact Stmt.fails_iff_stops_value rfl fun _ _ => not_fails_clean
  | .declare name none =>
      refine iff_of_false not_fails_clean fun stops => ?_
      cases stops with
      | value none => cases none
  | .declare name (some initial) =>
      have same : (Stmt.declare name (some initial)).value? = some initial := rfl
      exact Stmt.fails_iff_stops_value same fun _ _ => not_fails_clean
  | .kalo condition body otherwise =>
      rw [Stmt.stops_kalo, ← Otherwise.fails_iff_stops_perhaps
        (fun scope => Block.fails_iff_stops _ body scope outputs failure)
        (fun scope => Otherwise.fails_iff_stops room otherwise _ scope outputs failure)]
      rw [Stmt.exec, Otherwise.exec]
      rfl

theorem Otherwise.fails_iff_stops (room : Nat) (otherwise : Otherwise) (token : Token)
    (scope : Scope) (outputs : List String) (failure : Failure) :
    (otherwise.exec room token scope).Fails outputs failure ↔
      otherwise.Stops room token scope outputs failure := by
  match otherwise with
  | .nothing => exact iff_of_false not_fails_clean nofun
  | .kalogak body =>
      rw [Otherwise.stops_kalogak, ← Block.fails_iff_stops (room - blockRoom) body, Otherwise.exec]
      rfl
  | .perhaps condition body otherwise =>
      exact Otherwise.fails_iff_stops_perhaps
        (fun scope => Block.fails_iff_stops _ body scope outputs failure)
        (fun scope => Otherwise.fails_iff_stops room otherwise token scope outputs failure)

/-- A run fails exactly where it stops, and what it has printed is what was printed before. -/
theorem Block.fails_iff_stops (room : Nat) (stmts : List Stmt) (scope : Scope)
    (outputs : List String) (failure : Failure) :
    (Block.exec room stmts scope).Fails outputs failure ↔
      Block.Stops room stmts scope outputs failure := by
  match stmts with
  | [] => exact iff_of_false not_fails_clean nofun
  | stmt :: rest =>
      rw [Block.exec, fails_andThen]
      constructor
      · rintro (first | ⟨before, after, behind, clean, second, rfl⟩)
        · exact .here ((Stmt.fails_iff_stops room stmt scope _ _).1 first)
        · exact .behind clean ((Block.fails_iff_stops room rest after _ _).1 second)
      · intro stops
        cases stops with
        | here stops => exact .inl ((Stmt.fails_iff_stops room stmt scope _ _).2 stops)
        | behind clean stops =>
            exact .inr ⟨_, _, _, clean, (Block.fails_iff_stops room rest _ _ _).2 stops, rfl⟩

end

end BilingualScript
