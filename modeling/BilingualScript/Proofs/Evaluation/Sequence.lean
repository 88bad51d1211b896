import BilingualScript.Evaluation.Statement

/-!
# Runs one after another

Statements run as their first ones do and, unless that fails, as the others do behind them.
-/

namespace BilingualScript

namespace Execution

theorem andThen_assoc (first : Execution) (second third : Scope → Execution) :
    (first.andThen second).andThen third =
      first.andThen fun scope => (second scope).andThen third := by
  obtain ⟨outputs, failure, middle⟩ := first
  cases failure with
  | some failure => rfl
  | none =>
      rcases run : second middle with ⟨outputs', failure', last⟩
      cases failure' with
      | some failure' => simp only [andThen, run]
      | none => simp only [andThen, run, List.append_assoc]

theorem andThen_of_failed {first : Execution} (failed : first.failure ≠ none)
    (next : Scope → Execution) : first.andThen next = first := by
  obtain ⟨failure, same⟩ := Option.ne_none_iff_exists'.1 failed
  rw [andThen, same]

theorem andThen_of_clean {first : Execution} (clean : first.failure = none)
    (next : Scope → Execution) :
    first.andThen next =
      { next first.scope with outputs := first.outputs ++ (next first.scope).outputs } := by
  rw [andThen, clean]

theorem andThen_clean {first : Execution} {next : Scope → Execution} {outputs : List String}
    {after : Scope} :
    first.andThen next = ⟨outputs, none, after⟩ ↔
      ∃ before middle behind, first = ⟨before, none, middle⟩ ∧
        next middle = ⟨behind, none, after⟩ ∧ outputs = before ++ behind := by
  obtain ⟨before, failure, middle⟩ := first
  cases failure with
  | some failure =>
      constructor
      · intro run
        cases congrArg Execution.failure run
      · rintro ⟨_, _, _, run, _⟩
        cases congrArg Execution.failure run
  | none =>
      rcases second : next middle with ⟨behind, failure, last⟩
      simp only [andThen, second, mk.injEq]
      constructor
      · rintro ⟨rfl, rfl, rfl⟩
        exact ⟨before, middle, behind, ⟨rfl, trivial, rfl⟩, second, rfl⟩
      · rintro ⟨_, _, _, ⟨rfl, _, rfl⟩, run, rfl⟩
        obtain ⟨rfl, rfl, rfl⟩ := mk.inj (second.symm.trans run)
        exact ⟨rfl, rfl, rfl⟩

end Execution

theorem Block.exec_append (room : Nat) (first second : List Stmt) (scope : Scope) :
    Block.exec room (first ++ second) scope =
      (Block.exec room first scope).andThen (Block.exec room second) := by
  induction first generalizing scope with
  | nil => rfl
  | cons stmt first ih =>
      rw [List.cons_append, exec, exec, Execution.andThen_assoc]
      exact congrArg _ (funext ih)

end BilingualScript
