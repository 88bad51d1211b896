import BilingualScript.Proofs.Evaluation.Visits
import BilingualScript.Session

/-!
# What a run leaves in its scopes

However a run ends, it leaves the scope that it started in: the frames around the innermost one
bind the names that they bound, and the innermost one binds further names only as they are declared
in it.  A value farther out is the one last assigned to it or, if none was, the old one.
-/

namespace BilingualScript

variable {declared : List String} {before middle after : Scope}

/-! ## Stored values -/

def Visit.stored? (visit : Visit) (level : Nat) (name : String) : Option Value :=
  if visit.scope.home? visit.use.name.lexeme = some level ∧ name = visit.use.name.lexeme then
    visit.value?
  else none

def lastStored (level : Nat) (name : String) : List Visit → Option Value
  | [] => none
  | visit :: rest => (lastStored level name rest).or (visit.stored? level name)

theorem lastStored_append (level : Nat) (name : String) (first second : List Visit) :
    lastStored level name (first ++ second) =
      (lastStored level name second).or (lastStored level name first) := by
  induction first with
  | nil => simp [lastStored]
  | cons visit first ih => simp [lastStored, ih, Option.or_assoc]

/-! ## Traces -/

/-- A part of a run, of which the visits and the declared names are given, leads from a scope to
another one. -/
structure Traced (visits : List Visit) (defined : List String) (before after : Scope) : Prop where
  names : ∃ added, added.Sublist defined ∧
    after.names = (before.frame.names ++ added) :: before.namesAround
  cells : ∀ level name, level ≤ before.level → (level = before.level → name ∉ defined) →
    after.cell? level name = (lastStored level name visits).or (before.cell? level name)

namespace Traced

variable {first second : List Visit} {names names' : List String}

theorem names_eq (traced : Traced first [] before after) : after.names = before.names := by
  obtain ⟨added, none, names⟩ := traced.names
  rw [List.sublist_nil.1 none, List.append_nil] at names
  rw [names, before.names_eq]

theorem frame_names (traced : Traced first names before after) :
    ∃ added, added.Sublist names ∧ after.frame.names = before.frame.names ++ added := by
  obtain ⟨added, sublist, same⟩ := traced.names
  rw [after.names_eq] at same
  exact ⟨added, sublist, (List.cons.inj same).1⟩

theorem namesAround_eq (traced : Traced first names before after) :
    after.namesAround = before.namesAround := by
  obtain ⟨added, _, same⟩ := traced.names
  rw [after.names_eq] at same
  exact (List.cons.inj same).2

theorem level_eq (traced : Traced first names before after) : after.level = before.level := by
  have around := congrArg List.length traced.namesAround_eq
  have length (scope : Scope) : scope.namesAround.length = scope.level := by
    have := scope.length_names
    rw [scope.names_eq] at this
    simpa using this
  rwa [length, length] at around

theorem refl (scope : Scope) : Traced [] [] scope scope where
  names := ⟨[], .refl [], by simpa using scope.names_eq⟩
  cells _ _ _ _ := rfl

theorem trans (traced : Traced first names before middle)
    (traced' : Traced second names' middle after) :
    Traced (first ++ second) (names ++ names') before after where
  names := by
    obtain ⟨added, sublist, same⟩ := traced.frame_names
    obtain ⟨added', sublist', same'⟩ := traced'.names
    refine ⟨added ++ added', sublist.append sublist', ?_⟩
    rw [same', same, traced.namesAround_eq, List.append_assoc]
  cells level name le undeclared := by
    have same := traced.level_eq
    rw [traced'.cells level name (same ▸ le) fun here mem =>
        undeclared (here.trans same) (List.mem_append_right _ mem),
      traced.cells level name le fun here mem => undeclared here (List.mem_append_left _ mem),
      lastStored_append, Option.or_assoc]

theorem of_define (scope : Scope) (name : String) (value : Value) :
    Traced [] [name] scope (scope.define name value) where
  names := by
    rw [scope.names_define]
    split
    · exact ⟨[], List.nil_sublist _, by simp⟩
    · exact ⟨[name], .refl _, rfl⟩
  cells level wanted _ undeclared := by
    have other : ¬(level = scope.level ∧ wanted = name) := fun ⟨here, same⟩ =>
      undeclared here (List.mem_singleton.2 same)
    rw [Scope.cell?_define, if_neg other]
    rfl

theorem of_assign {name : Token} {value : Value} {scope : Scope}
    (assigned : scope.assign? name.lexeme value = some after) :
    Traced [⟨⟨name, declared⟩, scope, some value⟩] [] scope after where
  names := by
    refine ⟨[], .refl [], ?_⟩
    rw [(Scope.assign?_spec assigned).1, List.append_nil, scope.names_eq]
  cells level wanted _ _ := by
    rw [(Scope.assign?_spec assigned).2]
    by_cases stores : scope.home? name.lexeme = some level ∧ wanted = name.lexeme <;>
      simp [lastStored, Visit.stored?, stores]

theorem leave {scope : Scope} (traced : Traced first names scope.enter after) :
    Traced first [] scope after.leave := by
  have around : after.namesAround = scope.names := traced.namesAround_eq
  have level : after.level = scope.level + 1 := traced.level_eq
  cases after with
  | global frame => cases level
  | nested frame enclosing =>
      refine ⟨⟨[], .refl [], ?_⟩, fun level name le _ => ?_⟩
      · rw [List.append_nil, ← scope.names_eq]
        exact around
      · have here : level ≠ scope.level + 1 := by omega
        have cell := traced.cells level name (Nat.le_succ_of_le le) fun same => absurd same here
        have there : level ≠ enclosing.level + 1 := by
          have := Scope.level_eq_of_names around
          omega
        rwa [Scope.cell?, if_neg there, Scope.enter, Scope.cell?, if_neg here] at cell

end Traced

/-! ## Evaluations -/

theorem Traced.bind {α β : Type} {evaluation : Evaluation α} {next : α → Evaluation β}
    {visits : List Visit} {later : α → Scope → List Visit} {scope : Scope}
    (first : Traced visits [] scope (evaluation.run scope).2)
    (second : ∀ value middle, Traced (later value middle) [] middle ((next value).run middle).2) :
    Traced (visits ++ evaluation.visitsBehind later scope) [] scope
      ((evaluation >>= next).run scope).2 := by
  rw [Evaluation.run_bind, Evaluation.visitsBehind]
  rcases run : evaluation.run scope with ⟨_ | value, middle⟩
  · rw [run] at first
    rwa [List.append_nil]
  · rw [run] at first
    exact first.trans (second value middle)

theorem Evaluation.scope_bind_ofExcept {α β : Type} (evaluation : Evaluation α)
    (result : α → Except Fault β) (scope : Scope) :
    ((evaluation >>= fun value => ofExcept (result value)).run scope).2 =
      (evaluation.run scope).2 := by
  rw [run_bind]
  split
  · next run => rw [run_ofExcept, run]
  · next run => rw [run]

theorem Traced.of_unstored {visit : Visit} (scope : Scope)
    (none : ∀ level name, visit.stored? level name = none) : Traced [visit] [] scope scope where
  names := (refl scope).names
  cells level name _ _ := by simp [lastStored, none]

theorem Evaluation.lookup_traced (declared : List String) (name : Token) (scope : Scope) :
    Traced [⟨⟨name, declared⟩, scope, none⟩] [] scope ((lookup name).run scope).2 := by
  have kept : ((lookup name).run scope).2 = scope := by
    unfold run lookup
    cases scope.lookup? name.lexeme <;> rfl
  rw [kept]
  exact .of_unstored scope fun level wanted => by simp [Visit.stored?]

theorem Evaluation.assign_traced (declared : List String) (name : Token) (value : Value)
    (scope : Scope) :
    Traced [⟨⟨name, declared⟩, scope, some value⟩] [] scope ((assign name value).run scope).2 := by
  unfold run assign
  cases assigned : scope.assign? name.lexeme value with
  | some after => exact .of_assign assigned
  | none =>
      have homeless := (scope.home?_eq_none_iff _).2 ((scope.assign?_eq_none_iff _ _).1 assigned)
      exact .of_unstored scope fun level wanted => by simp [Visit.stored?, homeless]

theorem Expr.eval_traced (declared : List String) (depth : Nat) (expr : Expr) (scope : Scope) :
    Traced (expr.visits declared depth scope) [] scope ((expr.eval depth).run scope).2 := by
  induction depth generalizing expr scope with
  | zero => exact .refl scope
  | succ depth ih =>
      cases expr with
      | literal => exact .refl scope
      | grouping inner => exact ih inner scope
      | unary operator operand =>
          rw [eval, Evaluation.scope_bind_ofExcept]
          exact ih operand scope
      | binary left operator right =>
          refine (ih left scope).bind fun first middle => ?_
          rw [Evaluation.scope_bind_ofExcept]
          exact ih right middle
      | reference name => exact Evaluation.lookup_traced declared name scope
      | assign name value =>
          exact (ih value scope).bind fun value middle =>
            Evaluation.assign_traced declared name value middle

/-! ## Runs -/

theorem Traced.extend {visits : List Visit} {names : List String}
    (traced : Traced visits names before after) (further : List String) :
    Traced visits (names ++ further) before after where
  names := by
    obtain ⟨added, sublist, same⟩ := traced.names
    exact ⟨added, sublist.trans (List.sublist_append_left names further), same⟩
  cells level name le undeclared :=
    traced.cells level name le fun here mem => undeclared here (List.mem_append_left _ mem)

theorem Traced.withValue {room : Nat} {token : Token} {expr : Expr} {scope : Scope}
    {next : Value → Scope → Execution} {later : Value → Scope → List Visit} {names : List String}
    (second : ∀ value middle, Traced (later value middle) names middle (next value middle).scope) :
    Traced (expr.valueVisits declared room later scope) names scope
      (Execution.withValue room token expr next scope).scope := by
  have first := expr.eval_traced declared (room / levelRoom) scope
  unfold Expr.valueVisits Evaluation.visitsBehind Execution.withValue Expr.value
  rcases run : (expr.eval (room / levelRoom)).run scope with ⟨_ | value, middle⟩
  · rw [run] at first
    rw [List.append_nil]
    exact first.extend names
  · rw [run] at first
    exact first.trans (second value middle)

theorem Traced.inBlock {visits : List Visit} {names : List String} {body : Scope → Execution}
    {scope : Scope} (traced : Traced visits names scope.enter (body scope.enter).scope) :
    Traced visits [] scope (Execution.inBlock body scope).scope :=
  traced.leave

theorem Traced.andThen {first : Execution} {next : Scope → Execution} {scope : Scope}
    {visits : List Visit} {later : Scope → List Visit} {names names' : List String}
    (traced : Traced visits names scope first.scope)
    (traced' : Traced (later first.scope) names' first.scope (next first.scope).scope) :
    Traced (visits ++ first.visitsBehind later) (names ++ names') scope
      (first.andThen next).scope := by
  unfold Execution.visitsBehind Execution.andThen
  cases first.failure with
  | some failure =>
      rw [List.append_nil]
      exact traced.extend names'
  | none => exact traced.trans traced'

mutual

theorem Stmt.exec_traced (declared : List String) (room : Nat) (stmt : Stmt) (scope : Scope) :
    Traced (stmt.visits declared room scope) stmt.declared scope (stmt.exec room scope).scope := by
  match stmt with
  | .expression value => exact .withValue fun _ middle => .refl middle
  | .spill value => exact .withValue fun _ middle => .refl middle
  | .declare name none => exact .of_define scope name.lexeme .hampa
  | .declare name (some initial) =>
      exact .withValue fun value middle => .of_define middle name.lexeme value
  | .kalo condition body otherwise =>
      refine .withValue fun value middle => ?_
      split
      · exact .inBlock (Block.exec_traced declared (room - blockRoom) body middle.enter)
      · exact Otherwise.exec_traced declared room otherwise _ middle

theorem Otherwise.exec_traced (declared : List String) (room : Nat) (otherwise : Otherwise)
    (token : Token) (scope : Scope) :
    Traced (otherwise.visits declared room scope) [] scope
      (otherwise.exec room token scope).scope := by
  match otherwise with
  | .nothing => exact .refl scope
  | .kalogak body =>
      exact .inBlock (Block.exec_traced declared (room - blockRoom) body scope.enter)
  | .perhaps condition body otherwise =>
      refine .withValue fun value middle => ?_
      split
      · exact .inBlock (Block.exec_traced declared (room - blockRoom) body middle.enter)
      · exact Otherwise.exec_traced declared room otherwise token middle

theorem Block.exec_traced (declared : List String) (room : Nat) (stmts : List Stmt)
    (scope : Scope) :
    Traced (Block.visits declared room stmts scope) (Block.declared stmts) scope
      (Block.exec room stmts scope).scope := by
  match stmts with
  | [] => exact .refl scope
  | stmt :: rest =>
      have first := Stmt.exec_traced declared room stmt scope
      exact first.andThen (Block.exec_traced (declared ++ stmt.declared) room rest _)

end

theorem Session.interpret_level (session : Session) (calls : Nat) (program : Program) :
    (session.interpret calls program).1.scope.level = session.scope.level :=
  (Block.exec_traced [] _ (program.filterMap id) session.scope).level_eq

/-- However a run ends, it ends in the scope in which it started.  The frames around that bind what
they bound; its own frame binds further names only as they are declared directly in it.  A value
changes by the assignments that store in its place, and a block leaves no name behind. -/
theorem Block.exec_keeps_scopes (room : Nat) (stmts : List Stmt) (scope : Scope) :
    let after := (Block.exec room stmts scope).scope
    after.level = scope.level ∧
      after.namesAround = scope.namesAround ∧
      (∃ added, added.Sublist (Block.declared stmts) ∧
        after.frame.names = scope.frame.names ++ added) ∧
      (∀ level name, level ≤ scope.level →
        (level = scope.level → name ∉ Block.declared stmts) →
        after.cell? level name =
          (lastStored level name (Block.visits [] room stmts scope)).or
            (scope.cell? level name)) ∧
      (∀ condition body otherwise,
        ((Stmt.kalo condition body otherwise).exec room scope).scope.names = scope.names) ∧
      ∀ (session : Session) (calls : Nat) (frame : Frame), session.scope = .global frame →
        ∃ frame, (session.interpret calls (stmts.map some)).1.scope = .global frame := by
  have traced := Block.exec_traced [] room stmts scope
  refine ⟨traced.level_eq, traced.namesAround_eq, traced.frame_names, traced.cells, ?_, ?_⟩
  · intro condition body otherwise
    exact (Stmt.exec_traced [] room (.kalo condition body otherwise) scope).names_eq
  · intro session calls frame outside
    refine Scope.exists_global_of_level ?_
    rw [session.interpret_level, outside]
    rfl

theorem Block.exec_keeps_scopes_of_failure :
    let source := "literally x\nkalo ril\nliterally y\ng itu y\nspill -y\nudahan\nliterally z"
    let stmts := (Parsed.ofTokens 989 (Lexed.ofText source).tokens).program.filterMap id
    let scope := Scope.nested [("x", .truth true)] (.global [("g", .truth true)])
    let run := Block.exec 990 stmts scope
    run.failure.isSome = true ∧ run.scope.level = 1 ∧ run.scope.namesAround = [["g"]] ∧
      0 ≤ scope.level ∧ (0 = scope.level → "g" ∉ Block.declared stmts) ∧
      run.scope.cell? 0 "g" =
        (lastStored 0 "g" (Block.visits [] 990 stmts scope)).or (some (.truth true)) := by
  intro source stmts scope
  obtain ⟨level, around, _, cells, _⟩ := Block.exec_keeps_scopes 990 stmts scope
  exact ⟨by decide +kernel, level, around, Nat.zero_le _, nofun, cells 0 "g" (Nat.zero_le _) nofun⟩

end BilingualScript
