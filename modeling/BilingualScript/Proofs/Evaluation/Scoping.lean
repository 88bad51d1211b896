import BilingualScript.Proofs.Evaluation.Frames

/-!
# Scoping is lexical

Whether a name has a value where a run reads it or assigns to it can be seen from the text: it has
one if it was bound before the run, or if a declaration of it stands in front of the use, in the
same block or in one around it.
-/

namespace BilingualScript

def Scope.Binds (scope : Scope) (bound : List String) : Prop :=
  ∀ name, name ∈ scope.names.flatten ↔ name ∈ bound

theorem Scope.Binds.congr {scope other : Scope} {bound : List String} (binds : scope.Binds bound)
    (same : other.names = scope.names) : other.Binds bound := by
  rwa [Binds, same]

theorem Scope.Binds.enter {scope : Scope} {bound : List String} (binds : scope.Binds bound) :
    scope.enter.Binds bound := binds

/-- At each of some visits the scope binds what was bound before the run and what is declared in
front of the use. -/
def Lexical (globals : List String) (visits : List Visit) : Prop :=
  ∀ visit ∈ visits, visit.scope.Binds (globals ++ visit.use.declared)

section Lexical

variable {globals : List String}

@[simp] theorem lexical_nil : Lexical globals [] := by simp [Lexical]

@[simp] theorem lexical_append {first second : List Visit} :
    Lexical globals (first ++ second) ↔ Lexical globals first ∧ Lexical globals second :=
  List.forall_mem_append

theorem Evaluation.visitsBehind_lexical {α : Type} {evaluation : Evaluation α}
    {next : α → Scope → List Visit} {scope : Scope}
    (next_lexical : ∀ value middle, middle = (evaluation.run scope).2 →
      Lexical globals (next value middle)) :
    Lexical globals (evaluation.visitsBehind next scope) := by
  unfold visitsBehind
  split
  · next run => exact next_lexical _ _ (by rw [run])
  · exact lexical_nil

theorem Expr.eval_binds (depth : Nat) (expr : Expr) {scope : Scope} {bound : List String}
    (binds : scope.Binds bound) : ((expr.eval depth).run scope).2.Binds bound :=
  binds.congr (expr.eval_traced [] depth scope).names_eq

theorem Expr.visits_lexical {declared : List String} (depth : Nat) (expr : Expr) {scope : Scope}
    (binds : scope.Binds (globals ++ declared)) :
    Lexical globals (expr.visits declared depth scope) := by
  induction depth generalizing expr scope with
  | zero => exact lexical_nil
  | succ depth ih =>
      cases expr with
      | literal => exact lexical_nil
      | grouping inner => exact ih inner binds
      | unary operator operand => exact ih operand binds
      | binary left operator right =>
          refine lexical_append.2 ⟨ih left binds, Evaluation.visitsBehind_lexical ?_⟩
          rintro _ middle rfl
          exact ih right (left.eval_binds depth binds)
      | reference name => simpa [visits, Lexical] using binds
      | assign name value =>
          refine lexical_append.2 ⟨ih value binds, Evaluation.visitsBehind_lexical ?_⟩
          rintro _ middle rfl
          simpa [Lexical] using value.eval_binds depth binds

theorem Expr.valueVisits_lexical {declared : List String} {room : Nat} {expr : Expr}
    {next : Value → Scope → List Visit}
    {scope : Scope} (binds : scope.Binds (globals ++ declared))
    (next_lexical : ∀ value middle, middle.Binds (globals ++ declared) →
      Lexical globals (next value middle)) :
    Lexical globals (expr.valueVisits declared room next scope) := by
  refine lexical_append.2 ⟨expr.visits_lexical _ binds, Evaluation.visitsBehind_lexical ?_⟩
  rintro value middle rfl
  exact next_lexical value _ (expr.eval_binds _ binds)

theorem Scope.Binds.define {scope : Scope} {bound : List String} (binds : scope.Binds bound)
    (name : String) (value : Value) : (scope.define name value).Binds (bound ++ [name]) := by
  intro wanted
  have known := binds wanted
  rw [scope.names_eq] at known
  rw [scope.names_define]
  by_cases old : name ∈ scope.frame.names <;> by_cases same : wanted = name <;>
    simp_all [List.mem_append, or_comm]

theorem Stmt.exec_binds {room : Nat} {stmt : Stmt} {scope : Scope} {bound : List String}
    (binds : scope.Binds bound) (unfailing : (stmt.exec room scope).failure = none) :
    (stmt.exec room scope).scope.Binds (bound ++ stmt.declared) := by
  have traced := Stmt.exec_traced [] room stmt scope
  cases stmt with
  | expression | spill | kalo =>
      rw [declared, List.append_nil]
      exact binds.congr traced.names_eq
  | declare name initial =>
      cases initial with
      | none => exact binds.define name.lexeme .hampa
      | some initial =>
          have evaluated := initial.eval_binds (room / levelRoom) binds
          unfold exec Execution.withValue Expr.value at unfailing ⊢
          rcases run : (initial.eval (room / levelRoom)).run scope with ⟨fault | value, middle⟩
          · rw [run] at unfailing
            cases unfailing
          · rw [run] at evaluated
            exact evaluated.define name.lexeme value

mutual

theorem Stmt.visits_lexical {declared : List String} (room : Nat) (stmt : Stmt) {scope : Scope}
    (binds : scope.Binds (globals ++ declared)) :
    Lexical globals (stmt.visits declared room scope) := by
  match stmt with
  | .expression value => exact value.valueVisits_lexical binds fun _ _ _ => lexical_nil
  | .spill value => exact value.valueVisits_lexical binds fun _ _ _ => lexical_nil
  | .declare _ none => exact lexical_nil
  | .declare _ (some initial) => exact initial.valueVisits_lexical binds fun _ _ _ => lexical_nil
  | .kalo condition body otherwise =>
      refine condition.valueVisits_lexical binds fun value middle binds => ?_
      split
      · exact Block.visits_lexical (room - blockRoom) body binds.enter
      · exact Otherwise.visits_lexical room otherwise binds

theorem Otherwise.visits_lexical {declared : List String} (room : Nat) (otherwise : Otherwise)
    {scope : Scope} (binds : scope.Binds (globals ++ declared)) :
    Lexical globals (otherwise.visits declared room scope) := by
  match otherwise with
  | .nothing => exact lexical_nil
  | .kalogak body => exact Block.visits_lexical (room - blockRoom) body binds.enter
  | .perhaps condition body otherwise =>
      refine condition.valueVisits_lexical binds fun value middle binds => ?_
      split
      · exact Block.visits_lexical (room - blockRoom) body binds.enter
      · exact Otherwise.visits_lexical room otherwise binds

theorem Block.visits_lexical {declared : List String} (room : Nat) (stmts : List Stmt)
    {scope : Scope} (binds : scope.Binds (globals ++ declared)) :
    Lexical globals (Block.visits declared room stmts scope) := by
  match stmts with
  | [] => exact lexical_nil
  | stmt :: rest =>
      refine lexical_append.2 ⟨Stmt.visits_lexical room stmt binds, ?_⟩
      unfold Execution.visitsBehind
      split
      · exact lexical_nil
      · next unfailing =>
        have behind := Stmt.exec_binds binds unfailing
        rw [List.append_assoc] at behind
        exact Block.visits_lexical room rest behind

end

end Lexical

/-! ## Programs -/

namespace Program

def uses (program : Program) : List Use := Block.uses [] (program.filterMap id)

def visits (room : Nat) (program : Program) (globals : Frame) : List Visit :=
  Block.visits [] room (program.filterMap id) (.global globals)

end Program

end BilingualScript
