import BilingualScript.Evaluation.Statement
import BilingualScript.Proofs.Scope.Levels

/-!
# Visits to names

A program uses a name where it reads it or assigns to it, and the text says which declarations
stand in front of that use.  A run visits some of the uses, in the order of the text and each at
most once; it fails for want of a variable exactly at a visit that does.
-/

namespace BilingualScript

/-! ## Uses -/

/-- A place where a name is read or assigned to, and the names that are declared in front of it: in
the same block or in one around it. -/
structure Use where
  name : Token
  declared : List String
  deriving DecidableEq, Repr

def Expr.uses (declared : List String) : Expr → List Use
  | .literal _ => []
  | .grouping inner => inner.uses declared
  | .unary _ operand => operand.uses declared
  | .binary left _ right => left.uses declared ++ right.uses declared
  | .reference name => [⟨name, declared⟩]
  | .assign name value => value.uses declared ++ [⟨name, declared⟩]

def Stmt.declared : Stmt → List String
  | .declare name _ => [name.lexeme]
  | .expression _ | .spill _ | .kalo _ _ _ => []

def Block.declared (stmts : List Stmt) : List String := stmts.flatMap Stmt.declared

mutual

/-- The uses in a statement.  A declaration does not stand in front of its own initial value. -/
def Stmt.uses (declared : List String) : Stmt → List Use
  | .expression value | .spill value => value.uses declared
  | .declare _ none => []
  | .declare _ (some initial) => initial.uses declared
  | .kalo condition body otherwise =>
    condition.uses declared ++ (Block.uses declared body ++ otherwise.uses declared)

def Otherwise.uses (declared : List String) : Otherwise → List Use
  | .nothing => []
  | .kalogak body => Block.uses declared body
  | .perhaps condition body otherwise =>
    condition.uses declared ++ (Block.uses declared body ++ otherwise.uses declared)

def Block.uses (declared : List String) : List Stmt → List Use
  | [] => []
  | stmt :: rest => stmt.uses declared ++ Block.uses (declared ++ stmt.declared) rest

end

/-! ## Visits -/

/-- A use that a run reaches, the scope there and, in an assignment, the value to be assigned. -/
structure Visit where
  use : Use
  scope : Scope
  value? : Option Value
  deriving DecidableEq, Repr

def Visit.result (visit : Visit) : Except Fault Value :=
  match visit.value? with
  | none => ((Evaluation.lookup visit.use.name).run visit.scope).1
  | some value => ((Evaluation.assign visit.use.name value).run visit.scope).1

def Evaluation.visitsBehind {α : Type} (evaluation : Evaluation α)
    (next : α → Scope → List Visit) (scope : Scope) : List Visit :=
  match evaluation.run scope with
  | (.ok value, after) => next value after
  | (.error _, _) => []

@[simp] theorem Evaluation.visitsBehind_nil {α : Type} (evaluation : Evaluation α)
    (scope : Scope) : evaluation.visitsBehind (fun _ _ => []) scope = [] := by
  unfold visitsBehind
  split <;> rfl

def Expr.visits (declared : List String) : Nat → Expr → Scope → List Visit
  | 0, _, _ => []
  | _ + 1, .literal _, _ => []
  | depth + 1, .grouping inner, scope => inner.visits declared depth scope
  | depth + 1, .unary _ operand, scope => operand.visits declared depth scope
  | depth + 1, .binary left _ right, scope =>
    left.visits declared depth scope ++
      (left.eval depth).visitsBehind (fun _ => right.visits declared depth) scope
  | _ + 1, .reference name, scope => [⟨⟨name, declared⟩, scope, none⟩]
  | depth + 1, .assign name value, scope =>
    value.visits declared depth scope ++
      (value.eval depth).visitsBehind
        (fun value after => [⟨⟨name, declared⟩, after, some value⟩]) scope

def Expr.valueVisits (declared : List String) (room : Nat) (expr : Expr)
    (next : Value → Scope → List Visit) (scope : Scope) : List Visit :=
  expr.visits declared (room / levelRoom) scope ++ (expr.value room).visitsBehind next scope

def Execution.visitsBehind (run : Execution) (next : Scope → List Visit) : List Visit :=
  match run.failure with
  | some _ => []
  | none => next run.scope

mutual

def Stmt.visits (declared : List String) : Nat → Stmt → Scope → List Visit
  | room, .expression value | room, .spill value => value.valueVisits declared room fun _ _ => []
  | _, .declare _ none => fun _ => []
  | room, .declare _ (some initial) => initial.valueVisits declared room fun _ _ => []
  | room, .kalo condition body otherwise =>
    condition.valueVisits declared room fun value scope =>
      if value.holds then Block.visits declared (room - blockRoom) body scope.enter
      else otherwise.visits declared room scope

def Otherwise.visits (declared : List String) : Nat → Otherwise → Scope → List Visit
  | _, .nothing => fun _ => []
  | room, .kalogak body => fun scope => Block.visits declared (room - blockRoom) body scope.enter
  | room, .perhaps condition body otherwise =>
    condition.valueVisits declared room fun value scope =>
      if value.holds then Block.visits declared (room - blockRoom) body scope.enter
      else otherwise.visits declared room scope

def Block.visits (declared : List String) : Nat → List Stmt → Scope → List Visit
  | _, [] => fun _ => []
  | room, stmt :: rest => fun scope =>
    stmt.visits declared room scope ++
      (stmt.exec room scope).visitsBehind (Block.visits (declared ++ stmt.declared) room rest)

end

/-! ## Visits follow the text -/

theorem Evaluation.visitsBehind_follow {α : Type} {evaluation : Evaluation α}
    {next : α → Scope → List Visit} {uses : List Use}
    (follow : ∀ value middle, ((next value middle).map Visit.use).Sublist uses) (scope : Scope) :
    ((evaluation.visitsBehind next scope).map Visit.use).Sublist uses := by
  unfold visitsBehind
  split
  · exact follow _ _
  · exact List.nil_sublist uses

theorem Expr.visits_follow (declared : List String) (depth : Nat) (expr : Expr) (scope : Scope) :
    ((expr.visits declared depth scope).map Visit.use).Sublist (expr.uses declared) := by
  induction depth generalizing expr scope with
  | zero => exact List.nil_sublist _
  | succ depth ih =>
      cases expr with
      | literal => exact .refl []
      | grouping inner => exact ih inner scope
      | unary operator operand => exact ih operand scope
      | binary left operator right =>
          rw [visits, List.map_append]
          exact (ih left scope).append
            (Evaluation.visitsBehind_follow (fun _ middle => ih right middle) scope)
      | reference name => exact .refl _
      | assign name value =>
          rw [visits, List.map_append]
          refine (ih value scope).append (Evaluation.visitsBehind_follow (fun _ _ => ?_) scope)
          exact .refl _

theorem Expr.valueVisits_follow {declared : List String} {expr : Expr} {room : Nat}
    {next : Value → Scope → List Visit} {uses : List Use}
    (follow : ∀ value middle, ((next value middle).map Visit.use).Sublist uses) (scope : Scope) :
    ((expr.valueVisits declared room next scope).map Visit.use).Sublist
      (expr.uses declared ++ uses) := by
  rw [valueVisits, List.map_append]
  exact (expr.visits_follow declared _ scope).append
    (Evaluation.visitsBehind_follow follow scope)

theorem Expr.valueVisits_nil_follow (declared : List String) (expr : Expr) (room : Nat)
    (scope : Scope) :
    ((expr.valueVisits declared room (fun _ _ => []) scope).map Visit.use).Sublist
      (expr.uses declared) := by
  rw [valueVisits, Evaluation.visitsBehind_nil, List.append_nil]
  exact expr.visits_follow declared _ scope

mutual

theorem Stmt.visits_follow (declared : List String) (room : Nat) (stmt : Stmt) (scope : Scope) :
    ((stmt.visits declared room scope).map Visit.use).Sublist (stmt.uses declared) := by
  match stmt with
  | .expression value => exact value.valueVisits_nil_follow declared room scope
  | .spill value => exact value.valueVisits_nil_follow declared room scope
  | .declare _ none => exact .refl []
  | .declare _ (some initial) => exact initial.valueVisits_nil_follow declared room scope
  | .kalo condition body otherwise =>
      refine condition.valueVisits_follow (fun value middle => ?_) scope
      split
      · exact (Block.visits_follow declared _ body _).trans (List.sublist_append_left _ _)
      · exact (Otherwise.visits_follow declared room otherwise middle).trans
          (List.sublist_append_right _ _)

theorem Otherwise.visits_follow (declared : List String) (room : Nat) (otherwise : Otherwise)
    (scope : Scope) :
    ((otherwise.visits declared room scope).map Visit.use).Sublist (otherwise.uses declared) := by
  match otherwise with
  | .nothing => exact .refl []
  | .kalogak body => exact Block.visits_follow declared _ body _
  | .perhaps condition body otherwise =>
      refine condition.valueVisits_follow (fun value middle => ?_) scope
      split
      · exact (Block.visits_follow declared _ body _).trans (List.sublist_append_left _ _)
      · exact (Otherwise.visits_follow declared room otherwise middle).trans
          (List.sublist_append_right _ _)

/-- A run visits uses in the order of the text, each at most once. -/
theorem Block.visits_follow (declared : List String) (room : Nat) (stmts : List Stmt)
    (scope : Scope) :
    ((Block.visits declared room stmts scope).map Visit.use).Sublist
      (Block.uses declared stmts) := by
  match stmts with
  | [] => exact .refl []
  | stmt :: rest =>
      rw [Block.visits, Block.uses, List.map_append]
      refine (Stmt.visits_follow declared room stmt scope).append ?_
      unfold Execution.visitsBehind
      split
      · exact List.nil_sublist _
      · exact Block.visits_follow (declared ++ stmt.declared) room rest _

end

/-! ## Visits that fail -/

def Misses (token : Token) (visits : List Visit) : Prop :=
  ∃ visit ∈ visits, visit.result = .error (.undefinedVariable token)

@[simp] theorem misses_nil (token : Token) : ¬Misses token [] := by simp [Misses]

@[simp] theorem misses_singleton (token : Token) (visit : Visit) :
    Misses token [visit] ↔ visit.result = .error (.undefinedVariable token) := by
  simp [Misses]

@[simp] theorem misses_append (token : Token) (first second : List Visit) :
    Misses token (first ++ second) ↔ Misses token first ∨ Misses token second := by
  simp [Misses, or_and_right, exists_or]

theorem Evaluation.bind_misses {α β : Type} {token : Token} {evaluation : Evaluation α}
    {next : α → Evaluation β} {visits : List Visit} {later : α → Scope → List Visit}
    {scope : Scope}
    (first : (evaluation.run scope).1 = .error (.undefinedVariable token) ↔ Misses token visits)
    (second : ∀ value middle, ((next value).run middle).1 = .error (.undefinedVariable token) ↔
      Misses token (later value middle)) :
    ((evaluation >>= next).run scope).1 = .error (.undefinedVariable token) ↔
      Misses token (visits ++ evaluation.visitsBehind later scope) := by
  rw [run_bind, visitsBehind, misses_append, ← first]
  rcases evaluation.run scope with ⟨fault | value, middle⟩
  · simp
  · simp [second]

theorem Evaluation.bind_ofExcept_misses {α β : Type} {token : Token} {evaluation : Evaluation α}
    {result : α → Except Fault β} {scope : Scope}
    (bound : ∀ value, result value ≠ .error (.undefinedVariable token)) :
    ((evaluation >>= fun value => ofExcept (result value)).run scope).1 =
        .error (.undefinedVariable token) ↔
      (evaluation.run scope).1 = .error (.undefinedVariable token) := by
  rw [run_bind]
  rcases evaluation.run scope with ⟨fault | value, middle⟩
  · simp
  · simp [bound]

theorem applyUnary_bound (operator : Token) (operand : Value) (token : Token) :
    applyUnary operator operand ≠ .error (.undefinedVariable token) := by
  unfold applyUnary
  split
  · nofun
  · split <;> nofun
  · nofun

theorem applyBinary_bound (operator : Token) (left right : Value) (token : Token) :
    applyBinary operator left right ≠ .error (.undefinedVariable token) := by
  unfold applyBinary
  split
  · nofun
  · nofun
  · unfold applyPlus
    split <;> nofun
  · split
    · nofun
    · split <;> nofun

theorem Expr.eval_misses (declared : List String) (depth : Nat) (expr : Expr) (scope : Scope)
    (token : Token) :
    ((expr.eval depth).run scope).1 = .error (.undefinedVariable token) ↔
      Misses token (expr.visits declared depth scope) := by
  induction depth generalizing expr scope with
  | zero => simp [eval, visits, Evaluation.fail]
  | succ depth ih =>
      cases expr with
      | literal value => exact iff_of_false nofun (misses_nil token)
      | grouping inner => exact ih inner scope
      | unary operator operand =>
          rw [eval, Evaluation.bind_ofExcept_misses fun value =>
            applyUnary_bound operator value token]
          exact ih operand scope
      | binary left operator right =>
          refine Evaluation.bind_misses (ih left scope) fun value middle => ?_
          rw [Evaluation.bind_ofExcept_misses fun other =>
            applyBinary_bound operator value other token]
          exact ih right middle
      | reference name => simp [visits, Visit.result, eval]
      | assign name value =>
          refine Evaluation.bind_misses (ih value scope) fun value middle => ?_
          simp [Visit.result]

def Execution.fault? (run : Execution) : Option Fault := run.failure.map Failure.fault

theorem Execution.withValue_misses {token : Token} {declared : List String} {room : Nat}
    {place : Token} {expr : Expr} {next : Value → Scope → Execution}
    {later : Value → Scope → List Visit}
    (second : ∀ value middle, (next value middle).fault? = some (.undefinedVariable token) ↔
      Misses token (later value middle)) (scope : Scope) :
    (withValue room place expr next scope).fault? = some (.undefinedVariable token) ↔
      Misses token (expr.valueVisits declared room later scope) := by
  have first := expr.eval_misses declared (room / levelRoom) scope token
  unfold Expr.valueVisits Evaluation.visitsBehind withValue Expr.value
  rw [misses_append, ← first]
  rcases (expr.eval (room / levelRoom)).run scope with ⟨fault | value, middle⟩
  · simp [fault?, Fault.within]
  · simp [second]

theorem Execution.andThen_misses {token : Token} {first : Execution} {next : Scope → Execution}
    {visits : List Visit} {later : Scope → List Visit}
    (first_misses : first.fault? = some (.undefinedVariable token) ↔ Misses token visits)
    (second : ∀ middle, (next middle).fault? = some (.undefinedVariable token) ↔
      Misses token (later middle)) :
    (first.andThen next).fault? = some (.undefinedVariable token) ↔
      Misses token (visits ++ first.visitsBehind later) := by
  rw [misses_append, ← first_misses]
  unfold andThen visitsBehind
  cases failed : first.failure with
  | some failure => simp
  | none => simpa [fault?, failed] using second first.scope

theorem Execution.unfailing_misses {run : Execution} (unfailing : run.failure = none)
    (token : Token) : run.fault? = some (.undefinedVariable token) ↔ Misses token [] := by
  simp [fault?, unfailing]

mutual

theorem Stmt.exec_misses (declared : List String) (room : Nat) (stmt : Stmt) (scope : Scope)
    (token : Token) :
    (stmt.exec room scope).fault? = some (.undefinedVariable token) ↔
      Misses token (stmt.visits declared room scope) := by
  match stmt with
  | .expression value =>
      exact Execution.withValue_misses (fun _ _ => Execution.unfailing_misses rfl token) scope
  | .spill value =>
      exact Execution.withValue_misses (fun _ _ => Execution.unfailing_misses rfl token) scope
  | .declare name none => exact Execution.unfailing_misses rfl token
  | .declare name (some initial) =>
      exact Execution.withValue_misses (fun _ _ => Execution.unfailing_misses rfl token) scope
  | .kalo condition body otherwise =>
      refine Execution.withValue_misses (fun value middle => ?_) scope
      split
      · exact Block.exec_misses declared (room - blockRoom) body middle.enter token
      · exact Otherwise.exec_misses declared room otherwise _ middle token

theorem Otherwise.exec_misses (declared : List String) (room : Nat) (otherwise : Otherwise)
    (place : Token) (scope : Scope) (token : Token) :
    (otherwise.exec room place scope).fault? = some (.undefinedVariable token) ↔
      Misses token (otherwise.visits declared room scope) := by
  match otherwise with
  | .nothing => exact Execution.unfailing_misses rfl token
  | .kalogak body => exact Block.exec_misses declared (room - blockRoom) body scope.enter token
  | .perhaps condition body otherwise =>
      refine Execution.withValue_misses (fun value middle => ?_) scope
      split
      · exact Block.exec_misses declared (room - blockRoom) body middle.enter token
      · exact Otherwise.exec_misses declared room otherwise _ middle token

/-- A run fails for want of a variable exactly if one of its visits does. -/
theorem Block.exec_misses (declared : List String) (room : Nat) (stmts : List Stmt)
    (scope : Scope) (token : Token) :
    (Block.exec room stmts scope).fault? = some (.undefinedVariable token) ↔
      Misses token (Block.visits declared room stmts scope) := by
  match stmts with
  | [] => exact Execution.unfailing_misses rfl token
  | stmt :: rest =>
      exact Execution.andThen_misses (Stmt.exec_misses declared room stmt scope token)
        fun middle => Block.exec_misses (declared ++ stmt.declared) room rest middle token

end

end BilingualScript
