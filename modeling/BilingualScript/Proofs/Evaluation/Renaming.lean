import BilingualScript.Proofs.Evaluation.Pairing
import BilingualScript.Proofs.Scope.Renaming
import BilingualScript.Session

/-!
# Runs with a renamed variable

A variable of a block may have any name that the program does not mention.  While the block runs,
the scopes of both programs differ in one frame, that of the block, and there in nothing but the
name.
-/

namespace BilingualScript

variable {old new : String}

/-! ## Expressions -/

namespace Evaluation

variable {bound : Bool} {shadows : List Bool} {name : Token}

theorem lookup_renamed (other : name.lexeme ≠ new) :
    Paired (Scope.Renamed old new bound shadows) (lookup name)
      (lookup (name.renamed old (called old new bound shadows))) := by
  intro scope scope' alike
  have found' := alike.lookup? other
  unfold Evaluation.run lookup Token.renamed
  rw [found']
  cases found : scope.lookup? name.lexeme with
  | some value => exact ⟨_, _, _, rfl, rfl, alike⟩
  | none =>
      rw [alike.renamedTo_of_undefined found]
      exact ⟨_, _, _, rfl, rfl, alike⟩

theorem assign_renamed (other : name.lexeme ≠ new) (value : Value) :
    Paired (Scope.Renamed old new bound shadows) (assign name value)
      (assign (name.renamed old (called old new bound shadows)) value) := by
  intro scope scope' alike
  have changed := alike.assign? other value
  have undefined := alike.renamedTo_of_undefined ∘ (scope.assign?_eq_none_iff name.lexeme value).1
  unfold Evaluation.run assign Token.renamed
  generalize scope.assign? name.lexeme value = after? at changed undefined
  generalize scope'.assign? _ value = after?' at changed
  cases changed with
  | some alike => exact ⟨_, _, _, rfl, rfl, alike⟩
  | none =>
      rw [undefined rfl]
      exact ⟨_, _, _, rfl, rfl, alike⟩

end Evaluation

theorem Expr.eval_renamed (bound : Bool) (shadows : List Bool) (depth : Nat) (expr : Expr)
    (fresh : new ∉ expr.mentions.map Mention.name) :
    Evaluation.Paired (Scope.Renamed old new bound shadows) (expr.eval depth)
      ((expr.renamed old (called old new bound shadows)).eval depth) := by
  induction depth generalizing expr with
  | zero => exact Evaluation.paired_ofExcept _
  | succ depth ih =>
      cases expr with
      | literal value => exact Evaluation.paired_ofExcept (.ok value)
      | grouping inner => exact ih inner fresh
      | unary operator operand =>
          exact (ih operand fresh).bind fun _ => Evaluation.paired_ofExcept _
      | binary left operator right =>
          rw [mentions, List.map_append, List.mem_append, not_or] at fresh
          exact (ih left fresh.1).bind fun _ =>
            (ih right fresh.2).bind fun _ => Evaluation.paired_ofExcept _
      | reference name =>
          exact Evaluation.lookup_renamed fun same => fresh (List.mem_singleton.2 same.symm)
      | assign name value =>
          rw [mentions, List.map_append, List.mem_append, not_or] at fresh
          exact (ih value fresh.1).bind fun value => Evaluation.assign_renamed
            (fun same => fresh.2 (List.mem_singleton.2 same.symm)) value

/-! ## Failures -/

structure Failure.Renamed (old new : String) (failure other : Failure) : Prop where
  fault : other.fault = failure.fault
  token : other.token = failure.token ∨ other.token = failure.token.renamed old new

theorem Fault.within_renamed {token token' : Token}
    (same : token' = token ∨ token' = token.renamed old new) (fault : Fault) :
    Failure.Renamed old new (fault.within token) (fault.within token') := by
  unfold within
  cases fault.token? with
  | none => exact ⟨rfl, same⟩
  | some place => exact ⟨rfl, .inl rfl⟩

theorem Token.renamed_called (token : Token) (bound : Bool) (shadows : List Bool) :
    token.renamed old (called old new bound shadows) = token ∨
      token.renamed old (called old new bound shadows) = token.renamed old new := by
  rcases called_cases bound shadows with same | same
  · exact .inl (by rw [same, renamed_self])
  · exact .inr (by rw [same])

theorem Expr.token?_renamed (old new : String) (bound : Bool) (shadows : List Bool) (expr : Expr)
    (place : Token) :
    let token := expr.token?.getD place
    let token' := (expr.renamed old (called old new bound shadows)).token?.getD place
    token' = token ∨ token' = token.renamed old new := by
  induction expr with
  | literal | unary | binary => exact .inl rfl
  | grouping _ ih => exact ih
  | reference name | assign name _ _ => exact name.renamed_called bound shadows

/-! ## Statements inside the block -/

namespace Execution

variable {bound : Bool} {shadows : List Bool} {done : Scope → Scope → Prop}

theorem paired_withValue_renamed {room : Nat} {token token' : Token} {expr : Expr}
    {next next' : Value → Scope → Execution} {scope scope' : Scope}
    (fresh : new ∉ expr.mentions.map Mention.name)
    (same : token' = token ∨ token' = token.renamed old new)
    (second : ∀ value scope scope', Scope.Renamed old new bound shadows scope scope' →
      Paired (Failure.Renamed old new) done (Scope.Renamed old new bound shadows)
        (next value scope) (next' value scope'))
    (alike : Scope.Renamed old new bound shadows scope scope') :
    Paired (Failure.Renamed old new) done (Scope.Renamed old new bound shadows)
      (withValue room token expr next scope)
      (withValue room token' (expr.renamed old (called old new bound shadows)) next' scope') :=
  .withValue (expr.eval_renamed bound shadows _ fresh) (Fault.within_renamed same)
    (fun _ _ alike => alike) second alike

end Execution

open Execution

theorem Stmt.exec_declare_renamed {bound : Bool} {shadows : List Bool} {name' : Token}
    {done : Scope → Scope → Prop} (room : Nat) {name : Token} {initial : Option Expr}
    {scope scope' : Scope} (fresh : new ∉ (Stmt.declare name initial).mentions.map Mention.name)
    (same : name' = name ∨ name' = name.renamed old new)
    (defined : name.lexeme ≠ new → ∀ value scope scope',
      Scope.Renamed old new bound shadows scope scope' →
        done (scope.define name.lexeme value) (scope'.define name'.lexeme value))
    (alike : Scope.Renamed old new bound shadows scope scope') :
    Paired (Failure.Renamed old new) done (Scope.Renamed old new bound shadows)
      ((Stmt.declare name initial).exec room scope)
      ((Stmt.declare name' (initial.map (Expr.renamed old (called old new bound shadows)))).exec
        room scope') := by
  cases initial with
  | none =>
      have other : name.lexeme ≠ new := fun same => fresh (List.mem_singleton.2 same.symm)
      exact .done (defined other _ _ _ alike)
  | some initial =>
      rw [mentions, List.map_append, List.mem_append, not_or] at fresh
      have other : name.lexeme ≠ new := fun same => fresh.2 (List.mem_singleton.2 same.symm)
      exact paired_withValue_renamed fresh.1 same
        (fun value _ _ alike => .done (defined other value _ _ alike)) alike

theorem Stmt.exec_declare_inside {bound shadowed : Bool} {shadows : List Bool} (room : Nat)
    {name : Token} {initial : Option Expr} {scope scope' : Scope}
    (fresh : new ∉ (Stmt.declare name initial).mentions.map Mention.name)
    (alike : Scope.Renamed old new bound (shadowed :: shadows) scope scope') :
    Paired (Failure.Renamed old new)
      (Scope.Renamed old new bound ((old == name.lexeme || shadowed) :: shadows))
      (Scope.Renamed old new bound (shadowed :: shadows))
      ((Stmt.declare name initial).exec room scope)
      (((Stmt.declare name initial).renamedInside old
        (called old new bound (shadowed :: shadows))).exec room scope') :=
  exec_declare_renamed room fresh (.inl rfl)
    (fun other value _ _ alike => alike.define_inside other value) alike

theorem Execution.paired_inBlock_renamed {bound : Bool} {shadows : List Bool} {room : Nat}
    {stmts : List Stmt} {scope scope' : Scope}
    (inner : ∀ {scope scope'}, Scope.Renamed old new bound (false :: shadows) scope scope' →
      Paired (Failure.Renamed old new) (Scope.RenamedInside old new bound shadows)
        (Scope.RenamedInside old new bound shadows) (Block.exec room stmts scope)
        (Block.exec room
          (Block.renamedInside old (called old new bound (false :: shadows)) stmts) scope'))
    (alike : Scope.Renamed old new bound shadows scope scope') :
    Paired (Failure.Renamed old new) (Scope.Renamed old new bound shadows)
      (Scope.Renamed old new bound shadows) (inBlock (Block.exec room stmts) scope)
      (inBlock (Block.exec room
        (Block.renamedInside old (called old new bound shadows) stmts)) scope') := by
  rw [← called_unshadowed]
  exact (inner alike.enter).inBlock (fun _ _ ⟨_, alike⟩ => alike.leave)
    (fun _ _ ⟨_, alike⟩ => alike.leave)

theorem Block.renamedInside_behind (bound shadowed : Bool) (shadows : List Bool) (name : Token)
    (initial : Option Expr) (rest : List Stmt) :
    (if old ∈ (Stmt.declare name initial).declared then rest
      else Block.renamedInside old (called old new bound (shadowed :: shadows)) rest) =
      Block.renamedInside old
        (called old new bound ((old == name.lexeme || shadowed) :: shadows)) rest := by
  by_cases same : old = name.lexeme
  · simp [Stmt.declared, same]
  · have apart : (old == name.lexeme) = false := beq_eq_false_iff_ne.2 same
    simp [Stmt.declared, same, apart]

theorem Stmt.declared_cases (stmt : Stmt) :
    stmt.declared = [] ∨ ∃ name initial, stmt = .declare name initial := by
  cases stmt with
  | declare name initial => exact .inr ⟨name, initial, rfl⟩
  | expression | spill | kalo => exact .inl rfl

mutual

theorem Stmt.exec_renamedInside (bound : Bool) (shadows : List Bool) (room : Nat) {stmt : Stmt}
    (undeclared : stmt.declared = []) (fresh : new ∉ stmt.mentions.map Mention.name)
    {scope scope' : Scope} (alike : Scope.Renamed old new bound shadows scope scope') :
    Paired (Failure.Renamed old new) (Scope.Renamed old new bound shadows)
      (Scope.Renamed old new bound shadows) (stmt.exec room scope)
      ((stmt.renamedInside old (called old new bound shadows)).exec room scope') := by
  match stmt with
  | .expression value =>
      exact paired_withValue_renamed fresh (value.token?_renamed old new bound shadows _)
        (fun _ _ _ alike => .done alike) alike
  | .spill value =>
      exact paired_withValue_renamed fresh (value.token?_renamed old new bound shadows _)
        (fun _ _ _ alike => .done alike) alike
  | .declare _ _ => cases undeclared
  | .kalo condition body otherwise =>
      simp only [Stmt.mentions, List.map_append, List.mem_append, not_or] at fresh
      have place := condition.token?_renamed old new bound shadows (.eof .start)
      exact paired_withValue_renamed fresh.1 place (fun value _ _ alike =>
        .ite (paired_inBlock_renamed (Block.exec_renamedInside bound false shadows _ fresh.2.1)
          alike)
          (Otherwise.exec_renamedInside bound shadows room fresh.2.2 place alike)) alike

theorem Otherwise.exec_renamedInside (bound : Bool) (shadows : List Bool) (room : Nat)
    {otherwise : Otherwise} (fresh : new ∉ otherwise.mentions.map Mention.name)
    {token token' : Token} (same : token' = token ∨ token' = token.renamed old new)
    {scope scope' : Scope} (alike : Scope.Renamed old new bound shadows scope scope') :
    Paired (Failure.Renamed old new) (Scope.Renamed old new bound shadows)
      (Scope.Renamed old new bound shadows) (otherwise.exec room token scope)
      ((otherwise.renamedInside old (called old new bound shadows)).exec room token' scope') := by
  match otherwise with
  | .nothing => exact .done alike
  | .kalogak body =>
      exact paired_inBlock_renamed (Block.exec_renamedInside bound false shadows _ fresh) alike
  | .perhaps condition body otherwise =>
      simp only [Otherwise.mentions, List.map_append, List.mem_append, not_or] at fresh
      exact paired_withValue_renamed fresh.1 same (fun value _ _ alike =>
        .ite (paired_inBlock_renamed (Block.exec_renamedInside bound false shadows _ fresh.2.1)
          alike)
          (Otherwise.exec_renamedInside bound shadows room fresh.2.2 same alike)) alike

theorem Block.exec_renamedInside (bound shadowed : Bool) (shadows : List Bool) (room : Nat)
    {stmts : List Stmt} (fresh : new ∉ (Block.mentions stmts).map Mention.name)
    {scope scope' : Scope}
    (alike : Scope.Renamed old new bound (shadowed :: shadows) scope scope') :
    Paired (Failure.Renamed old new) (Scope.RenamedInside old new bound shadows)
      (Scope.RenamedInside old new bound shadows) (Block.exec room stmts scope)
      (Block.exec room (Block.renamedInside old (called old new bound (shadowed :: shadows)) stmts)
        scope') := by
  match stmts with
  | [] => exact .done ⟨_, alike⟩
  | stmt :: rest =>
      simp only [Block.mentions, List.map_append, List.mem_append, not_or] at fresh
      rcases stmt.declared_cases with undeclared | ⟨name, initial, rfl⟩
      · have first := Stmt.exec_renamedInside bound (shadowed :: shadows) room undeclared fresh.1
          alike
        rw [Block.renamedInside, undeclared, if_neg List.not_mem_nil]
        exact first.andThen (fun _ _ alike => ⟨_, alike⟩)
          fun _ _ alike => Block.exec_renamedInside bound shadowed shadows room fresh.2 alike
      · -- a declaration of the old name here hides the variable from the rest of the block
        have first := Stmt.exec_declare_inside room fresh.1 alike
        rw [Block.renamedInside, Block.renamedInside_behind]
        exact first.andThen (fun _ _ alike => ⟨_, alike⟩)
          fun _ _ alike => Block.exec_renamedInside bound _ shadows room fresh.2 alike

end

/-! ## The block -/

def Scope.RenamedBlock (old new : String) (scope scope' : Scope) : Prop :=
  ∃ bound, Renamed old new bound [] scope scope'

theorem Stmt.exec_declare_block {bound : Bool} (room : Nat) {name : Token}
    {initial : Option Expr} {scope scope' : Scope}
    (fresh : new ∉ (Stmt.declare name initial).mentions.map Mention.name)
    (alike : Scope.Renamed old new bound [] scope scope') :
    Paired (Failure.Renamed old new) (Scope.Renamed old new (old == name.lexeme || bound) [])
      (Scope.Renamed old new bound []) ((Stmt.declare name initial).exec room scope)
      ((Stmt.declare (name.renamed old new)
        (initial.map (Expr.renamed old (called old new bound [])))).exec room scope') :=
  exec_declare_renamed room fresh (.inr rfl)
    (fun other value _ _ alike => alike.define_block other value) alike

namespace Block

variable {scope scope' : Scope}

theorem exec_renamed_behind (room : Nat) {stmts : List Stmt}
    (fresh : new ∉ (Block.mentions stmts).map Mention.name)
    (alike : Scope.Renamed old new true [] scope scope') :
    Paired (Failure.Renamed old new) (Scope.RenamedBlock old new) (Scope.RenamedBlock old new)
      (Block.exec room stmts scope)
      (Block.exec room (stmts.map (Stmt.renamed old new)) scope') := by
  induction stmts generalizing scope scope' with
  | nil => exact .done ⟨_, alike⟩
  | cons stmt rest ih =>
      simp only [Block.mentions, List.map_append, List.mem_append, not_or] at fresh
      have first : Paired (Failure.Renamed old new) (Scope.Renamed old new true [])
          (Scope.Renamed old new true []) (stmt.exec room scope)
          ((stmt.renamed old new).exec room scope') := by
        cases stmt with
        | declare name initial =>
            simpa [Stmt.renamed] using Stmt.exec_declare_block room fresh.1 alike
        | expression | spill | kalo => exact Stmt.exec_renamedInside true [] room rfl fresh.1 alike
      exact first.andThen (fun _ _ alike => ⟨_, alike⟩)
        fun _ _ alike => ih fresh.2 alike

theorem exec_renamed (room : Nat) {stmts : List Stmt}
    (fresh : new ∉ (Block.mentions stmts).map Mention.name)
    (alike : Scope.Renamed old new false [] scope scope') :
    Paired (Failure.Renamed old new) (Scope.RenamedBlock old new) (Scope.RenamedBlock old new)
      (Block.exec room stmts scope) (Block.exec room (Block.renamed old new stmts) scope') := by
  induction stmts generalizing scope scope' with
  | nil => exact .done ⟨_, alike⟩
  | cons stmt rest ih =>
      simp only [Block.mentions, List.map_append, List.mem_append, not_or] at fresh
      cases stmt with
      | declare name initial =>
          have first := Stmt.exec_declare_block room fresh.1 alike
          rw [called_block, if_neg Bool.false_ne_true, Expr.map_renamed_self] at first
          unfold Block.renamed
          by_cases same : name.lexeme = old
          · -- the variable starts here, behind the initial value
            rw [if_pos same]
            rw [same, beq_self_eq_true, Bool.true_or] at first
            exact first.andThen (fun _ _ alike => ⟨_, alike⟩)
              fun _ _ alike => exec_renamed_behind room fresh.2 alike
          · have apart : (old == name.lexeme) = false := beq_eq_false_iff_ne.2 (Ne.symm same)
            have kept : name.renamed old new = name := by simp [Token.renamed, renamedTo_of_ne same]
            rw [if_neg same]
            rw [apart, Bool.false_or, kept] at first
            exact first.andThen (fun _ _ alike => ⟨_, alike⟩)
              fun _ _ alike => ih fresh.2 alike
      | expression | spill | kalo =>
          have first := Stmt.exec_renamedInside false [] room rfl fresh.1 alike
          rw [called_block, if_neg Bool.false_ne_true, Stmt.renamedInside_self] at first
          exact first.andThen (fun _ _ alike => ⟨_, alike⟩)
            fun _ _ alike => ih fresh.2 alike

theorem inBlock_renamed (room : Nat) {stmts : List Stmt}
    (fresh : new ∉ (Block.mentions stmts).map Mention.name) (scope : Scope) :
    Paired (Failure.Renamed old new) Eq Eq (inBlock (Block.exec room stmts) scope)
      (inBlock (Block.exec room (Block.renamed old new stmts)) scope) :=
  (exec_renamed room fresh (.start scope)).inBlock (fun _ _ ⟨_, alike⟩ => alike.leave_block)
    (fun _ _ ⟨_, alike⟩ => alike.leave_block)

end Block

/-! ## The program around -/

theorem Failure.Renamed.refl (failure : Failure) : Failure.Renamed old new failure failure :=
  ⟨rfl, .inl rfl⟩

/-- Two runs print the same and leave the same scope.  If they fail they fail alike, but that the
token at fault may be renamed. -/
def Execution.Renamed (old new : String) (run other : Execution) : Prop :=
  Paired (Failure.Renamed old new) Eq Eq run other

namespace Execution.Renamed

theorem refl (run : Execution) : Renamed old new run run := by
  obtain ⟨outputs, failure, scope⟩ := run
  cases failure with
  | none => exact .done rfl
  | some failure => exact .stopped (.refl failure) rfl

theorem andThen {run other : Execution} {next next' : Scope → Execution}
    (first : Renamed old new run other)
    (second : ∀ scope, Renamed old new (next scope) (next' scope)) :
    Renamed old new (run.andThen next) (other.andThen next') := by
  refine Paired.andThen first (fun _ _ same => same) ?_
  rintro scope _ rfl
  exact second scope

theorem inBlock {body body' : Scope → Execution}
    (inner : ∀ scope, Renamed old new (body scope) (body' scope)) (scope : Scope) :
    Renamed old new (inBlock body scope) (inBlock body' scope) :=
  Paired.inBlock (inner scope.enter) (fun _ _ same => congrArg Scope.leave same)
    (fun _ _ same => congrArg Scope.leave same)

theorem withValue {room : Nat} {token : Token} {expr : Expr}
    {next next' : Value → Scope → Execution}
    (second : ∀ value scope, Renamed old new (next value scope) (next' value scope))
    (scope : Scope) :
    Renamed old new (withValue room token expr next scope)
      (withValue room token expr next' scope) := by
  refine Paired.withValue (Evaluation.paired_self _) (fun _ => .refl _) (fun _ _ same => same) ?_
    rfl
  rintro value scope _ rfl
  exact second value scope

theorem ite {condition : Prop} [Decidable condition] {run other run' other' : Execution}
    (renamed : Renamed old new run other) (renamed' : Renamed old new run' other') :
    Renamed old new (if condition then run else run') (if condition then other else other') :=
  Paired.ite renamed renamed'

end Execution.Renamed

section Around

variable {change : List Stmt → List Stmt}
  (changed : ∀ {stmts}, new ∉ (Block.mentions stmts).map Mention.name → ∀ room scope,
    Execution.Renamed old new (inBlock (Block.exec room stmts) scope)
      (inBlock (Block.exec room (change stmts)) scope))

include changed

theorem Otherwise.exec_changeBranch (number room : Nat) {otherwise : Otherwise}
    (fresh : new ∉ otherwise.mentions.map Mention.name) (token : Token) (scope : Scope) :
    Execution.Renamed old new (otherwise.exec room token scope)
      ((otherwise.changeBranch change number).exec room token scope) := by
  match number, otherwise with
  | 0, .nothing | _ + 1, .nothing => exact .refl _
  | 0, .kalogak body => exact changed fresh _ scope
  | _ + 1, .kalogak body => exact .refl _
  | 0, .perhaps condition body otherwise =>
      simp only [Otherwise.mentions, List.map_append, List.mem_append, not_or] at fresh
      exact .withValue (fun value scope => .ite (changed fresh.2.1 _ scope) (.refl _)) scope
  | number + 1, .perhaps condition body otherwise =>
      simp only [Otherwise.mentions, List.map_append, List.mem_append, not_or] at fresh
      exact .withValue (fun value scope =>
        .ite (.refl _) (Otherwise.exec_changeBranch number room fresh.2.2 token scope)) scope

theorem Stmt.exec_changeBranch (number room : Nat) {stmt : Stmt}
    (fresh : new ∉ stmt.mentions.map Mention.name) (scope : Scope) :
    Execution.Renamed old new (stmt.exec room scope)
      ((stmt.changeBranch change number).exec room scope) := by
  match number, stmt with
  | 0, .kalo condition body otherwise =>
      simp only [Stmt.mentions, List.map_append, List.mem_append, not_or] at fresh
      exact .withValue (fun value scope => .ite (changed fresh.2.1 _ scope) (.refl _)) scope
  | number + 1, .kalo condition body otherwise =>
      simp only [Stmt.mentions, List.map_append, List.mem_append, not_or] at fresh
      exact .withValue (fun value scope => .ite (.refl _)
        (Otherwise.exec_changeBranch changed number room fresh.2.2 _ scope)) scope
  | 0, .expression _ | 0, .spill _ | 0, .declare _ _ | _ + 1, .expression _ | _ + 1, .spill _
  | _ + 1, .declare _ _ => exact .refl _

theorem Block.exec_modify (index number room : Nat) {stmts : List Stmt}
    (fresh : new ∉ (Block.mentions stmts).map Mention.name) (scope : Scope) :
    Execution.Renamed old new (Block.exec room stmts scope)
      (Block.exec room (stmts.modify index (Stmt.changeBranch change number)) scope) := by
  induction stmts generalizing index scope with
  | nil => cases index <;> exact .refl _
  | cons stmt rest ih =>
      simp only [Block.mentions, List.map_append, List.mem_append, not_or] at fresh
      cases index with
      | zero =>
          exact (Stmt.exec_changeBranch changed number room fresh.1 scope).andThen fun _ => .refl _
      | succ index => exact (Execution.Renamed.refl _).andThen (ih index fresh.2)

theorem BlockPath.exec_change (path : BlockPath) (room : Nat) {stmts : List Stmt}
    (fresh : new ∉ (Block.mentions stmts).map Mention.name) (scope : Scope) :
    Execution.Renamed old new (Block.exec room stmts scope)
      (Block.exec room (path.change change stmts) scope) := by
  induction path generalizing stmts room scope with
  | branch index number => exact Block.exec_modify changed index number room fresh scope
  | inside index number path ih =>
      exact Block.exec_modify (fun fresh room => .inBlock (ih room fresh)) index number room fresh
        scope

end Around

/-- The variable of a block may be renamed.  If the declarations of a name directly in a block of an
if statement, and the uses that mean them, get a name that the program does not mention, then the
program prints the same, leaves the same variables behind, and fails with the same fault at the same
token, but that this may be one of those renamed. -/
theorem Program.exec_renamed_variable (room : Nat) (path : BlockPath) {stmts : List Stmt}
    (fresh : new ∉ (Block.mentions stmts).map Mention.name) (scope : Scope) :
    let run := Program.exec room (stmts.map some) scope
    let run' := Program.exec room ((path.change (Block.renamed old new) stmts).map some) scope
    run'.outputs = run.outputs ∧ run'.scope = run.scope ∧
      Option.Rel (Failure.Renamed old new) run.failure run'.failure := by
  intro run run'
  have paired : Execution.Renamed old new run run' := by
    simp only [run, run', Program.exec_map_some]
    exact path.exec_change (fun fresh room => Block.inBlock_renamed room fresh) room fresh scope
  exact ⟨paired.outputs, paired.scope.symm, paired.failure⟩

/-- A block that reads a variable from outside before it declares one of the same name, and in it a
block that does so again. -/
theorem Program.exec_renamed_of_nested_blocks :
    let source := "literally x\nkalo ril\nliterally x itu !x\nkalo x\nliterally x itu x\n" ++
      "udahan\n-(x itu x)\nudahan"
    let target := "literally x\nkalo ril\nliterally y itu !x\nkalo y\nliterally x itu y\n" ++
      "udahan\n-(y itu y)\nudahan"
    let program (source : String) := (Parsed.ofTokens 989 (Lexed.ofText source).tokens).program
    let stmts := (program source).filterMap id
    let stmts' := (BlockPath.branch 1 0).change (Block.renamed "x" "y") stmts
    let run := Program.exec 990 (stmts.map some) (.global [])
    let run' := Program.exec 990 (stmts'.map some) (.global [])
    "y" ∉ (Block.mentions stmts).map Mention.name ∧
      Program.dumpChars (stmts'.map some) = (program target).dumpChars ∧
      run.failure.isSome = true ∧ run'.outputs = run.outputs ∧ run'.scope = run.scope ∧
      Option.Rel (Failure.Renamed "x" "y") run.failure run'.failure := by
  intro source target program stmts stmts' run run'
  have fresh : "y" ∉ (Block.mentions stmts).map Mention.name := by decide +kernel
  have fails : run.failure.isSome = true := by decide +kernel
  have dumps : Program.dumpChars (stmts'.map some) = (program target).dumpChars := by
    decide +kernel
  exact ⟨fresh, dumps, fails, Program.exec_renamed_variable 990 (.branch 1 0) fresh (.global [])⟩

end BilingualScript
