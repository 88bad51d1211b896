import BilingualScript.Proofs.Evaluation.Frames
import BilingualScript.Proofs.Evaluation.Similarity

/-!
# What a program does not mention

Names that a program does not mention neither matter to its run nor are touched by it, and a name
that it only reads keeps its value.
-/

namespace BilingualScript

/-! ## Agreement -/

/-- Some names are bound in both frames, to the same values, or in neither. -/
def Frame.Agree (names : List String) (first second : Frame) : Prop :=
  ∀ name ∈ names, first.lookup? name = second.lookup? name

theorem Frame.Agree.define {names : List String} {first second : Frame}
    (agree : Agree names first second) (name : String) (value : Value) :
    Agree names (first.define name value) (second.define name value) := by
  intro wanted mem
  rw [lookup?_define, lookup?_define, agree wanted mem]

theorem Frame.Agree.binds_eq {names : List String} {first second : Frame} {name : String}
    (agree : Agree names first second) (mem : name ∈ names) :
    first.binds name = second.binds name :=
  congrArg Option.isSome (agree name mem)

namespace Scope

inductive Agree (names : List String) : Scope → Scope → Prop
  | global {frame frame'} : Frame.Agree names frame frame' →
      Agree names (.global frame) (.global frame')
  | nested {frame frame' enclosing enclosing'} : Frame.Agree names frame frame' →
      Agree names enclosing enclosing' →
      Agree names (.nested frame enclosing) (.nested frame' enclosing')

namespace Agree

variable {names : List String} {first second : Scope} {name : String}

theorem lookup?_eq (agree : Agree names first second) (mem : name ∈ names) :
    first.lookup? name = second.lookup? name := by
  induction agree with
  | global frames => exact frames name mem
  | nested frames _ ih => rw [lookup?, lookup?, frames name mem, ih]

theorem define (agree : Agree names first second) (value : Value) :
    Agree names (first.define name value) (second.define name value) := by
  cases agree with
  | global frames => exact .global (frames.define name value)
  | nested frames around => exact .nested (frames.define name value) around

theorem assign? (agree : Agree names first second) (mem : name ∈ names) (value : Value) :
    Option.Rel (Agree names) (first.assign? name value) (second.assign? name value) := by
  induction agree with
  | global frames =>
      rw [Scope.assign?, Scope.assign?, frames.binds_eq mem]
      split
      · exact .some (.global (frames.define name value))
      · exact .none
  | nested frames around ih =>
      rw [Scope.assign?, Scope.assign?, frames.binds_eq mem]
      split
      · exact .some (.nested (frames.define name value) around)
      · generalize Scope.assign? _ name value = outer? at ih
        generalize Scope.assign? _ name value = outer?' at ih
        cases ih with
        | some changed => exact .some (.nested frames changed)
        | none => exact .none

theorem enter (agree : Agree names first second) : Agree names first.enter second.enter :=
  .nested (fun _ _ => rfl) agree

theorem leave (agree : Agree names first second) : Agree names first.leave second.leave := by
  cases agree with
  | global frames => exact .global frames
  | nested _ around => exact around

theorem outlasts (mentions : List Mention) :
    Outlasts (Agree (mentions.map Mention.name)) mentions where
  lookup agree mentioned := agree.lookup?_eq (List.mem_map_of_mem mentioned)
  assign value agree mentioned := agree.assign? (List.mem_map_of_mem mentioned) value
  define value agree _ := agree.define value
  enter := enter
  leave := leave

end Agree

/-! ## Names that nothing is written to -/

theorem outermost_leave (scope : Scope) : scope.leave.outermost = scope.outermost := by
  cases scope <;> rfl

theorem lookup?_outermost_define {name other : String} (different : other ≠ name) (scope : Scope)
    (value : Value) :
    (scope.define name value).outermost.lookup? other = scope.outermost.lookup? other := by
  cases scope with
  | global frame => exact (frame.lookup?_define ..).trans (if_neg different)
  | nested => rfl

theorem lookup?_outermost_assign {name other : String} (different : other ≠ name)
    {scope after : Scope} {value : Value} (assigned : scope.assign? name value = some after) :
    after.outermost.lookup? other = scope.outermost.lookup? other := by
  induction scope generalizing after with
  | global frame =>
      unfold Scope.assign? at assigned
      split at assigned
      · obtain rfl := Option.some.inj assigned
        exact lookup?_outermost_define different (.global frame) value
      · cases assigned
  | nested frame enclosing ih =>
      unfold assign? at assigned
      split at assigned
      · obtain rfl := Option.some.inj assigned
        rfl
      · obtain ⟨outer, changed, rfl⟩ := Option.map_eq_some_iff.1 assigned
        have kept := ih changed
        exact kept

/-- On both sides stands one scope; outside of all blocks it holds what a frame held for the names
that nothing is written to. -/
def Keeps (mentions : List Mention) (frame : Frame) (first second : Scope) : Prop :=
  first = second ∧
    ∀ name, .write name ∉ mentions → first.outermost.lookup? name = frame.lookup? name

theorem keeps_outlasts (mentions : List Mention) (frame : Frame) :
    Outlasts (Keeps mentions frame) mentions where
  lookup := by
    rintro scope _ name ⟨rfl, _⟩ _
    rfl
  assign := by
    rintro scope _ name value ⟨rfl, kept⟩ mentioned
    cases assigned : scope.assign? name value with
    | none => exact .none
    | some after =>
        refine .some ⟨rfl, fun other unwritten => ?_⟩
        have different : other ≠ name := fun same => unwritten (same ▸ mentioned)
        exact (lookup?_outermost_assign different assigned).trans (kept other unwritten)
  define := by
    rintro scope _ name value ⟨rfl, kept⟩ mentioned
    refine ⟨rfl, fun other unwritten => ?_⟩
    have different : other ≠ name := fun same => unwritten (same ▸ mentioned)
    exact (lookup?_outermost_define different scope value).trans (kept other unwritten)
  enter := by
    rintro scope _ ⟨rfl, kept⟩
    exact ⟨rfl, kept⟩
  leave := by
    rintro scope _ ⟨rfl, kept⟩
    exact ⟨rfl, fun name unwritten => scope.outermost_leave ▸ kept name unwritten⟩

end Scope

namespace Session

/-- A run outside of all blocks ends there, and a name to which the program writes nothing has the
value that it had. -/
theorem interpret_keeps {session : Session} {frame : Frame}
    (start : session.scope = .global frame) (calls : Nat) (stmts : List Stmt) :
    ∃ after, (session.interpret calls (stmts.map some)).1.scope = .global after ∧
      ∀ name, .write name ∉ Block.mentions stmts → after.lookup? name = frame.lookup? name := by
  have keeps : Scope.Keeps (Block.mentions stmts) frame session.scope session.scope :=
    ⟨rfl, fun _ _ => start ▸ rfl⟩
  have run := Block.exec_similar (Scope.keeps_outlasts _ frame) (calls - runningCalls)
    (List.Subset.refl _) keeps
  have outside : (session.interpret calls (stmts.map some)).1.scope.level = 0 := by
    rw [session.interpret_level, start]
    rfl
  obtain ⟨after, ended⟩ := Scope.exists_global_of_level outside
  refine ⟨after, ended, fun name unwritten => ?_⟩
  have kept := run.scope.2 name unwritten
  rw [← Program.exec_map_some] at kept
  change (session.interpret calls (stmts.map some)).1.scope.outermost.lookup? name = _ at kept
  rwa [ended] at kept

/-- Two sessions in which the names that a program mentions mean the same run it alike: both print
the same, both report the same failure or none, and those names mean the same behind the runs as
well.  Every other name keeps the value that it had in each, and so does one that is only read. -/
theorem interpret_local (first second : Session) (calls : Nat) {frame frame' : Frame}
    (stmts : List Stmt)
    (start : first.scope = .global frame) (start' : second.scope = .global frame')
    (agree : Frame.Agree ((Block.mentions stmts).map Mention.name) frame frame') :
    let run := first.interpret calls (stmts.map some)
    let run' := second.interpret calls (stmts.map some)
    ∃ (failure? : Option Failure) (after after' : Frame),
      run.2.outputs = run'.2.outputs ∧
        run.2.reports = failure?.toList.map first.diagnostics.ofFailure ∧
        run'.2.reports = failure?.toList.map second.diagnostics.ofFailure ∧
        run.1.scope = .global after ∧ run'.1.scope = .global after' ∧
        Frame.Agree ((Block.mentions stmts).map Mention.name) after after' ∧
        ∀ name, .write name ∉ Block.mentions stmts →
          after.lookup? name = frame.lookup? name ∧
            after'.lookup? name = frame'.lookup? name := by
  intro run run'
  have similar := Block.exec_similar (Scope.Agree.outlasts (Block.mentions stmts))
    (calls - runningCalls) (List.Subset.refl _) (.global agree)
  rw [← start, ← start', ← Program.exec_map_some, ← Program.exec_map_some] at similar
  obtain ⟨after, ended, kept⟩ := interpret_keeps start calls stmts
  obtain ⟨after', ended', kept'⟩ := interpret_keeps start' calls stmts
  refine ⟨_, after, after', similar.outputs, rfl, ?_, ended, ended', ?_, fun name unwritten =>
    ⟨kept name unwritten, kept' name unwritten⟩⟩
  · rw [similar.failure]
    rfl
  · have final : Scope.Agree _ run.1.scope run'.1.scope := similar.scope
    rw [ended, ended'] at final
    cases final with
    | global agree => exact agree

theorem interpret_local_of_failure :
    let source := "x itu y\nspill x\nspill z"
    let stmts := (Parsed.ofTokens 989 (Lexed.ofText source).tokens).program.filterMap id
    let frame : Frame := [("x", .hampa), ("y", .truth true), ("other", .truth true)]
    let frame' : Frame := [("y", .truth true), ("x", .hampa)]
    let run := interpret ⟨.initial, .global frame⟩ 994 (stmts.map some)
    let run' := interpret ⟨.initial, .global frame'⟩ 994 (stmts.map some)
    Frame.Agree ((Block.mentions stmts).map Mention.name) frame frame' ∧
      run.2.outputs = run'.2.outputs ∧ run.2.reports = run'.2.reports ∧
      ∃ after after', run.1.scope = .global after ∧ run'.1.scope = .global after' ∧
        after.lookup? "x" = after'.lookup? "x" ∧
        after.lookup? "y" = some (.truth true) ∧
        after.lookup? "other" = some (.truth true) ∧ after'.lookup? "other" = none := by
  intro source stmts frame frame' run run'
  have agree : ∀ name ∈ (Block.mentions stmts).map Mention.name,
      frame.lookup? name = frame'.lookup? name := by decide +kernel
  obtain ⟨failure?, after, after', outputs, reports, reports', ended, ended', same, kept⟩ :=
    interpret_local ⟨.initial, .global frame⟩ ⟨.initial, .global frame'⟩ 994 stmts rfl rfl agree
  exact ⟨agree, outputs, reports.trans reports'.symm, after, after', ended, ended',
    same "x" (by decide +kernel), (kept "y" (by decide +kernel)).1,
    kept "other" (by decide +kernel)⟩

end Session

end BilingualScript
