import BilingualScript.Scope.Basic

/-!
# Levels of a scope

The frames of a scope are counted from the outside: the one outside of all blocks has level zero.
An assignment changes one name at one level, and no operation but the definition of a name changes
which names are bound.
-/

namespace BilingualScript

namespace Frame

theorem isSome_lookup?_iff (frame : Frame) (name : String) :
    (frame.lookup? name).isSome = true ↔ name ∈ frame.names := by
  induction frame with
  | nil => simp [names]
  | cons binding rest ih =>
      obtain ⟨bound, value⟩ := binding
      by_cases found : bound = name
      · simp [lookup?, names, found]
      · have other : name ≠ bound := fun same => found same.symm
        simpa [lookup?, names, found, other] using ih

theorem binds_iff (frame : Frame) (name : String) :
    frame.binds name = true ↔ name ∈ frame.names :=
  frame.isSome_lookup?_iff name

theorem names_define_of_binds {frame : Frame} {name : String} (binds : frame.binds name = true)
    (value : Value) : (frame.define name value).names = frame.names := by
  rw [names_define, if_pos ((frame.binds_iff name).1 binds)]

end Frame

namespace Scope

/-! ## Levels -/

def level : Scope → Nat
  | .global _ => 0
  | .nested _ enclosing => enclosing.level + 1

def names : Scope → List (List String)
  | .global frame => [frame.names]
  | .nested frame enclosing => frame.names :: enclosing.names

def namesAround : Scope → List (List String)
  | .global _ => []
  | .nested _ enclosing => enclosing.names

def cell? : Scope → Nat → String → Option Value
  | .global frame, level, name => if level = 0 then frame.lookup? name else none
  | .nested frame enclosing, level, name =>
    if level = enclosing.level + 1 then frame.lookup? name else enclosing.cell? level name

def home? : Scope → String → Option Nat
  | .global frame, name => if frame.binds name then some 0 else none
  | .nested frame enclosing, name =>
    if frame.binds name then some (enclosing.level + 1) else enclosing.home? name

theorem names_eq (scope : Scope) : scope.names = scope.frame.names :: scope.namesAround := by
  cases scope <;> rfl

theorem exists_global_of_level {scope : Scope} (outermost : scope.level = 0) :
    ∃ frame, scope = .global frame := by
  cases scope with
  | global frame => exact ⟨frame, rfl⟩
  | nested => cases outermost

theorem length_names (scope : Scope) : scope.names.length = scope.level + 1 := by
  induction scope with
  | global => rfl
  | nested _ _ ih => simp [names, level, ih]

theorem level_eq_of_names {first second : Scope} (same : first.names = second.names) :
    first.level = second.level := by
  have lengths := congrArg List.length same
  simpa [length_names] using lengths

theorem home?_le_level {scope : Scope} {name : String} {home : Nat}
    (found : scope.home? name = some home) : home ≤ scope.level := by
  induction scope with
  | global frame =>
      unfold home? at found
      split at found
      · exact Nat.le_of_eq (Option.some.inj found).symm
      · cases found
  | nested frame enclosing ih =>
      unfold home? at found
      split at found
      · exact Nat.le_of_eq (Option.some.inj found).symm
      · exact Nat.le_succ_of_le (ih found)

/-! ## Reading -/

theorem isSome_lookup?_iff (scope : Scope) (name : String) :
    (scope.lookup? name).isSome = true ↔ name ∈ scope.names.flatten := by
  induction scope with
  | global frame => simpa [lookup?, names] using frame.isSome_lookup?_iff name
  | nested frame enclosing ih =>
      rw [lookup?, names, List.flatten_cons, List.mem_append, Option.isSome_or, Bool.or_eq_true,
        frame.isSome_lookup?_iff, ih]

theorem home?_eq_none_iff (scope : Scope) (name : String) :
    scope.home? name = none ↔ scope.lookup? name = none := by
  induction scope with
  | global frame =>
      cases found : frame.lookup? name <;> simp [home?, lookup?, Frame.binds, found]
  | nested frame enclosing ih =>
      cases found : frame.lookup? name <;> simp [home?, lookup?, Frame.binds, found, ih]

/-! ## Changing -/

theorem names_define (scope : Scope) (name : String) (value : Value) :
    (scope.define name value).names =
      (if name ∈ scope.frame.names then scope.frame.names else scope.frame.names ++ [name]) ::
        scope.namesAround := by
  cases scope with
  | global frame => exact congrArg (· :: []) (frame.names_define name value)
  | nested frame enclosing => exact congrArg (· :: enclosing.names) (frame.names_define name value)

theorem cell?_define (scope : Scope) (name : String) (value : Value) (level : Nat)
    (wanted : String) :
    (scope.define name value).cell? level wanted =
      if level = scope.level ∧ wanted = name then some value else scope.cell? level wanted := by
  cases scope with
  | global frame =>
      by_cases here : level = 0 <;> simp [define, cell?, Scope.level, Frame.lookup?_define, here]
  | nested frame enclosing =>
      by_cases here : level = enclosing.level + 1 <;>
        simp [define, cell?, Scope.level, Frame.lookup?_define, here]

theorem assign?_eq_none_iff (scope : Scope) (name : String) (value : Value) :
    scope.assign? name value = none ↔ scope.lookup? name = none := by
  induction scope with
  | global frame =>
      cases found : frame.lookup? name <;> simp [assign?, lookup?, Frame.binds, found]
  | nested frame enclosing ih =>
      cases found : frame.lookup? name <;> simp [assign?, lookup?, Frame.binds, found, ih]

/-- An assignment changes the nearest binding of a name and nothing else. -/
theorem assign?_spec {scope after : Scope} {name : String} {value : Value}
    (assigned : scope.assign? name value = some after) :
    after.names = scope.names ∧
      ∀ level wanted, after.cell? level wanted =
        if scope.home? name = some level ∧ wanted = name then some value
        else scope.cell? level wanted := by
  induction scope generalizing after with
  | global frame =>
      unfold assign? at assigned
      split at assigned
      · next bound =>
        obtain rfl := Option.some.inj assigned
        refine ⟨congrArg (· :: []) (Frame.names_define_of_binds bound value),
          fun level wanted => ?_⟩
        by_cases zero : level = 0 <;> by_cases same : wanted = name <;>
          simp [cell?, home?, bound, Frame.lookup?_define, zero, same, eq_comm]
      · cases assigned
  | nested frame enclosing ih =>
      unfold assign? at assigned
      split at assigned
      · next bound =>
        obtain rfl := Option.some.inj assigned
        refine ⟨congrArg (· :: enclosing.names) (Frame.names_define_of_binds bound value),
          fun level wanted => ?_⟩
        by_cases inner : level = enclosing.level + 1 <;> by_cases same : wanted = name <;>
          simp [cell?, home?, bound, Frame.lookup?_define, inner, same, eq_comm]
      · next free =>
        obtain ⟨outer, changed, rfl⟩ := Option.map_eq_some_iff.1 assigned
        obtain ⟨names, cells⟩ := ih changed
        refine ⟨congrArg (frame.names :: ·) names, fun level wanted => ?_⟩
        have levels := level_eq_of_names names
        by_cases inner : level = enclosing.level + 1
        · subst inner
          -- the nearest binding stands farther out
          have farther : enclosing.home? name ≠ some (enclosing.level + 1) := fun found =>
            absurd (home?_le_level found) (Nat.not_succ_le_self _)
          simp [cell?, home?, free, levels, farther]
        · simp [cell?, home?, free, levels, inner, cells]

end Scope

end BilingualScript
