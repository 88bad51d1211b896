import BilingualScript.Proofs.Program.Renaming
import BilingualScript.Proofs.Scope.Levels

/-!
# Scopes with a renamed variable

Two scopes may differ in one frame, that of the block of a variable, and there in nothing but the
name.  Names are looked up and assigned alike in both, if each is called in the second one what it
is called there.
-/

namespace BilingualScript

variable {old new : String}

/-! ## Frames -/

theorem renamedTo_inj {first second : String} (free : first ≠ new) (free' : second ≠ new) :
    renamedTo old new first = renamedTo old new second ↔ first = second := by
  unfold renamedTo
  split <;> split <;> simp_all [eq_comm]

namespace Frame

def renamed (old new : String) (frame : Frame) : Frame :=
  frame.map fun binding => (renamedTo old new binding.1, binding.2)

variable {frame : Frame} {name : String}

theorem binds_eq_false_iff : frame.binds name = false ↔ frame.lookup? name = none := by
  simp [binds]

theorem binds_define (frame : Frame) (name : String) (value : Value) (wanted : String) :
    (frame.define name value).binds wanted = (wanted == name || frame.binds wanted) := by
  by_cases same : wanted = name <;> simp [binds, lookup?_define, same]

theorem binds_define_of_binds (bound : frame.binds name = true) (value : Value)
    (wanted : String) : (frame.define name value).binds wanted = frame.binds wanted := by
  by_cases same : wanted = name <;> simp [binds_define, same, bound]

theorem binds_cons_eq_false_iff {bound : String} {value : Value} {rest : Frame} :
    binds ((bound, value) :: rest) name = false ↔ bound ≠ name ∧ rest.binds name = false := by
  by_cases same : bound = name <;> simp [binds, lookup?, same]

theorem lookup?_renamed (free : frame.binds new = false) (other : name ≠ new) :
    (frame.renamed old new).lookup? (renamedTo old new name) = frame.lookup? name := by
  induction frame with
  | nil => rfl
  | cons binding rest ih =>
      obtain ⟨bound, value⟩ := binding
      obtain ⟨apart, later⟩ := binds_cons_eq_false_iff.1 free
      simp only [renamed, List.map_cons, lookup?, renamedTo_inj apart other]
      split
      · rfl
      · exact ih later

theorem define_renamed (free : frame.binds new = false) (other : name ≠ new) (value : Value) :
    (frame.renamed old new).define (renamedTo old new name) value =
      (frame.define name value).renamed old new := by
  induction frame with
  | nil => rfl
  | cons binding rest ih =>
      obtain ⟨bound, former⟩ := binding
      obtain ⟨apart, later⟩ := binds_cons_eq_false_iff.1 free
      simp only [renamed, List.map_cons, define, renamedTo_inj apart other]
      split
      · rfl
      · exact congrArg (_ :: ·) (ih later)

theorem renamed_of_unbound (unbound : frame.binds old = false) : frame.renamed old new = frame := by
  induction frame with
  | nil => rfl
  | cons binding rest ih =>
      obtain ⟨bound, value⟩ := binding
      obtain ⟨apart, later⟩ := binds_cons_eq_false_iff.1 unbound
      have rest_eq : renamed old new rest = rest := ih later
      simp only [renamed, List.map_cons] at rest_eq ⊢
      rw [rest_eq, renamedTo_of_ne apart]

end Frame

/-! ## Scopes -/

/-- What the old name is called where it stands for the variable of the block: the block itself has
bound it or not yet, and so have the blocks inside. -/
def called (old new : String) (bound : Bool) (shadows : List Bool) : String :=
  if bound && shadows.all (!·) then new else old

@[simp] theorem called_block (bound : Bool) :
    called old new bound [] = if bound then new else old := by
  simp [called]

@[simp] theorem called_shadowed (bound : Bool) (shadows : List Bool) :
    called old new bound (true :: shadows) = old := by
  simp [called]

@[simp] theorem called_unshadowed (bound : Bool) (shadows : List Bool) :
    called old new bound (false :: shadows) = called old new bound shadows := by
  simp [called]

theorem called_cases (bound : Bool) (shadows : List Bool) :
    called old new bound shadows = old ∨ called old new bound shadows = new := by
  unfold called
  split
  · exact .inr rfl
  · exact .inl rfl

/-- Two scopes inside the block of the variable.  The first flag says whether the block binds the
old name, the others say so of the blocks inside, from the inside out. -/
inductive Scope.Renamed (old new : String) : Bool → List Bool → Scope → Scope → Prop
  | block {frame enclosing bound} : frame.binds new = false → frame.binds old = bound →
      Renamed old new bound [] (.nested frame enclosing)
        (.nested (frame.renamed old new) enclosing)
  | inside {frame enclosing enclosing' bound shadowed shadows} : frame.binds new = false →
      frame.binds old = shadowed → Renamed old new bound shadows enclosing enclosing' →
      Renamed old new bound (shadowed :: shadows) (.nested frame enclosing)
        (.nested frame enclosing')

def Scope.RenamedInside (old new : String) (bound : Bool) (shadows : List Bool)
    (scope scope' : Scope) : Prop :=
  ∃ shadowed, Renamed old new bound (shadowed :: shadows) scope scope'

namespace Frame

variable {frame : Frame} {bound shadowed : Bool} {shadows : List Bool} {name : String}

theorem lookup?_called (free : frame.binds new = false) (binds_old : frame.binds old = bound)
    (other : name ≠ new) :
    (frame.renamed old new).lookup? (renamedTo old (called old new bound []) name) =
      frame.lookup? name := by
  cases bound with
  | false => simp [renamed_of_unbound binds_old]
  | true => simpa using lookup?_renamed free other

theorem define_called (free : frame.binds new = false) (binds_old : frame.binds old = bound)
    (other : name ≠ new) (binds_name : frame.binds name = true) (value : Value) :
    (frame.renamed old new).define (renamedTo old (called old new bound []) name) value =
      (frame.define name value).renamed old new := by
  cases bound with
  | false =>
      have kept := (binds_define_of_binds binds_name value old).trans binds_old
      simp [renamed_of_unbound binds_old, renamed_of_unbound kept]
  | true => simpa using define_renamed free other value

theorem renamedTo_of_unbound (binds_old : frame.binds old = bound)
    (unbound : frame.binds name = false) :
    renamedTo old (called old new bound []) name = name := by
  by_cases same : name = old
  · subst same
    obtain rfl : false = bound := unbound.symm.trans binds_old
    simp
  · exact renamedTo_of_ne same

theorem renamedTo_of_shadowing (binds_old : frame.binds old = shadowed)
    (binds_name : frame.binds name = true) :
    renamedTo old (called old new bound (shadowed :: shadows)) name = name := by
  by_cases same : name = old
  · subst same
    obtain rfl : true = shadowed := binds_name.symm.trans binds_old
    simp
  · exact renamedTo_of_ne same

theorem renamedTo_of_unshadowing (binds_old : frame.binds old = shadowed)
    (unbound : frame.binds name = false) :
    renamedTo old (called old new bound (shadowed :: shadows)) name =
      renamedTo old (called old new bound shadows) name := by
  by_cases same : name = old
  · subst same
    obtain rfl : false = shadowed := unbound.symm.trans binds_old
    simp
  · rw [renamedTo_of_ne same, renamedTo_of_ne same]

theorem binds_called (free : frame.binds new = false) (unbound : frame.binds name = false) :
    frame.binds (renamedTo old (called old new bound shadows) name) = false := by
  by_cases same : name = old
  · subst same
    rw [renamedTo_old]
    rcases called_cases bound shadows with same | same
    · rw [same, unbound]
    · rw [same, free]
  · rw [renamedTo_of_ne same, unbound]

end Frame

namespace Scope.Renamed

variable {bound shadowed : Bool} {shadows : List Bool} {scope scope' : Scope} {name : String}

theorem lookup? (alike : Renamed old new bound shadows scope scope') (other : name ≠ new) :
    scope'.lookup? (renamedTo old (called old new bound shadows) name) = scope.lookup? name := by
  induction alike with
  | @block frame enclosing bound free binds_old =>
      rw [Scope.lookup?, Scope.lookup?, Frame.lookup?_called free binds_old other]
      cases found : frame.lookup? name with
      | some value => rfl
      | none =>
          rw [Frame.renamedTo_of_unbound binds_old (Frame.binds_eq_false_iff.2 found)]
  | @inside frame enclosing enclosing' bound shadowed shadows free binds_old _ ih =>
      rw [Scope.lookup?, Scope.lookup?]
      cases found : frame.lookup? name with
      | some value =>
          have binds_name : frame.binds name = true := by simp [Frame.binds, found]
          rw [Frame.renamedTo_of_shadowing binds_old binds_name, found]
          rfl
      | none =>
          have unbound := Frame.binds_eq_false_iff.2 found
          rw [Frame.renamedTo_of_unshadowing binds_old unbound,
            Frame.binds_eq_false_iff.1 (Frame.binds_called free unbound), ih]

theorem assign? (alike : Renamed old new bound shadows scope scope') (other : name ≠ new)
    (value : Value) :
    Option.Rel (Renamed old new bound shadows) (scope.assign? name value)
      (scope'.assign? (renamedTo old (called old new bound shadows) name) value) := by
  induction alike with
  | @block frame enclosing bound free binds_old =>
      have binds_called : (frame.renamed old new).binds
          (renamedTo old (called old new bound []) name) = frame.binds name :=
        congrArg Option.isSome (Frame.lookup?_called free binds_old other)
      rw [Scope.assign?, Scope.assign?, binds_called]
      cases binds_name : frame.binds name with
      | true =>
          rw [if_pos rfl, if_pos rfl, Frame.define_called free binds_old other binds_name]
          refine .some (.block ?_ ?_)
          · rw [Frame.binds_define_of_binds binds_name, free]
          · rw [Frame.binds_define_of_binds binds_name, binds_old]
      | false =>
          rw [Frame.renamedTo_of_unbound binds_old binds_name]
          cases enclosing.assign? name value with
          | none => exact .none
          | some after => exact .some (.block free binds_old)
  | @inside frame enclosing enclosing' bound shadowed shadows free binds_old _ ih =>
      rw [Scope.assign?, Scope.assign?]
      cases binds_name : frame.binds name with
      | true =>
          rw [Frame.renamedTo_of_shadowing binds_old binds_name, binds_name]
          refine .some (.inside ?_ ?_ ‹_›)
          · rw [Frame.binds_define_of_binds binds_name, free]
          · rw [Frame.binds_define_of_binds binds_name, binds_old]
      | false =>
          rw [Frame.renamedTo_of_unshadowing binds_old binds_name,
            Frame.binds_called free binds_name]
          generalize enclosing.assign? name value = outer? at ih
          generalize enclosing'.assign? _ value = outer?' at ih
          cases ih with
          | none => exact .none
          | some changed => exact .some (.inside free binds_old changed)

theorem renamedTo_of_undefined (alike : Renamed old new bound shadows scope scope')
    (undefined : scope.lookup? name = none) :
    renamedTo old (called old new bound shadows) name = name := by
  induction alike with
  | block _ binds_old =>
      have unbound := (Option.or_eq_none_iff.1 undefined).1
      exact Frame.renamedTo_of_unbound binds_old (Frame.binds_eq_false_iff.2 unbound)
  | inside _ binds_old _ ih =>
      obtain ⟨unbound, outside⟩ := Option.or_eq_none_iff.1 undefined
      rw [Frame.renamedTo_of_unshadowing binds_old (Frame.binds_eq_false_iff.2 unbound),
        ih outside]

theorem define_block (alike : Renamed old new bound [] scope scope') (other : name ≠ new)
    (value : Value) :
    Renamed old new (old == name || bound) [] (scope.define name value)
      (scope'.define (renamedTo old new name) value) := by
  cases alike with
  | block free binds_old =>
      rw [Scope.define, Scope.define, Frame.define_renamed free other]
      refine .block ?_ ?_
      · simp [Frame.binds_define, free, other.symm]
      · rw [Frame.binds_define, binds_old]

theorem define_inside (alike : Renamed old new bound (shadowed :: shadows) scope scope')
    (other : name ≠ new) (value : Value) :
    Renamed old new bound ((old == name || shadowed) :: shadows) (scope.define name value)
      (scope'.define name value) := by
  cases alike with
  | inside free binds_old around =>
      refine .inside ?_ ?_ around
      · simp [Frame.binds_define, free, other.symm]
      · rw [Frame.binds_define, binds_old]

theorem enter (alike : Renamed old new bound shadows scope scope') :
    Renamed old new bound (false :: shadows) scope.enter scope'.enter := .inside rfl rfl alike

theorem leave (alike : Renamed old new bound (shadowed :: shadows) scope scope') :
    Renamed old new bound shadows scope.leave scope'.leave := by
  cases alike with
  | inside _ _ around => exact around

theorem start (scope : Scope) : Renamed old new false [] scope.enter scope.enter := .block rfl rfl

theorem leave_block (alike : Renamed old new bound [] scope scope') :
    scope.leave = scope'.leave := by
  cases alike
  rfl

end Scope.Renamed

end BilingualScript
