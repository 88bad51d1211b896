import BilingualScript.Proofs.Scope.Levels
import BilingualScript.Scope.Forest
import Mathlib.Data.List.Induction
import Mathlib.Data.List.Nodup

/-!
# Histories of a forest

What a forest holds follows from what has been done with it.  The notions below are read off the
deeds alone; the latest deed stands first.
-/

namespace BilingualScript.Forest

def after : List Deed → Forest
  | [] => empty
  | deed :: earlier => ((after earlier).perform deed).2

/-! ## What the deeds say -/

def scopes : List Deed → Nat
  | [] => 0
  | .root :: earlier | .child _ :: earlier => scopes earlier + 1
  | .define _ _ _ :: earlier | .assign _ _ _ :: earlier | .get _ _ :: earlier => scopes earlier

def Deed.scope? : Deed → Option Nat
  | .root => none
  | .child scope | .define scope _ _ | .assign scope _ _ | .get scope _ => some scope

/-- Deeds are done in scopes that are there. -/
def Feasible : List Deed → Prop
  | [] => True
  | deed :: earlier => (∀ scope ∈ deed.scope?, scope < scopes earlier) ∧ Feasible earlier

def parent? : List Deed → Nat → Option Nat
  | [], _ => none
  | .child parent :: earlier, scope =>
    if scope = scopes earlier then some parent else parent? earlier scope
  | .root :: earlier, scope | .define _ _ _ :: earlier, scope | .assign _ _ _ :: earlier, scope
  | .get _ _ :: earlier, scope => parent? earlier scope

def Binds (deeds : List Deed) (scope : Nat) (name : String) : Prop :=
  ∃ value, .define scope name value ∈ deeds

inductive Encloses (deeds : List Deed) : Nat → Nat → Prop
  | self {scope} : Encloses deeds scope scope
  | outward {scope parent outer} : parent? deeds scope = some parent →
      Encloses deeds parent outer → Encloses deeds scope outer

/-- The nearest scope that binds a name, from another one outward. -/
inductive Nearest (deeds : List Deed) (name : String) : Nat → Nat → Prop
  | self {scope} : Binds deeds scope name → Nearest deeds name scope scope
  | outward {scope parent owner} : ¬Binds deeds scope name →
      parent? deeds scope = some parent → Nearest deeds name parent owner →
      Nearest deeds name scope owner

inductive Stores (earlier : List Deed) : Deed → Nat → String → Value → Prop
  | define {scope name value} : Stores earlier (.define scope name value) scope name value
  | assign {scope owner} {name : Token} {value} : Nearest earlier name.lexeme scope owner →
      Stores earlier (.assign scope name value) owner name.lexeme value

inductive LastStored : List Deed → Nat → String → Value → Prop
  | now {deed earlier scope name value} : Stores earlier deed scope name value →
      LastStored (deed :: earlier) scope name value
  | before {deed earlier scope name value} : (∀ other, ¬Stores earlier deed scope name other) →
      LastStored earlier scope name value → LastStored (deed :: earlier) scope name value

def Deed.defines? (scope : Nat) : Deed → Option String
  | .define other name _ => if other = scope then some name else none
  | .root | .child _ | .assign _ _ _ | .get _ _ => none

def definitions (deeds : List Deed) (scope : Nat) : List String :=
  deeds.reverse.filterMap (Deed.defines? scope)

theorem mem_definitions {deeds : List Deed} {scope : Nat} {name : String} :
    name ∈ definitions deeds scope ↔ Binds deeds scope name := by
  simp only [definitions, List.mem_filterMap, List.mem_reverse]
  constructor
  · rintro ⟨deed, mem, found⟩
    cases deed with
    | define other bound value =>
        obtain ⟨rfl, same⟩ := Option.ite_none_right_eq_some.1 found
        obtain rfl := Option.some.inj same
        exact ⟨value, mem⟩
    | _ => cases found
  · rintro ⟨value, mem⟩
    exact ⟨_, mem, if_pos rfl⟩

theorem definitions_cons (deed : Deed) (earlier : List Deed) (scope : Nat) :
    definitions (deed :: earlier) scope =
      definitions earlier scope ++ (deed.defines? scope).toList := by
  rw [definitions, List.reverse_cons, List.filterMap_append, definitions]
  cases found : deed.defines? scope <;> simp [found]

theorem eraseDups_concat (names : List String) (name : String) :
    (names ++ [name]).eraseDups =
      if name ∈ names then names.eraseDups else names.eraseDups ++ [name] := by
  rw [List.eraseDups_append]
  by_cases mem : name ∈ names <;> simp [List.removeAll, mem, List.eraseDups_cons]

theorem nodup_eraseDups (names : List String) : names.eraseDups.Nodup := by
  induction names using List.reverseRecOn with
  | nil => exact List.nodup_nil
  | append_singleton names name ih =>
      rw [eraseDups_concat]
      split
      · exact ih
      · next new =>
        rw [← List.concat_eq_append]
        exact .concat (mt List.mem_eraseDups.1 new) ih

theorem lastStored_cons {deed : Deed} {earlier : List Deed} {scope : Nat} {name : String}
    {value : Value} :
    LastStored (deed :: earlier) scope name value ↔
      Stores earlier deed scope name value ∨
        (∀ other, ¬Stores earlier deed scope name other) ∧ LastStored earlier scope name value := by
  constructor
  · intro stored
    cases stored with
    | now stores => exact .inl stores
    | before silent stored => exact .inr ⟨silent, stored⟩
  · rintro (stores | ⟨silent, stored⟩)
    · exact .now stores
    · exact .before silent stored

theorem Nearest.encloses {deeds : List Deed} {scope owner : Nat} {name : String}
    (nearest : Nearest deeds name scope owner) :
    Encloses deeds scope owner ∧ Binds deeds owner name := by
  induction nearest with
  | self binds => exact ⟨.self, binds⟩
  | outward _ around _ ih => exact ⟨.outward around ih.1, ih.2⟩

theorem exists_nearest_iff {deeds : List Deed} {scope : Nat} {name : String} :
    (∃ owner, Nearest deeds name scope owner) ↔
      ∃ outer, Encloses deeds scope outer ∧ Binds deeds outer name := by
  constructor
  · rintro ⟨owner, nearest⟩
    exact ⟨owner, nearest.encloses⟩
  · rintro ⟨outer, encloses, binds⟩
    induction encloses with
    | self => exact ⟨_, .self binds⟩
    | @outward scope _ _ around _ ih =>
        by_cases here : Binds deeds scope name
        · exact ⟨_, .self here⟩
        · obtain ⟨owner, nearest⟩ := ih binds
          exact ⟨owner, .outward here around nearest⟩

/-! ## What the operations change -/

section Operations

variable (forest : Forest)

theorem frame_add (enclosing : List Nat) (scope : Nat) :
    (Forest.mk (forest.cells ++ [⟨[], enclosing⟩])).frame scope = forest.frame scope := by
  unfold frame
  rw [List.getElem?_append]
  split
  · rfl
  · next beyond =>
    rw [List.getElem?_eq_none (Nat.le_of_not_lt beyond)]
    cases scope - forest.cells.length <;> rfl

theorem enclosing_add (enclosing : List Nat) (scope : Nat) :
    (Forest.mk (forest.cells ++ [⟨[], enclosing⟩])).enclosing scope =
      if scope = forest.next then enclosing else forest.enclosing scope := by
  unfold Forest.enclosing next
  rw [List.getElem?_append]
  split
  · next within => rw [if_neg (Nat.ne_of_lt within)]
  · next beyond =>
    rw [List.getElem?_eq_none (Nat.le_of_not_lt beyond)]
    by_cases last : scope = forest.cells.length
    · simp [last]
    · have farther : 0 < scope - forest.cells.length := by omega
      rw [if_neg last, List.getElem?_eq_none farther]

theorem frame_define {owner : Nat} (live : owner < forest.next) (name : String) (value : Value)
    (scope : Nat) :
    (forest.define owner name value).frame scope =
      if scope = owner then (forest.frame scope).define name value else forest.frame scope := by
  unfold define frame
  rw [List.getElem?_modify]
  by_cases here : scope = owner
  · subst here
    rw [List.getElem?_eq_getElem live]
    simp
  · cases forest.cells[scope]? <;> simp [here, Ne.symm here]

theorem enclosing_define (owner : Nat) (name : String) (value : Value) (scope : Nat) :
    (forest.define owner name value).enclosing scope = forest.enclosing scope := by
  unfold define Forest.enclosing
  rw [List.getElem?_modify]
  cases forest.cells[scope]? with
  | none => rfl
  | some cell => by_cases here : owner = scope <;> simp [here]

@[simp] theorem next_define (owner : Nat) (name : String) (value : Value) :
    (forest.define owner name value).next = forest.next :=
  List.length_modify ..

variable {forest} {scope owner : Nat} {name : Token} {value : Value}

theorem perform_get_of_owner (found : forest.owner? scope name.lexeme = some owner)
    (held : (forest.frame owner).lookup? name.lexeme = some value) :
    forest.perform (.get scope name) = (.ok (some value), forest) := by
  simp only [perform, lookup?, found, Option.bind_some, held]

theorem perform_get_of_unbound (unbound : forest.owner? scope name.lexeme = none) :
    forest.perform (.get scope name) = (.error (.undefinedVariable name), forest) := by
  simp only [perform, lookup?, unbound, Option.bind_none]

theorem perform_assign_of_owner (found : forest.owner? scope name.lexeme = some owner) :
    forest.perform (.assign scope name value) =
      (.ok none, forest.define owner name.lexeme value) := by
  simp only [perform, assign?, found, Option.map_some]

theorem perform_assign_of_unbound (unbound : forest.owner? scope name.lexeme = none) :
    forest.perform (.assign scope name value) = (.error (.undefinedVariable name), forest) := by
  simp only [perform, assign?, unbound, Option.map_none]

theorem perform_get_forest (scope : Nat) (name : Token) :
    (forest.perform (.get scope name)).2 = forest := by
  rw [perform]
  split <;> rfl

theorem owner?_define (live : owner < forest.next) {bound : String}
    (binds : (forest.frame owner).binds bound = true) (scope : Nat) (wanted : String) :
    (forest.define owner bound value).owner? scope wanted = forest.owner? scope wanted := by
  have same (other : Nat) : ((forest.define owner bound value).frame other).binds wanted =
      (forest.frame other).binds wanted := by
    rw [frame_define forest live]
    split
    · next here =>
      rw [Bool.eq_iff_iff, Frame.binds_iff, Frame.binds_iff, here,
        Frame.names_define_of_binds binds]
    · rfl
  simp only [owner?, chain, enclosing_define, same]

end Operations

def read (forest : Forest) (scope : Nat) (name : Token) : Except Fault (Option Value) :=
  (forest.perform (.get scope name)).1

theorem read_congr {forest other : Forest} {scope : Nat} {name : Token}
    (same : forest.lookup? scope name.lexeme = other.lookup? scope name.lexeme) :
    forest.read scope name = other.read scope name := by
  simp only [read, perform, same]
  split <;> rfl

/-! ## What holds after some deeds -/

/-- A forest is what some deeds have made of it. -/
structure Reflects (forest : Forest) (deeds : List Deed) : Prop where
  next : forest.next = scopes deeds
  parents : ∀ scope parent, parent? deeds scope = some parent →
    parent < scope ∧ scope < scopes deeds
  enclosing : ∀ scope < scopes deeds,
    forest.enclosing scope = (parent? deeds scope).elim [] forest.chain
  names : ∀ scope, (forest.frame scope).names = (definitions deeds scope).eraseDups
  values : ∀ scope name value, (forest.frame scope).lookup? name = some value ↔
    LastStored deeds scope name value

namespace Reflects

variable {forest : Forest} {deeds : List Deed} {scope owner : Nat} {name : String}

theorem binds_iff (reflects : Reflects forest deeds) :
    (forest.frame scope).binds name = true ↔ Binds deeds scope name := by
  rw [Frame.binds_iff, reflects.names, List.mem_eraseDups, mem_definitions]

theorem owner?_eq (reflects : Reflects forest deeds) (live : scope < scopes deeds) :
    forest.owner? scope name =
      if (forest.frame scope).binds name then some scope
      else (parent? deeds scope).bind (forest.owner? · name) := by
  unfold owner?
  rw [chain, List.find?_cons, reflects.enclosing scope live]
  cases (forest.frame scope).binds name with
  | true => rfl
  | false => cases parent? deeds scope <;> rfl

/-- The scope that a look-up ends at is the nearest one that binds the name. -/
theorem owner?_eq_some_iff (reflects : Reflects forest deeds) (live : scope < scopes deeds) :
    forest.owner? scope name = some owner ↔ Nearest deeds name scope owner := by
  -- the scopes around one have smaller numbers
  induction scope using Nat.strongRecOn with
  | ind scope ih =>
      rw [reflects.owner?_eq live]
      by_cases here : Binds deeds scope name
      · rw [if_pos (reflects.binds_iff.2 here)]
        constructor
        · rintro ⟨⟩
          exact .self here
        · intro nearest
          cases nearest with
          | self => rfl
          | outward free => exact absurd here free
      · rw [if_neg (mt reflects.binds_iff.1 here)]
        constructor
        · intro found
          obtain ⟨parent, around, found⟩ := Option.bind_eq_some_iff.1 found
          obtain ⟨less, _⟩ := reflects.parents _ _ around
          exact .outward here around ((ih parent less (Nat.lt_trans less live)).1 found)
        · intro nearest
          cases nearest with
          | self binds => exact absurd binds here
          | outward _ around nearest =>
              obtain ⟨less, _⟩ := reflects.parents _ _ around
              exact Option.bind_eq_some_iff.2
                ⟨_, around, (ih _ less (Nat.lt_trans less live)).2 nearest⟩

theorem owner_live (reflects : Reflects forest deeds) (live : scope < scopes deeds)
    (nearest : Nearest deeds name scope owner) : owner < scopes deeds := by
  induction nearest with
  | self => exact live
  | outward _ around _ ih =>
      exact ih (Nat.lt_trans (reflects.parents _ _ around).1 live)

theorem nodup_names (reflects : Reflects forest deeds) : (forest.frame scope).names.Nodup := by
  rw [reflects.names]
  exact nodup_eraseDups _

/-! One more deed adds a scope, or stores a value, or leaves everything as it is. -/

theorem empty : Reflects Forest.empty [] where
  next := rfl
  parents := nofun
  enclosing := nofun
  names _ := rfl
  values _ _ _ := ⟨nofun, nofun⟩

theorem add (reflects : Reflects forest deeds) (deed : Deed) (around : Option Nat)
    (live : ∀ parent ∈ around, parent < scopes deeds)
    (count : scopes (deed :: deeds) = scopes deeds + 1)
    (parents : ∀ scope, parent? (deed :: deeds) scope =
      if scope = scopes deeds then around else parent? deeds scope)
    (defines : ∀ scope, deed.defines? scope = none)
    (silent : ∀ scope name value, ¬Stores deeds deed scope name value) :
    Reflects ⟨forest.cells ++ [⟨[], around.elim [] forest.chain⟩]⟩ (deed :: deeds) where
  next := by
    rw [count, ← reflects.next]
    exact List.length_append
  parents scope parent found := by
    rw [count]
    rw [parents] at found
    split at found
    · next new => exact ⟨new ▸ live _ found, new ▸ Nat.lt_succ_self _⟩
    · obtain ⟨less, old⟩ := reflects.parents scope parent found
      exact ⟨less, Nat.lt_succ_of_lt old⟩
  enclosing scope within := by
    -- the new scope stands on no chain of an old one
    have chain (other : Nat) (old : other < scopes deeds) :
        (Forest.mk (forest.cells ++ [⟨[], around.elim [] forest.chain⟩])).chain other =
          forest.chain other := by
      rw [Forest.chain, enclosing_add, reflects.next, if_neg (Nat.ne_of_lt old), Forest.chain]
    rw [enclosing_add, parents, reflects.next]
    split
    · cases around with
      | none => rfl
      | some parent => exact (chain parent (live parent rfl)).symm
    · next other =>
      have old : scope < scopes deeds := by omega
      rw [reflects.enclosing scope old]
      cases found : parent? deeds scope with
      | none => rfl
      | some parent =>
          exact (chain parent (Nat.lt_trans (reflects.parents scope parent found).1 old)).symm
  names scope := by
    rw [frame_add, reflects.names, definitions_cons, defines]
    simp
  values scope name value := by
    rw [frame_add, reflects.values, lastStored_cons]
    simp [silent]

theorem store (reflects : Reflects forest deeds) (deed : Deed) {value : Value}
    (live : owner < scopes deeds)
    (count : scopes (deed :: deeds) = scopes deeds)
    (parents : parent? (deed :: deeds) = parent? deeds)
    (defines : ∀ scope, ∀ bound ∈ deed.defines? scope, scope = owner ∧ bound = name)
    (binds : Binds (deed :: deeds) owner name)
    (stores : ∀ scope wanted other, Stores deeds deed scope wanted other ↔
      scope = owner ∧ wanted = name ∧ other = value) :
    Reflects (forest.define owner name value) (deed :: deeds) where
  next := by rw [next_define, count, reflects.next]
  parents := by
    rw [parents, count]
    exact reflects.parents
  enclosing scope within := by
    rw [enclosing_define, parents, reflects.enclosing scope (count ▸ within)]
    congr 1
    funext other
    rw [Forest.chain, Forest.chain, enclosing_define]
  names scope := by
    rw [frame_define forest (reflects.next ▸ live), definitions_cons]
    cases found : deed.defines? scope with
    | some bound =>
        obtain ⟨rfl, rfl⟩ := defines scope bound found
        rw [if_pos rfl, Frame.names_define, reflects.names, Option.toList_some, eraseDups_concat]
        simp only [List.mem_eraseDups]
    | none =>
        rw [Option.toList_none, List.append_nil, ← reflects.names]
        split
        · next here =>
          -- the name has been bound in the scope before
          have mem := mem_definitions.2 binds
          rw [definitions_cons, ← here, found, Option.toList_none, List.append_nil] at mem
          rw [Frame.names_define, reflects.names, if_pos (List.mem_eraseDups.2 mem)]
        · rfl
  values scope wanted other := by
    rw [frame_define forest (reflects.next ▸ live), lastStored_cons]
    by_cases here : scope = owner ∧ wanted = name
    · obtain ⟨rfl, rfl⟩ := here
      simp [stores, Frame.lookup?_define, eq_comm]
    · have quiet (other : Value) : ¬Stores deeds deed scope wanted other :=
        fun stored => here ⟨((stores ..).1 stored).1, ((stores ..).1 stored).2.1⟩
      rw [← reflects.values]
      by_cases same : scope = owner <;> simp_all [Frame.lookup?_define]

theorem keep (reflects : Reflects forest deeds) (deed : Deed)
    (count : scopes (deed :: deeds) = scopes deeds)
    (parents : parent? (deed :: deeds) = parent? deeds)
    (defines : ∀ scope, deed.defines? scope = none)
    (silent : ∀ scope name value, ¬Stores deeds deed scope name value) :
    Reflects forest (deed :: deeds) where
  next := by rw [count, reflects.next]
  parents := by
    rw [parents, count]
    exact reflects.parents
  enclosing := by
    rw [parents, count]
    exact reflects.enclosing
  names scope := by
    rw [reflects.names, definitions_cons, defines]
    simp
  values scope name value := by
    rw [reflects.values, lastStored_cons]
    simp [silent]

theorem perform (reflects : Reflects forest deeds) {deed : Deed}
    (live : ∀ scope ∈ deed.scope?, scope < scopes deeds) :
    Reflects (forest.perform deed).2 (deed :: deeds) := by
  cases deed with
  | root =>
      have fresh : parent? deeds (scopes deeds) = none :=
        Option.eq_none_iff_forall_ne_some.2 fun parent found =>
          Nat.lt_irrefl _ (reflects.parents _ parent found).2
      refine reflects.add .root none nofun rfl (fun scope => ?_) (fun _ => rfl) nofun
      split
      · next new => exact (congrArg (parent? deeds) new).trans fresh
      · rfl
  | child parent =>
      exact reflects.add (.child parent) (some parent) live rfl (fun _ => rfl) (fun _ => rfl) nofun
  | define scope name value =>
      refine reflects.store (.define ..) (live scope rfl) rfl rfl (fun other bound found => ?_)
        ⟨value, List.mem_cons_self⟩ fun other wanted value' => ⟨?_, ?_⟩
      · obtain ⟨rfl, same⟩ := Option.ite_none_right_eq_some.1 found
        exact ⟨rfl, (Option.some.inj same).symm⟩
      · rintro ⟨⟩
        exact ⟨rfl, rfl, rfl⟩
      · rintro ⟨rfl, rfl, rfl⟩
        exact .define
  | assign scope name value =>
      have nearest (owner : Nat) : forest.owner? scope name.lexeme = some owner ↔
          Nearest deeds name.lexeme scope owner :=
        reflects.owner?_eq_some_iff (live scope rfl)
      cases found : forest.owner? scope name.lexeme with
      | some owner =>
          have here := (nearest owner).1 found
          rw [perform_assign_of_owner found]
          obtain ⟨old, defined⟩ := here.encloses.2
          refine reflects.store (.assign ..) (reflects.owner_live (live scope rfl) here) rfl rfl
            nofun ⟨old, List.mem_cons_of_mem _ defined⟩ fun other wanted value' => ⟨?_, ?_⟩
          · rintro (_ | there)
            have same := ((nearest other).2 there).symm.trans found
            exact ⟨Option.some.inj same, rfl, rfl⟩
          · rintro ⟨rfl, rfl, rfl⟩
            exact .assign here
      | none =>
          rw [perform_assign_of_unbound found]
          refine reflects.keep (.assign ..) rfl rfl (fun _ => rfl) ?_
          rintro other _ _ (_ | there)
          cases ((nearest other).2 there).symm.trans found
  | get scope name =>
      rw [perform_get_forest]
      exact reflects.keep (.get ..) rfl rfl (fun _ => rfl) nofun

end Reflects

/-- After deeds in scopes that are there, the forest is what they have made of it. -/
theorem reflects_after {deeds : List Deed} (feasible : Feasible deeds) :
    Reflects (after deeds) deeds := by
  induction deeds with
  | nil => exact .empty
  | cons deed earlier ih => exact (ih feasible.2).perform feasible.1

/-! ## Laws -/

structure Changes (owner : Nat) (name : String) (value : Value) (before after : Forest) : Prop where
  next : after.next = before.next
  enclosing : ∀ scope, after.enclosing scope = before.enclosing scope
  others : ∀ scope, scope ≠ owner → after.frame scope = before.frame scope
  cell : ∀ wanted, (after.frame owner).lookup? wanted =
    if wanted = name then some value else (before.frame owner).lookup? wanted

theorem define_changes {forest : Forest} {owner : Nat} (live : owner < forest.next) (name : String)
    (value : Value) : Changes owner name value forest (forest.define owner name value) where
  next := forest.next_define owner name value
  enclosing := forest.enclosing_define owner name value
  others scope other := by rw [forest.frame_define live, if_neg other]
  cell wanted := by rw [forest.frame_define live, if_pos rfl, Frame.lookup?_define]

/-- What reading and changing names comes to after some deeds. -/
structure Lawful (forest : Forest) (deeds : List Deed) : Prop where
  /-- What is read is the value stored last in the nearest scope that binds the name. -/
  get : ∀ scope < scopes deeds, ∀ (name : Token) owner, Nearest deeds name.lexeme scope owner →
    ∃ value, (∀ other, LastStored deeds owner name.lexeme other ↔ other = value) ∧
      forest.perform (.get scope name) = (.ok (some value), forest)
  /-- An assignment changes the value there, and with it what is read from the scopes that find the
  name there; everything else reads as before. -/
  assign : ∀ scope < scopes deeds, ∀ (name : Token) owner value,
    Nearest deeds name.lexeme scope owner →
    ∃ changed, forest.perform (.assign scope name value) = (.ok none, changed) ∧
      Changes owner name.lexeme value forest changed ∧
      (∀ other, (changed.frame other).names = (forest.frame other).names) ∧
      ∀ observer < scopes deeds, ∀ wanted : Token,
        (wanted.lexeme = name.lexeme ∧ Nearest deeds name.lexeme observer owner →
          changed.read observer wanted = .ok (some value)) ∧
        (¬(wanted.lexeme = name.lexeme ∧ Nearest deeds name.lexeme observer owner) →
          changed.read observer wanted = forest.read observer wanted)
  /-- A definition changes the scope that it is made in. -/
  define : ∀ scope < scopes deeds, ∀ name value,
    ∃ changed, forest.perform (.define scope name value) = (.ok none, changed) ∧
      Changes scope name value forest changed
  /-- A name that no scope around binds can be neither read nor changed. -/
  unbound : ∀ scope < scopes deeds, ∀ name : Token,
    (∀ outer, Encloses deeds scope outer → ¬Binds deeds outer name.lexeme) →
    forest.perform (.get scope name) = (.error (.undefinedVariable name), forest) ∧
      ∀ value, forest.perform (.assign scope name value) =
        (.error (.undefinedVariable name), forest)
  /-- A scope lists each of its names where it was defined first. -/
  names : ∀ scope < scopes deeds,
    (forest.frame scope).names = (definitions deeds scope).eraseDups ∧
      (forest.frame scope).names.Nodup

namespace Reflects

variable {forest : Forest} {deeds : List Deed} {scope owner : Nat}

theorem exists_value (reflects : Reflects forest deeds) {name : String}
    (binds : Binds deeds owner name) :
    ∃ value, (forest.frame owner).lookup? name = some value :=
  Option.isSome_iff_exists.1 (reflects.binds_iff.2 binds)

theorem owner?_eq_none (reflects : Reflects forest deeds) (live : scope < scopes deeds)
    {name : String} (unbound : ∀ outer, Encloses deeds scope outer → ¬Binds deeds outer name) :
    forest.owner? scope name = none := by
  refine Option.eq_none_iff_forall_ne_some.2 fun owner found => ?_
  obtain ⟨outer, encloses, binds⟩ :=
    exists_nearest_iff.1 ⟨owner, (reflects.owner?_eq_some_iff live).1 found⟩
  exact unbound outer encloses binds

theorem read_define (reflects : Reflects forest deeds) {observer : Nat} {name wanted : Token}
    {value : Value} (live : owner < scopes deeds) (binds : Binds deeds owner name.lexeme)
    (within : observer < scopes deeds) :
    let changed := forest.define owner name.lexeme value
    (wanted.lexeme = name.lexeme ∧ Nearest deeds name.lexeme observer owner →
        changed.read observer wanted = .ok (some value)) ∧
      (¬(wanted.lexeme = name.lexeme ∧ Nearest deeds name.lexeme observer owner) →
        changed.read observer wanted = forest.read observer wanted) := by
  have old : owner < forest.next := reflects.next ▸ live
  have owners : (forest.define owner name.lexeme value).owner? observer wanted.lexeme =
      forest.owner? observer wanted.lexeme :=
    owner?_define old (reflects.binds_iff.2 binds) observer wanted.lexeme
  have changes := define_changes old name.lexeme value
  refine ⟨fun ⟨same, nearest⟩ => ?_, fun elsewhere => read_congr ?_⟩
  · have found := owners.trans ((reflects.owner?_eq_some_iff within).2 (same ▸ nearest))
    exact congrArg Prod.fst (perform_get_of_owner found ((changes.cell _).trans (if_pos same)))
  · unfold lookup?
    rw [owners]
    cases found : forest.owner? observer wanted.lexeme with
    | none => rfl
    | some other =>
        by_cases here : other = owner
        · subst here
          have nearest := (reflects.owner?_eq_some_iff within).1 found
          have different : wanted.lexeme ≠ name.lexeme := fun same =>
            elsewhere ⟨same, same ▸ nearest⟩
          exact (changes.cell _).trans (if_neg different)
        · exact congrArg (·.lookup? wanted.lexeme) (changes.others other here)

theorem lawful (reflects : Reflects forest deeds) : Lawful forest deeds where
  get scope live name owner nearest := by
    obtain ⟨value, held⟩ := reflects.exists_value nearest.encloses.2
    refine ⟨value, fun other => ?_,
      perform_get_of_owner ((reflects.owner?_eq_some_iff live).2 nearest) held⟩
    rw [← reflects.values, held, Option.some.injEq, eq_comm]
  assign scope live name owner value nearest := by
    have there := reflects.owner_live live nearest
    have old : owner < forest.next := reflects.next ▸ there
    have binds := nearest.encloses.2
    refine ⟨_, perform_assign_of_owner ((reflects.owner?_eq_some_iff live).2 nearest),
      define_changes old _ _, fun other => ?_, fun observer within wanted =>
      reflects.read_define there binds within⟩
    rw [forest.frame_define old]
    split
    · next here => rw [here, Frame.names_define_of_binds (reflects.binds_iff.2 binds)]
    · rfl
  define scope live name value := ⟨_, rfl, define_changes (reflects.next ▸ live) name value⟩
  unbound scope live name unbound :=
    have none := reflects.owner?_eq_none live unbound
    ⟨perform_get_of_unbound none, fun _ => perform_assign_of_unbound none⟩
  names scope _ := ⟨reflects.names scope, reflects.nodup_names⟩

end Reflects

/-- Whatever has been done in scopes that were there, names are read, changed and listed by what
the deeds say alone. -/
theorem after_lawful {deeds : List Deed} (feasible : Feasible deeds) :
    Lawful (after deeds) deeds :=
  (reflects_after feasible).lawful

def siblings : List Deed :=
  [.define 1 "x" (.truth false), .define 0 "x" (.truth true), .child 0, .child 0, .root]

theorem after_lawful_of_siblings :
    let name : Token := ⟨.identifier, "x", .hampa, .start⟩
    let forest := after siblings
    Feasible siblings ∧ Nearest siblings "x" 2 0 ∧ ¬Nearest siblings "x" 1 0 ∧
      ∃ changed, forest.perform (.assign 2 name .hampa) = (.ok none, changed) ∧
        changed.read 0 name = .ok (some .hampa) ∧ changed.read 2 name = .ok (some .hampa) ∧
        changed.read 1 name = forest.read 1 name := by
  intro name forest
  have feasible : Feasible siblings := by simp [Feasible, siblings, Deed.scope?, scopes]
  have root : Nearest siblings "x" 0 0 := .self (mem_definitions.1 (by decide))
  have second : Nearest siblings "x" 2 0 :=
    .outward (mt mem_definitions.2 (by decide)) rfl root
  have first : ¬Nearest siblings "x" 1 0
    | .outward free _ _ => free (mem_definitions.1 (by decide))
  obtain ⟨changed, done, _, _, seen⟩ :=
    (after_lawful feasible).assign 2 (by decide) name 0 .hampa second
  exact ⟨feasible, second, first, changed, done,
    (seen 0 (by decide) name).1 ⟨rfl, root⟩, (seen 2 (by decide) name).1 ⟨rfl, second⟩,
    (seen 1 (by decide) name).2 fun found => first found.2⟩

end BilingualScript.Forest
