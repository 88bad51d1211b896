import BilingualScript.Evaluation.Statement
import BilingualScript.Program.Dump
import BilingualScript.Program.Same
import BilingualScript.Proofs.Program.Layout
import BilingualScript.Proofs.Program.Parts

/-!
# What comparing trees tells

Literals of trees are compared by the numbers that truth values count as, so `ril` and `1` are not
told apart, although they print differently.  Trees that compare as the same are equal once these
numbers are put in, and they are equal as they stand if truth values stand in the same places.
-/

namespace BilingualScript

/-! ## Literals -/

namespace Number

theorem exists_place_of_isConstant {value : Number} (constant : (Value.number value).IsConstant) :
    ∃ place : Nat, value.place? = some (place : Int) ∧
      value =
        if fits : place < rankCount then .finite false ⟨place, fits⟩ else .infinite false := by
  obtain ⟨positive, isNumber⟩ := constant
  cases value with
  | nan => exact absurd rfl isNumber
  | infinite negative =>
      obtain rfl : negative = false := positive
      exact ⟨rankCount, rfl, by simp⟩
  | finite negative rank =>
      obtain rfl : negative = false := positive
      exact ⟨rank, rfl, by simp⟩

theorem equals_iff_eq {left right : Number} (constant : (Value.number left).IsConstant)
    (constant' : (Value.number right).IsConstant) : left.equals right = true ↔ left = right := by
  obtain ⟨place, found, same⟩ := exists_place_of_isConstant constant
  obtain ⟨place', found', same'⟩ := exists_place_of_isConstant constant'
  simp only [equals, compares, found, found', beq_iff_eq, Int.ofNat_inj]
  constructor
  · rintro rfl
    exact same.trans same'.symm
  · rintro rfl
    exact Int.ofNat_inj.1 (Option.some.inj (found.symm.trans found'))

end Number

namespace Value

theorem counted_isConstant {value : Value} (constant : value.IsConstant) :
    value.counted.IsConstant := by
  cases value with
  | truth value =>
      rw [counted]
      split
      · exact Number.ofUnits_isConstant _ _
      · exact ⟨rfl, nofun⟩
  | hampa | number | text => exact constant

theorem equals_iff_eq {left right : Value} (constant : left.IsConstant)
    (constant' : right.IsConstant) : left.equals right = true ↔ left = right := by
  cases left <;> cases right <;> simp [equals]
  exact Number.equals_iff_eq constant constant'

theorem matchesLiteral_iff {left right : Value} (constant : left.IsConstant)
    (constant' : right.IsConstant) :
    left.matchesLiteral right = true ↔ left.counted = right.counted := by
  rw [matchesLiteral, Bool.or_eq_true, equals_iff_eq constant constant',
    equals_iff_eq (counted_isConstant constant) (counted_isConstant constant')]
  exact or_iff_right_of_imp (congrArg counted)

def isTruth : Value → Bool
  | .truth _ => true
  | _ => false

theorem eq_of_counted {left right : Value} (counts : left.counted = right.counted)
    (truths : left.isTruth = right.isTruth) : left = right := by
  cases left with
  | truth left =>
      cases right with
      | truth right =>
          have apart : (truth true).counted ≠ (truth false).counted := by decide +kernel
          cases left <;> cases right
          · rfl
          · exact absurd counts.symm apart
          · exact absurd counts apart
          · rfl
      | _ => cases truths
  | _ =>
      cases right with
      | truth => cases truths
      | _ => exact counts

theorem eq_of_map_counted {left right : List Value}
    (counts : left.map counted = right.map counted)
    (truths : left.map isTruth = right.map isTruth) : left = right := by
  induction left generalizing right with
  | nil => exact (List.map_eq_nil_iff.1 counts.symm).symm
  | cons value left ih =>
      cases right with
      | nil => cases counts
      | cons value' right =>
          obtain ⟨count, counts⟩ := List.cons.inj counts
          obtain ⟨truth, truths⟩ := List.cons.inj truths
          rw [eq_of_counted count truth, ih counts truths]

end Value

/-! ## Trees with other literals -/

def Expr.mapLiterals (f : Value → Value) : Expr → Expr
  | .literal value => .literal (f value)
  | .grouping inner => .grouping (inner.mapLiterals f)
  | .unary operator operand => .unary operator (operand.mapLiterals f)
  | .binary left operator right => .binary (left.mapLiterals f) operator (right.mapLiterals f)
  | .reference name => .reference name
  | .assign name value => .assign name (value.mapLiterals f)

mutual

def Stmt.mapLiterals (f : Value → Value) : Stmt → Stmt
  | .expression value => .expression (value.mapLiterals f)
  | .spill value => .spill (value.mapLiterals f)
  | .declare name initial => .declare name (initial.map (Expr.mapLiterals f))
  | .kalo condition body otherwise =>
    .kalo (condition.mapLiterals f) (Block.mapLiterals f body) (otherwise.mapLiterals f)

def Otherwise.mapLiterals (f : Value → Value) : Otherwise → Otherwise
  | .nothing => .nothing
  | .kalogak body => .kalogak (Block.mapLiterals f body)
  | .perhaps condition body otherwise =>
    .perhaps (condition.mapLiterals f) (Block.mapLiterals f body) (otherwise.mapLiterals f)

def Block.mapLiterals (f : Value → Value) : List Stmt → List Stmt
  | [] => []
  | stmt :: rest => stmt.mapLiterals f :: Block.mapLiterals f rest

end

def Program.mapLiterals (f : Value → Value) (program : Program) : Program :=
  program.map (Option.map (Stmt.mapLiterals f))

/-! ## Answers -/

/-- An answer, if there is one, says whether something holds. -/
def Answers (answer : Option Bool) (holds : Prop) : Prop :=
  ∀ given, answer = some given → (given = true ↔ holds)

namespace Answers

variable {first second : Option Bool} {p q : Prop}

theorem none : Answers none p := nofun

theorem some {given : Bool} (same : given = true ↔ p) : Answers (some given) p := by
  rintro _ ⟨⟩
  exact same

theorem congr (same : p ↔ q) (answers : Answers first p) : Answers first q :=
  fun given found => (answers given found).trans same

theorem both (answers : Answers first p) (answers' : p → Answers second q) :
    Answers (both first second) (p ∧ q) := by
  intro given found
  cases first with
  | none => cases found
  | some holds =>
      have here := answers holds rfl
      cases holds with
      | true =>
          have p := here.1 rfl
          rw [answers' p given found]
          simp [p]
      | false =>
          obtain rfl : false = given := Option.some.inj found
          simp [← here]

end Answers

/-! ## Expressions -/

def Parts.constant : Parts := ⟨Value.IsConstant, fun _ => True, fun _ => True, fun _ => True⟩

theorem Expr.same?_answers (depth : Nat) {left right : Expr} (constant : left.MadeOf .constant)
    (constant' : right.MadeOf .constant) :
    Answers (left.same? depth right)
      (left.mapLiterals Value.counted = right.mapLiterals Value.counted) := by
  induction depth generalizing left right with
  | zero => exact .none
  | succ depth ih =>
      cases left <;> cases right
      case literal.literal =>
          exact .some (by simpa [mapLiterals] using Value.matchesLiteral_iff constant constant')
      case grouping.grouping =>
          refine Answers.congr ?_ (ih constant constant')
          simp [mapLiterals]
      case unary.unary =>
          refine ((Answers.some beq_iff_eq).both fun _ => ih constant.2 constant'.2).congr ?_
          simp [mapLiterals]
      case binary.binary =>
          refine ((ih constant.2.1 constant'.2.1).both fun _ =>
            (Answers.some beq_iff_eq).both fun _ => ih constant.2.2 constant'.2.2).congr ?_
          simp [mapLiterals]
      case reference.reference => exact .some (by simp [mapLiterals])
      case assign.assign =>
          refine ((Answers.some beq_iff_eq).both fun _ => ih constant.2 constant'.2).congr ?_
          simp [mapLiterals]
      all_goals exact .some (by simp [mapLiterals])

theorem Expr.sameInitial?_answers (depth : Nat) {left right : Option Expr}
    (constant : ∀ expr ∈ left, expr.MadeOf .constant)
    (constant' : ∀ expr ∈ right, expr.MadeOf .constant) :
    Answers (sameInitial? depth left right)
      (left.map (mapLiterals Value.counted) = right.map (mapLiterals Value.counted)) := by
  cases left with
  | none =>
      cases right with
      | none => exact .some (by simp)
      | some right => exact .some (by simp)
  | some left =>
      cases right with
      | none => exact .some (by simp)
      | some right =>
          exact (same?_answers depth (constant left rfl) (constant' right rfl)).congr (by simp)

/-! ## Statements -/

theorem Block.length_mapLiterals (f : Value → Value) (stmts : List Stmt) :
    (Block.mapLiterals f stmts).length = stmts.length := by
  induction stmts with
  | nil => rfl
  | cons stmt rest ih => exact congrArg (· + 1) ih

theorem Block.length_eq_of_mapLiterals {f : Value → Value} {stmts stmts' : List Stmt}
    (same : Block.mapLiterals f stmts = Block.mapLiterals f stmts') :
    stmts.length = stmts'.length := by
  rw [← length_mapLiterals f stmts, same, length_mapLiterals]

namespace Otherwise

def branches : Otherwise → List (Expr × List Stmt)
  | .nothing | .kalogak _ => []
  | .perhaps condition body otherwise => (condition, body) :: otherwise.branches

theorem conditions_eq_length (otherwise : Otherwise) :
    otherwise.conditions = otherwise.branches.length := by
  cases otherwise with
  | nothing | kalogak => rfl
  | perhaps _ _ otherwise => exact congrArg (· + 1) (conditions_eq_length otherwise)

theorem eq_of_branches (first : Otherwise) {second : Otherwise} (last : first.last? = second.last?)
    (branches : first.branches = second.branches) : first = second := by
  match first, second with
  | .nothing, .nothing => rfl
  | .kalogak body, .kalogak body' =>
      obtain rfl : body = body' := Option.some.inj last
      rfl
  | .perhaps _ _ first, .perhaps _ _ second =>
      obtain ⟨here, behind⟩ := List.cons.inj branches
      obtain ⟨rfl, rfl⟩ := Prod.mk.inj here
      rw [@eq_of_branches first second last behind]
  | .nothing, .kalogak _ | .kalogak _, .nothing => cases last
  | .nothing, .perhaps .. | .kalogak _, .perhaps .. | .perhaps .., .nothing
  | .perhaps .., .kalogak _ => cases branches

theorem eq_iff {first second : Otherwise} :
    first = second ↔ first.last? = second.last? ∧ first.branches = second.branches := by
  constructor
  · rintro rfl
    exact ⟨rfl, rfl⟩
  · exact fun ⟨last, branches⟩ => eq_of_branches first last branches

theorem last?_mapLiterals (f : Value → Value) (otherwise : Otherwise) :
    (otherwise.mapLiterals f).last? = otherwise.last?.map (Block.mapLiterals f) := by
  cases otherwise with
  | nothing | kalogak => rfl
  | perhaps _ _ otherwise => exact last?_mapLiterals f otherwise

theorem conditions_mapLiterals (f : Value → Value) (otherwise : Otherwise) :
    (otherwise.mapLiterals f).conditions = otherwise.conditions := by
  cases otherwise with
  | nothing | kalogak => rfl
  | perhaps _ _ otherwise => exact congrArg (· + 1) (conditions_mapLiterals f otherwise)

theorem MadeOf.last {parts : Parts} {otherwise : Otherwise} (made : otherwise.MadeOf parts) :
    ∀ body ∈ otherwise.last?, Block.MadeOf parts body := by
  match otherwise with
  | .nothing => exact nofun
  | .kalogak body =>
      rintro _ ⟨⟩
      exact made
  | .perhaps _ _ otherwise => exact @MadeOf.last parts otherwise made.2.2

end Otherwise

mutual

theorem Stmt.same?_answers (depth : Nat) {left right : Stmt} (constant : left.MadeOf .constant)
    (constant' : right.MadeOf .constant) :
    Answers (left.same? depth right)
      (left.mapLiterals Value.counted = right.mapLiterals Value.counted) := by
  match depth, left with
  | 0, stmt => cases stmt <;> exact .none
  | depth + 1, .expression left =>
      cases right with
      | expression right =>
          refine Answers.congr ?_ (Expr.same?_answers depth constant constant')
          simp [Stmt.mapLiterals]
      | _ => exact .some (by simp [Stmt.mapLiterals])
  | depth + 1, .spill left =>
      cases right with
      | spill right =>
          refine Answers.congr ?_ (Expr.same?_answers depth constant constant')
          simp [Stmt.mapLiterals]
      | _ => exact .some (by simp [Stmt.mapLiterals])
  | depth + 1, .declare name initial =>
      cases right with
      | declare name' initial' =>
          have initials := Expr.sameInitial?_answers depth (Stmt.MadeOf.initial constant)
            (Stmt.MadeOf.initial constant')
          refine ((Answers.some beq_iff_eq).both fun _ => initials).congr ?_
          simp [Stmt.mapLiterals]
      | _ => exact .some (by simp [Stmt.mapLiterals])
  | depth + 1, .kalo condition body otherwise =>
      cases right with
      | kalo condition' body' otherwise' =>
          obtain ⟨condition, body, others⟩ := constant
          obtain ⟨condition', body', others'⟩ := constant'
          have conditions := Expr.same?_answers depth condition condition'
          refine (conditions.both fun _ => (Answers.some beq_iff_eq).both fun lengths =>
            (Block.same?_answers depth lengths body body').both fun _ =>
              (Otherwise.sameLast?_answers depth others others'.last).both fun _ =>
                (Answers.some beq_iff_eq).both fun counts =>
                  Otherwise.sameBranches?_answers depth counts others others').congr ?_
          simp only [Stmt.mapLiterals, Stmt.kalo.injEq, Otherwise.eq_iff,
            Otherwise.last?_mapLiterals]
          constructor
          · rintro ⟨conditions, _, bodies, last, _, branches⟩
            exact ⟨conditions, bodies, last, branches⟩
          · rintro ⟨conditions, bodies, last, branches⟩
            have lengths := Block.length_eq_of_mapLiterals bodies
            have counts := congrArg List.length branches
            simp only [← Otherwise.conditions_eq_length, Otherwise.conditions_mapLiterals]
              at counts
            exact ⟨conditions, lengths, bodies, last, counts, branches⟩
      | _ => exact .some (by simp [Stmt.mapLiterals])

theorem Otherwise.sameLast?_answers (depth : Nat) {left : Otherwise} {last : Option (List Stmt)}
    (constant : left.MadeOf .constant)
    (constant' : ∀ body ∈ last, Block.MadeOf .constant body) :
    Answers (left.sameLast? depth last)
      (left.last?.map (Block.mapLiterals Value.counted) =
        last.map (Block.mapLiterals Value.counted)) := by
  match left, last with
  | .nothing, last => exact .some (by cases last <;> simp [Otherwise.last?])
  | .kalogak body, none => exact .some (by simp [Otherwise.last?])
  | .kalogak body, some body' =>
      refine ((Answers.some beq_iff_eq).both fun lengths =>
        Block.same?_answers depth lengths constant (constant' body' rfl)).congr ?_
      simp only [Otherwise.last?, Option.map_some, Option.some.injEq, and_iff_right_iff_imp]
      exact Block.length_eq_of_mapLiterals
  | .perhaps _ _ otherwise, last =>
      exact @Otherwise.sameLast?_answers depth otherwise last constant.2.2 constant'

theorem Otherwise.sameBranches?_answers (depth : Nat) {left right : Otherwise}
    (counts : left.conditions = right.conditions) (constant : left.MadeOf .constant)
    (constant' : right.MadeOf .constant) :
    Answers (left.sameBranches? depth right)
      ((left.mapLiterals Value.counted).branches = (right.mapLiterals Value.counted).branches) := by
  match left, right with
  | .perhaps _ _ otherwise, .perhaps _ _ otherwise' =>
      obtain ⟨condition, body, others⟩ := constant
      obtain ⟨condition', body', others'⟩ := constant'
      have behind := Otherwise.sameBranches?_answers depth (Nat.succ.inj counts) others others'
      refine ((Expr.same?_answers depth condition condition').both fun _ =>
        (Answers.some beq_iff_eq).both fun lengths =>
          (Block.same?_answers depth lengths body body').both fun _ => behind).congr ?_
      simp only [Otherwise.mapLiterals, Otherwise.branches, List.cons.injEq, Prod.mk.injEq]
      constructor
      · rintro ⟨conditions, _, bodies, behind⟩
        exact ⟨⟨conditions, bodies⟩, behind⟩
      · rintro ⟨⟨conditions, bodies⟩, behind⟩
        exact ⟨conditions, Block.length_eq_of_mapLiterals bodies, bodies, behind⟩
  | .nothing, .nothing | .nothing, .kalogak _ | .kalogak _, .nothing | .kalogak _, .kalogak _ =>
      exact .some (by simp [Otherwise.mapLiterals, Otherwise.branches])
  | .nothing, .perhaps .. | .kalogak _, .perhaps .. | .perhaps .., .nothing
  | .perhaps .., .kalogak _ => cases counts

theorem Block.same?_answers (depth : Nat) {left right : List Stmt}
    (lengths : left.length = right.length) (constant : Block.MadeOf .constant left)
    (constant' : Block.MadeOf .constant right) :
    Answers (Block.same? depth left right)
      (Block.mapLiterals Value.counted left = Block.mapLiterals Value.counted right) := by
  match left, right with
  | [], [] => exact .some (by simp)
  | stmt :: rest, stmt' :: rest' =>
      refine ((Stmt.same?_answers depth constant.1 constant'.1).both fun _ =>
        Block.same?_answers depth (Nat.succ.inj lengths) constant.2 constant'.2).congr ?_
      simp [Block.mapLiterals]

end

/-! ## Literals in their places -/

def Expr.literals : Expr → List Value
  | .literal value => [value]
  | .grouping inner => inner.literals
  | .unary _ operand => operand.literals
  | .binary left _ right => left.literals ++ right.literals
  | .reference _ => []
  | .assign _ value => value.literals

mutual

def Stmt.literals : Stmt → List Value
  | .expression value | .spill value => value.literals
  | .declare _ initial => initial.elim [] Expr.literals
  | .kalo condition body otherwise =>
    condition.literals ++ (Block.literals body ++ otherwise.literals)

def Otherwise.literals : Otherwise → List Value
  | .nothing => []
  | .kalogak body => Block.literals body
  | .perhaps condition body otherwise =>
    condition.literals ++ (Block.literals body ++ otherwise.literals)

def Block.literals : List Stmt → List Value
  | [] => []
  | stmt :: rest => stmt.literals ++ Block.literals rest

end

/-- Puts values in the places of the literals, from left to right, as far as there are any. -/
def Expr.refilled : Expr → List Value → Expr × List Value
  | .literal _, value :: values => (.literal value, values)
  | .grouping inner, values =>
    let (inner, values) := inner.refilled values
    (.grouping inner, values)
  | .unary operator operand, values =>
    let (operand, values) := operand.refilled values
    (.unary operator operand, values)
  | .binary left operator right, values =>
    let (left, values) := left.refilled values
    let (right, values) := right.refilled values
    (.binary left operator right, values)
  | .assign name value, values =>
    let (value, values) := value.refilled values
    (.assign name value, values)
  | expr, values => (expr, values)

mutual

def Stmt.refilled : Stmt → List Value → Stmt × List Value
  | .expression value, values =>
    let (value, values) := value.refilled values
    (.expression value, values)
  | .spill value, values =>
    let (value, values) := value.refilled values
    (.spill value, values)
  | .declare name (some value), values =>
    let (value, values) := value.refilled values
    (.declare name (some value), values)
  | .declare name none, values => (.declare name none, values)
  | .kalo condition body otherwise, values =>
    let (condition, values) := condition.refilled values
    let (body, values) := Block.refilled body values
    let (otherwise, values) := otherwise.refilled values
    (.kalo condition body otherwise, values)

def Otherwise.refilled : Otherwise → List Value → Otherwise × List Value
  | .nothing, values => (.nothing, values)
  | .kalogak body, values =>
    let (body, values) := Block.refilled body values
    (.kalogak body, values)
  | .perhaps condition body otherwise, values =>
    let (condition, values) := condition.refilled values
    let (body, values) := Block.refilled body values
    let (otherwise, values) := otherwise.refilled values
    (.perhaps condition body otherwise, values)

def Block.refilled : List Stmt → List Value → List Stmt × List Value
  | [], values => ([], values)
  | stmt :: rest, values =>
    let (stmt, values) := stmt.refilled values
    let (rest, values) := Block.refilled rest values
    (stmt :: rest, values)

end

section Refilled

variable (f : Value → Value)

theorem Expr.literals_mapLiterals (expr : Expr) :
    (expr.mapLiterals f).literals = expr.literals.map f := by
  induction expr with
  | literal | reference => rfl
  | grouping _ ih | unary _ _ ih | assign _ _ ih => exact ih
  | binary _ _ _ ih ih' => simp [mapLiterals, literals, ih, ih']

mutual

theorem Stmt.literals_mapLiterals (stmt : Stmt) :
    (stmt.mapLiterals f).literals = stmt.literals.map f := by
  match stmt with
  | .expression value | .spill value | .declare _ (some value) =>
      exact value.literals_mapLiterals f
  | .declare _ none => rfl
  | .kalo condition body otherwise =>
      simp [Stmt.mapLiterals, Stmt.literals, condition.literals_mapLiterals,
        Block.literals_mapLiterals body, Otherwise.literals_mapLiterals otherwise]

theorem Otherwise.literals_mapLiterals (otherwise : Otherwise) :
    (otherwise.mapLiterals f).literals = otherwise.literals.map f := by
  match otherwise with
  | .nothing => rfl
  | .kalogak body => exact Block.literals_mapLiterals body
  | .perhaps condition body otherwise =>
      simp [Otherwise.mapLiterals, Otherwise.literals, condition.literals_mapLiterals,
        Block.literals_mapLiterals body, Otherwise.literals_mapLiterals otherwise]

theorem Block.literals_mapLiterals (stmts : List Stmt) :
    Block.literals (Block.mapLiterals f stmts) = (Block.literals stmts).map f := by
  match stmts with
  | [] => rfl
  | stmt :: rest =>
      simp [Block.mapLiterals, Block.literals, stmt.literals_mapLiterals,
        Block.literals_mapLiterals rest]

end

/-- Whatever its literals have become, a tree comes back with them. -/
theorem Expr.refilled_mapLiterals (expr : Expr) (rest : List Value) :
    (expr.mapLiterals f).refilled (expr.literals ++ rest) = (expr, rest) := by
  induction expr generalizing rest with
  | literal | reference => rfl
  | grouping _ ih | unary _ _ ih | assign _ _ ih => simp [mapLiterals, literals, refilled, ih]
  | binary _ _ _ ih ih' => simp [mapLiterals, literals, refilled, ih, ih']

mutual

theorem Stmt.refilled_mapLiterals (stmt : Stmt) (rest : List Value) :
    (stmt.mapLiterals f).refilled (stmt.literals ++ rest) = (stmt, rest) := by
  match stmt with
  | .expression value | .spill value =>
      simp [Stmt.mapLiterals, Stmt.literals, Stmt.refilled, value.refilled_mapLiterals]
  | .declare _ none => rfl
  | .declare _ (some value) =>
      simp [Stmt.mapLiterals, Stmt.literals, Stmt.refilled, value.refilled_mapLiterals]
  | .kalo condition body otherwise =>
      simp [Stmt.mapLiterals, Stmt.literals, Stmt.refilled, condition.refilled_mapLiterals,
        Block.refilled_mapLiterals body, Otherwise.refilled_mapLiterals otherwise]

theorem Otherwise.refilled_mapLiterals (otherwise : Otherwise) (rest : List Value) :
    (otherwise.mapLiterals f).refilled (otherwise.literals ++ rest) = (otherwise, rest) := by
  match otherwise with
  | .nothing => rfl
  | .kalogak body =>
      simp [Otherwise.mapLiterals, Otherwise.literals, Otherwise.refilled,
        Block.refilled_mapLiterals body]
  | .perhaps condition body otherwise =>
      simp [Otherwise.mapLiterals, Otherwise.literals, Otherwise.refilled,
        condition.refilled_mapLiterals, Block.refilled_mapLiterals body,
        Otherwise.refilled_mapLiterals otherwise]

theorem Block.refilled_mapLiterals (stmts : List Stmt) (rest : List Value) :
    Block.refilled (Block.mapLiterals f stmts) (Block.literals stmts ++ rest) = (stmts, rest) := by
  match stmts with
  | [] => rfl
  | stmt :: stmts =>
      simp [Block.mapLiterals, Block.literals, Block.refilled, stmt.refilled_mapLiterals,
        Block.refilled_mapLiterals stmts]

end

end Refilled

theorem Block.eq_of_literals {f : Value → Value} {left right : List Stmt}
    (same : Block.mapLiterals f left = Block.mapLiterals f right)
    (literals : Block.literals left = Block.literals right) : left = right := by
  have back := Block.refilled_mapLiterals f left []
  rw [same, literals, Block.refilled_mapLiterals] at back
  exact (congrArg Prod.fst back).symm

/-! ## Programs -/

theorem Program.sameFrom?_answers {left right : List Stmt} (lengths : left.length = right.length)
    (constant : Block.MadeOf .constant left) (constant' : Block.MadeOf .constant right) :
    Answers (sameFrom? (left.map some) (right.map some))
      (Block.mapLiterals Value.counted left = Block.mapLiterals Value.counted right) := by
  induction left generalizing right with
  | nil =>
      obtain rfl := List.eq_nil_of_length_eq_zero lengths.symm
      exact .some (by simp)
  | cons stmt rest ih =>
      obtain ⟨stmt', rest', rfl⟩ := List.exists_cons_of_length_eq_add_one lengths.symm
      refine ((Stmt.same?_answers sameDepth constant.1 constant'.1).both fun _ =>
        ih (Nat.succ.inj lengths) constant.2 constant'.2).congr ?_
      simp [Block.mapLiterals]

theorem Program.same?_answers {left right : List Stmt} (constant : Block.MadeOf .constant left)
    (constant' : Block.MadeOf .constant right) :
    Answers (same? (left.map some) (right.map some))
      (Block.mapLiterals Value.counted left = Block.mapLiterals Value.counted right) := by
  refine ((Answers.some beq_iff_eq).both fun lengths =>
    sameFrom?_answers (by simpa using lengths) constant constant').congr ?_
  simp only [List.length_map, and_iff_right_iff_imp]
  exact Block.length_eq_of_mapLiterals

def Program.literals (program : Program) : List Value := Block.literals (program.filterMap id)

theorem Program.mapLiterals_map_some (f : Value → Value) (stmts : List Stmt) :
    mapLiterals f (stmts.map some) = (Block.mapLiterals f stmts).map some := by
  induction stmts with
  | nil => rfl
  | cons stmt rest ih => exact congrArg (some (stmt.mapLiterals f) :: ·) ih

theorem Parsed.madeOf_constant {room : Nat} {source : String}
    (clean : (ofTokens room (Lexed.ofText source).tokens).faults = []) :
    ∃ stmts, (ofTokens room (Lexed.ofText source).tokens).program = stmts.map some ∧
      Block.MadeOf .constant stmts := by
  refine madeOf clean ⟨fun _ => True.intro, True.intro⟩ fun token mem => ?_
  refine ⟨fun _ => ?_, fun _ => True.intro, fun _ => True.intro, fun _ => True.intro⟩
  rw [Lexed.literal_of_mem_items mem]
  exact Value.literal_isConstant _ _

/-- Comparing programs, if it does not go too deep, tells whether they are equal once each truth
value is replaced by the number that it counts as.  So programs with truth values in the same places
compare as the same only if they are equal. -/
theorem Parsed.same_iff_counted {room room' : Nat} {source source' : String} {answer : Bool}
    (clean : (ofTokens room (Lexed.ofText source).tokens).faults = [])
    (clean' : (ofTokens room' (Lexed.ofText source').tokens).faults = [])
    (answered : (ofTokens room (Lexed.ofText source).tokens).program.same?
      (ofTokens room' (Lexed.ofText source').tokens).program = some answer) :
    let left := (ofTokens room (Lexed.ofText source).tokens).program
    let right := (ofTokens room' (Lexed.ofText source').tokens).program
    (answer = true ↔ left.mapLiterals Value.counted = right.mapLiterals Value.counted) ∧
      (left.literals.map Value.isTruth = right.literals.map Value.isTruth →
        (answer = true ↔ left = right)) := by
  intro left right
  obtain ⟨stmts, same, constant⟩ := madeOf_constant clean
  obtain ⟨stmts', same', constant'⟩ := madeOf_constant clean'
  rw [same, same'] at answered
  simp only [left, right, same, same', Program.literals, Program.mapLiterals_map_some,
    List.map_inj_right fun _ _ => Option.some.inj, List.filterMap_map]
  have counts := Program.same?_answers constant constant' answer answered
  refine ⟨counts, fun truths => ⟨fun holds => ?_, fun equal => counts.2 (by rw [equal])⟩⟩
  have shapes := counts.1 holds
  have literals := congrArg Block.literals shapes
  rw [Block.literals_mapLiterals, Block.literals_mapLiterals] at literals
  exact Block.eq_of_literals shapes (Value.eq_of_map_counted literals (by simpa using truths))

/-- Truth values as conditions and as operands, and the numbers that they count as. -/
theorem Parsed.same_iff_counted_of_conditions :
    let parsed (source : String) := ofTokens 989 (Lexed.ofText source).tokens
    let left := parsed "kalo 1\nspill !0\nperhaps ril\nudahan"
    let right := parsed "kalo ril\nspill !impossible\nperhaps 1\nudahan"
    left.faults = [] ∧ right.faults = [] ∧ left.program.same? right.program = some true ∧
      left.program.mapLiterals Value.counted = right.program.mapLiterals Value.counted := by
  intro parsed left right
  have clean : left.faults = [] := by decide +kernel
  have clean' : right.faults = [] := by decide +kernel
  have answered : left.program.same? right.program = some true := by decide +kernel
  exact ⟨clean, clean', answered, (same_iff_counted clean clean' answered).1.1 rfl⟩

/-- `1` and `ril` compare as the same, but they print differently. -/
theorem Parsed.same_of_one_and_ril :
    let program (source : String) := (ofTokens 989 (Lexed.ofText source).tokens).program
    (program "spill 1").same? (program "spill ril") = some true ∧
      (program "spill 1").dump? 998 = some "(spill 1)" ∧
      (program "spill ril").dump? 998 = some "(spill ril)" ∧
      ((program "spill 1").exec 990 (.global [])).outputs = ["1"] ∧
      ((program "spill ril").exec 990 (.global [])).outputs = ["ril"] := by
  decide +kernel

end BilingualScript
