import BilingualScript.Proofs.Number.Nearest

/-!
# Guarded operations

A machine divides by no zero, has no remainder of an infinite dividend or by zero, and cuts no
fraction off a number that is not finite.  The language looks at its operands first and keeps these
from the machine, so that every two numbers have a quotient and a remainder and every number has a
text.
-/

namespace BilingualScript.Number

/-! ## What a machine refuses -/

def isInfinite : Number → Bool
  | .infinite _ => true
  | _ => false

/-- The quotient of a machine, which refuses a divisor of zero, whatever the dividend. -/
def quotient? (left right : Number) : Option Number :=
  if right.isZero then none else some (left.divide right)

/-- The remainder of a machine.  It refuses operands that have none, unless one of them is not a
number to begin with. -/
def remainder? : Number → Number → Option Number
  | .nan, _ | _, .nan => some .nan
  | left, right => if left.isInfinite || right.isZero then none else some (left.remainder right)

def truncated? : Number → Option Int
  | .finite negative rank =>
    let whole : Int := (unitsOfRank rank / oneUnits : Nat)
    some (if negative then -whole else whole)
  | _ => none

/-! ## What the language asks of it -/

def magnitude : Number → Number
  | .nan => .nan
  | .infinite _ => .infinite false
  | .finite _ rank => .finite false rank

def signedOne (negative : Bool) : Number := ofUnits negative oneUnits 1

def wholeBound : Number := ofUnits false (wholeLimit * oneUnits) 1

/-- Division by zero is settled without the machine: by the signs of both operands, unless the
dividend is zero too or not a number. -/
def guardedQuotient? (left right : Number) : Option Number :=
  if right.isZero then
    if left.isZero || left == .nan then some .nan
    else some ((infinite left.isNegative).multiply (signedOne right.isNegative))
  else left.quotient? right

def guardedRemainder? (left right : Number) : Option Number :=
  if right.isZero || left.isInfinite then some .nan else left.remainder? right

def guardedChars? (number : Number) : Option (List Char) :=
  if number.isZero then some (if number.isNegative then ['-', '0'] else ['0'])
  else if number.whole?.isSome && number.magnitude.below wholeBound then
    number.truncated?.map fun whole => (toString whole).toList
  else some number.chars

/-! ## Quotients and remainders -/

theorem isZero_finite (negative : Bool) (rank : Fin rankCount) :
    (finite negative rank).isZero = true ↔ rank.val = 0 := by
  rw [isZero, place?, beq_iff_eq, Option.some.injEq]
  split <;> omega

@[simp] theorem isZero_infinite (negative : Bool) : (infinite negative).isZero = false := by
  cases negative <;> decide

@[simp] theorem isZero_nan : nan.isZero = false := rfl

theorem infinite_multiply_signedOne (left right : Bool) :
    (infinite left).multiply (signedOne right) = .infinite (left ^^ right) := by
  have one : signedOne right = .finite right ⟨1023 * blockSize, by decide⟩ := by
    cases right <;> decide +kernel
  rw [one]
  rfl

theorem guardedQuotient?_eq (left right : Number) :
    guardedQuotient? left right = some (left.divide right) := by
  unfold guardedQuotient?
  by_cases zero : right.isZero = true
  · rw [if_pos zero]
    cases right with
    | nan => cases zero
    | infinite negative => rw [isZero_infinite] at zero; cases zero
    | finite negative rank =>
        have zero := (isZero_finite negative rank).1 zero
        rw [infinite_multiply_signedOne]
        cases left with
        | nan => rfl
        | infinite => simp [divide, isNegative]
        | finite other dividend =>
            by_cases none : dividend.val = 0
            · rw [(isZero_finite other dividend).2 none, divide, if_pos zero, if_pos none]
              rfl
            · rw [if_neg (by simpa [isZero_finite] using none), divide, if_pos zero, if_neg none]
              rfl
  · rw [if_neg zero, quotient?, if_neg zero]

theorem remainder_eq_nan {left right : Number}
    (refused : right.isZero = true ∨ left.isInfinite = true) : left.remainder right = .nan := by
  rcases refused with zero | infinite
  · cases right with
    | nan => cases left <;> rfl
    | infinite => rw [isZero_infinite] at zero; cases zero
    | finite negative rank =>
        cases left with
        | nan | infinite => rfl
        | finite => rw [remainder, if_pos ((isZero_finite negative rank).1 zero)]
  · cases left with
    | nan | finite => cases infinite
    | infinite => cases right <;> rfl

theorem remainder?_eq {left right : Number}
    (accepted : ¬(left.isInfinite || right.isZero) = true) :
    left.remainder? right = some (left.remainder right) := by
  unfold remainder?
  split
  · rfl
  · cases left <;> rfl
  · rw [if_neg accepted]

theorem guardedRemainder?_eq (left right : Number) :
    guardedRemainder? left right = some (left.remainder right) := by
  unfold guardedRemainder?
  by_cases refused : (right.isZero || left.isInfinite) = true
  · rw [if_pos refused, remainder_eq_nan (Bool.or_eq_true_iff.1 refused)]
  · rw [if_neg refused, remainder?_eq (by rwa [Bool.or_comm])]

/-! ## Texts -/

theorem unitsOfRank_lt_iff {first second : Nat} :
    unitsOfRank first < unitsOfRank second ↔ first < second := by
  refine ⟨fun units => ?_, unitsOfRank_strictMono⟩
  rcases Nat.lt_trichotomy first second with less | same | greater
  · exact less
  · exact absurd units (same ▸ Nat.lt_irrefl _)
  · exact absurd units (Nat.lt_asymm (unitsOfRank_strictMono greater))

theorem ofUnits_of_lt {negative : Bool} {numerator denominator : Nat}
    (fits : rankOfUnits numerator denominator < rankCount) :
    ofUnits negative numerator denominator = .finite negative ⟨_, fits⟩ := dif_pos fits

theorem below_finite (first second : Fin rankCount) :
    (finite false first).below (finite false second) = true ↔ first.val < second.val := by
  simp [below, compares, place?]

theorem unitsOfRank_wholeBound :
    unitsOfRank (rankOfUnits (wholeLimit * oneUnits) 1) = wholeLimit * oneUnits := by
  decide +kernel

/-- Where whole numbers stop being written as such is itself a number, so that comparing with it is
comparing with the limit. -/
theorem below_wholeBound (rank : Fin rankCount) :
    (finite false rank).below wholeBound = true ↔ unitsOfRank rank < wholeLimit * oneUnits := by
  have fits : rankOfUnits (wholeLimit * oneUnits) 1 < rankCount := by decide +kernel
  rw [wholeBound, ofUnits_of_lt fits, below_finite, ← unitsOfRank_lt_iff]
  exact iff_of_eq (congrArg _ unitsOfRank_wholeBound)

theorem toList_toString_signed (negative : Bool) {whole : Nat} (nonzero : whole ≠ 0) :
    (toString (if negative then -(whole : Int) else whole)).toList =
      signText negative ++ Nat.toDigits 10 whole := by
  obtain ⟨before, rfl⟩ := Nat.exists_eq_succ_of_ne_zero nonzero
  cases negative with
  | false => exact Nat.toList_repr
  | true => exact (String.toList_append ..).trans (congrArg ('-' :: ·) Nat.toList_repr)

theorem oneUnits_pos : 0 < oneUnits := by decide +kernel

theorem units_of_whole {negative : Bool} {rank : Fin rankCount} {whole : Nat}
    (found : (finite negative rank).whole? = some whole) :
    unitsOfRank rank = whole * oneUnits := by
  simp only [whole?] at found
  split at found
  · next multiple =>
    rw [← Option.some.inj found, Nat.div_mul_cancel (Nat.dvd_of_mod_eq_zero multiple)]
  · cases found

theorem guardedChars?_eq (number : Number) : guardedChars? number = some number.displayChars := by
  unfold guardedChars?
  cases number with
  | nan | infinite => simp [whole?, displayChars]
  | finite negative rank =>
      by_cases zero : rank.val = 0
      · have none : (finite negative rank).whole? = some 0 := by
          rw [whole?, zero]
          rfl
        rw [if_pos ((isZero_finite _ _).2 zero), displayChars, none]
        cases negative <;> rfl
      · rw [if_neg (by simpa [isZero_finite] using zero), displayChars]
        rcases found : (finite negative rank).whole? with _ | whole
        · rfl
        · have units := units_of_whole found
          have nonzero : whole ≠ 0 := by
            rintro rfl
            have positive := unitsOfRank_strictMono (Nat.pos_of_ne_zero zero)
            omega
          have part : (finite negative rank).truncated? =
              some (if negative then -(whole : Int) else whole) := by
            rw [truncated?, units, Nat.mul_div_cancel _ oneUnits_pos]
          have limit : (finite negative rank).magnitude.below wholeBound = true ↔
              whole < wholeLimit := by
            rw [magnitude, below_wholeBound, units, Nat.mul_lt_mul_right oneUnits_pos]
          by_cases small : whole < wholeLimit
          · rw [limit.2 small, part, Option.map_some, toList_toString_signed negative nonzero]
            simp [small, isNegative]
          · rw [if_neg (by simpa [limit] using small)]
            simp [small]

end BilingualScript.Number
