import BilingualScript.Number.Decimal
import Mathlib.Algebra.Group.Nat.Defs

/-!
# Rounding to the nearest magnitude

The rank that a quotient of units is given is nearest to it among all ranks, and even where two
are equally near.  So a decimal text reads as the number nearest to what it says.
-/

namespace BilingualScript.Number

/-! ## Units of ranks -/

theorem block_of_rank (block : Nat) {digits : Nat} (least : blockSize ≤ digits)
    (most : digits < 2 * blockSize) :
    (block * blockSize + digits) / blockSize = block + 1 ∧
      (block * blockSize + digits) % blockSize = digits - blockSize := by
  unfold blockSize at *
  omega

theorem unitsOfRank_block (block digits : Nat) (least : blockSize ≤ digits)
    (most : digits ≤ 2 * blockSize) :
    unitsOfRank (block * blockSize + digits) = digits * 2 ^ block := by
  have positive : 0 < blockSize := by decide
  unfold unitsOfRank significand shift
  rw [Nat.shiftLeft_eq]
  rcases Nat.lt_or_ge digits (2 * blockSize) with inside | last
  · obtain ⟨quotient, remainder⟩ := block_of_rank block least inside
    rw [quotient, remainder, Nat.add_sub_cancel, Nat.add_sub_cancel' least]
    split
    · next early =>
      have none : block = 0 := by
        rcases Nat.eq_zero_or_pos block with none | some
        · exact none
        · have := Nat.mul_le_mul_right blockSize some
          omega
      simp [none]
    · rfl
  · obtain rfl : digits = 2 * blockSize := by omega
    obtain ⟨quotient, remainder⟩ := block_of_rank (block + 1) (Nat.le_refl blockSize)
      (by omega)
    have next : block * blockSize + 2 * blockSize = (block + 1) * blockSize + blockSize := by
      rw [Nat.add_mul]
      omega
    rw [next, quotient, remainder, if_neg (by rw [Nat.add_mul]; omega), Nat.sub_self,
      Nat.add_zero, Nat.add_sub_cancel, Nat.pow_succ, Nat.mul_comm (2 ^ block), ← Nat.mul_assoc,
      Nat.mul_comm 2]

theorem unitsOfRank_of_le {rank : Nat} (small : rank ≤ 2 * blockSize) :
    unitsOfRank rank = rank := by
  rcases Nat.lt_or_ge rank blockSize with first | second
  · rw [unitsOfRank, significand, shift, if_pos (by omega), Nat.div_eq_of_lt first]
    rfl
  · simpa using unitsOfRank_block 0 rank second small

theorem exists_block {rank : Nat} (large : blockSize ≤ rank) :
    ∃ block digits, rank = block * blockSize + digits ∧ blockSize ≤ digits ∧
      digits < 2 * blockSize := by
  refine ⟨rank / blockSize - 1, blockSize + rank % blockSize, ?_⟩
  unfold blockSize at *
  omega

theorem unitsOfRank_lt_succ (rank : Nat) : unitsOfRank rank < unitsOfRank (rank + 1) := by
  rcases Nat.lt_or_ge rank blockSize with small | large
  · rw [unitsOfRank_of_le (by omega), unitsOfRank_of_le (by omega)]
    omega
  · obtain ⟨block, digits, rfl, least, most⟩ := exists_block large
    rw [Nat.add_assoc, unitsOfRank_block block digits least (by omega),
      unitsOfRank_block block (digits + 1) (by omega) (by omega)]
    exact Nat.mul_lt_mul_of_pos_right (Nat.lt_succ_self digits) (Nat.two_pow_pos block)

theorem unitsOfRank_strictMono {first second : Nat} (less : first < second) :
    unitsOfRank first < unitsOfRank second := by
  induction less with
  | refl => exact unitsOfRank_lt_succ first
  | step _ ih => exact Nat.lt_trans ih (unitsOfRank_lt_succ _)

theorem unitsOfRank_inj {first second : Nat} (same : unitsOfRank first = unitsOfRank second) :
    first = second := by
  rcases Nat.lt_trichotomy first second with less | equal | greater
  · have := unitsOfRank_strictMono less
    omega
  · exact equal
  · have := unitsOfRank_strictMono greater
    omega

theorem unitsOfRank_cases (rank block : Nat) :
    (∃ multiple, unitsOfRank rank = multiple * 2 ^ block) ∨
      unitsOfRank rank < blockSize * 2 ^ block := by
  rcases Nat.lt_or_ge rank blockSize with small | large
  · right
    rw [unitsOfRank_of_le (by omega)]
    calc rank < blockSize := small
      _ = blockSize * 1 := by omega
      _ ≤ blockSize * 2 ^ block := Nat.mul_le_mul_left _ (Nat.two_pow_pos block)
  · obtain ⟨own, digits, rfl, least, most⟩ := exists_block large
    rw [unitsOfRank_block own digits least (by omega)]
    rcases Nat.lt_or_ge own block with before | behind
    · right
      have power : 2 ^ (own + 1) ≤ 2 ^ block := Nat.pow_le_pow_right (by omega) before
      calc digits * 2 ^ own < 2 * blockSize * 2 ^ own :=
            Nat.mul_lt_mul_of_pos_right most (Nat.two_pow_pos own)
        _ = blockSize * 2 ^ (own + 1) := by
            rw [Nat.pow_succ, Nat.mul_comm (2 ^ own), ← Nat.mul_assoc, Nat.mul_comm 2]
        _ ≤ blockSize * 2 ^ block := Nat.mul_le_mul_left _ power
    · left
      refine ⟨digits * 2 ^ (own - block), ?_⟩
      rw [Nat.mul_assoc, ← Nat.pow_add]
      congr 2
      omega

/-! ## Rounding quotients -/

def gap (numerator denominator multiple : Nat) : Nat :=
  ((multiple * denominator : Nat) - numerator : Int).natAbs

theorem roundedQuotient_cases (numerator denominator : Nat) :
    let quotient := numerator / denominator
    let twice := 2 * (numerator % denominator)
    (roundedQuotient numerator denominator = quotient ∧ twice ≤ denominator ∧
        (twice = denominator → quotient % 2 = 0)) ∨
      (roundedQuotient numerator denominator = quotient + 1 ∧ denominator ≤ twice ∧
        (twice = denominator → quotient % 2 = 1)) := by
  simp only [roundedQuotient]
  split
  · omega
  · split
    · omega
    · omega

/-- The rounded quotient is nearest among all multiples, and even where two are equally near. -/
theorem gap_roundedQuotient (numerator : Nat) {denominator : Nat} (positive : 0 < denominator)
    (multiple : Nat) :
    let rounded := roundedQuotient numerator denominator
    gap numerator denominator rounded ≤ gap numerator denominator multiple ∧
      (gap numerator denominator rounded = gap numerator denominator multiple →
        multiple = rounded ∨ rounded % 2 = 0) := by
  intro rounded
  have parts := Nat.div_add_mod numerator denominator
  have less := Nat.mod_lt numerator positive
  have which := roundedQuotient_cases numerator denominator
  change (rounded = _ ∧ _) ∨ (rounded = _ ∧ _) at which
  generalize rounded = rounded at *
  generalize numerator / denominator = quotient at *
  generalize numerator % denominator = rest at *
  rw [Nat.mul_comm] at parts
  have next := Nat.add_mul quotient 1 denominator
  -- Multiples up to the quotient are at most at it, all others at least at the next one.
  have sides : multiple = quotient ∨ multiple = quotient + 1 ∨
      multiple * denominator + denominator ≤ quotient * denominator ∨
      quotient * denominator + 2 * denominator ≤ multiple * denominator := by
    rcases Nat.lt_or_ge quotient multiple with above | below
    · rcases Nat.lt_or_ge (quotient + 1) multiple with far | near
      · have := Nat.mul_le_mul_right denominator (Nat.succ_le_of_lt far)
        rw [Nat.succ_mul] at this
        omega
      · omega
    · rcases Nat.lt_or_ge multiple quotient with far | same
      · have := Nat.mul_le_mul_right denominator (Nat.succ_le_of_lt far)
        rw [Nat.succ_mul] at this
        omega
      · omega
  unfold gap
  rcases which with ⟨rfl, half, tie⟩ | ⟨rfl, half, tie⟩ <;>
    rcases sides with rfl | rfl | below | above <;> omega

/-! ## Rounding units -/

/-- A rank at which the units are nearest to a quotient, and even if another one is as near. -/
structure Nearest (numerator denominator rank : Nat) : Prop where
  near : ∀ other, gap numerator denominator (unitsOfRank rank) ≤
    gap numerator denominator (unitsOfRank other)
  even : ∀ other, gap numerator denominator (unitsOfRank rank) =
    gap numerator denominator (unitsOfRank other) → other = rank ∨ rank % 2 = 0

theorem shortened_bounds (numerator denominator : Nat) :
    let excess := Nat.log2 (numerator / denominator) - 52
    numerator / (denominator * 2 ^ excess) < 2 * blockSize ∧
      (0 < excess → blockSize ≤ numerator / (denominator * 2 ^ excess)) := by
  intro excess
  rw [← Nat.div_div_eq_div_mul]
  change numerator / denominator / 2 ^ (Nat.log2 (numerator / denominator) - 52) < _ ∧
    (0 < Nat.log2 (numerator / denominator) - 52 →
      _ ≤ numerator / denominator / 2 ^ (Nat.log2 (numerator / denominator) - 52))
  generalize numerator / denominator = quotient
  have below : quotient < 2 ^ (quotient.log2 + 1) := Nat.lt_log2_self
  have limit : 2 * blockSize = 2 ^ 53 := by decide
  have start : blockSize = 2 ^ 52 := by decide
  rcases Nat.lt_or_ge 52 quotient.log2 with long | short
  · have split : quotient.log2 = (quotient.log2 - 52) + 52 := by omega
    have nonzero : quotient ≠ 0 := by
      rintro rfl
      simp at long
    have above : 2 ^ quotient.log2 ≤ quotient := Nat.log2_self_le nonzero
    constructor
    · apply Nat.div_lt_of_lt_mul
      rw [limit, ← Nat.pow_add]
      rwa [show quotient.log2 - 52 + 53 = quotient.log2 + 1 by omega]
    · intro _
      rw [start, Nat.le_div_iff_mul_le (Nat.two_pow_pos _), ← Nat.pow_add]
      rwa [show 52 + (quotient.log2 - 52) = quotient.log2 by omega]
  · have none : quotient.log2 - 52 = 0 := by omega
    rw [none, limit]
    refine ⟨?_, fun some => absurd some (by omega)⟩
    have : 2 ^ (quotient.log2 + 1) ≤ 2 ^ 53 := Nat.pow_le_pow_right (by omega) (by omega)
    omega

theorem gap_shift (numerator denominator multiple excess : Nat) :
    gap numerator denominator (multiple * 2 ^ excess) =
      gap numerator (denominator * 2 ^ excess) multiple := by
  rw [gap, gap, Nat.mul_assoc, Nat.mul_comm (2 ^ excess)]

theorem nearest_rankOfUnits {numerator denominator : Nat} (positive : 0 < denominator) :
    Nearest numerator denominator (rankOfUnits numerator denominator) := by
  obtain ⟨most, least⟩ := shortened_bounds numerator denominator
  simp only [rankOfUnits, Nat.shiftLeft_eq]
  generalize Nat.log2 (numerator / denominator) - 52 = excess at *
  have wide : 0 < denominator * 2 ^ excess := Nat.mul_pos positive (Nat.two_pow_pos excess)
  have nearest := gap_roundedQuotient numerator wide
  have which := roundedQuotient_cases numerator (denominator * 2 ^ excess)
  generalize roundedQuotient numerator (denominator * 2 ^ excess) = rounded at *
  have units : unitsOfRank (excess * blockSize + rounded) = rounded * 2 ^ excess := by
    rcases Nat.eq_zero_or_pos excess with rfl | some
    · rw [unitsOfRank_of_le (by omega)]
      omega
    · exact unitsOfRank_block excess rounded (by have := least some; omega) (by omega)
  have parity : (excess * blockSize + rounded) % 2 = rounded % 2 := by
    unfold blockSize
    omega
  -- A rank in front of the block of the rounded one is farther off than the start of that block.
  have cases (other : Nat) : (∃ multiple, unitsOfRank other = multiple * 2 ^ excess) ∨
      gap numerator denominator (unitsOfRank (excess * blockSize + rounded)) <
        gap numerator denominator (unitsOfRank other) := by
    rcases Nat.eq_zero_or_pos excess with rfl | some
    · exact .inl ⟨unitsOfRank other, by simp⟩
    rcases unitsOfRank_cases other excess with multiple | before
    · exact .inl multiple
    · right
      have start := (nearest blockSize).1
      rw [units, gap_shift]
      have reached := Nat.le_trans (Nat.mul_le_mul_right _ (least some))
        (Nat.div_mul_le_self numerator (denominator * 2 ^ excess))
      have less := Nat.mul_lt_mul_of_pos_right before positive
      rw [Nat.mul_assoc, Nat.mul_comm (2 ^ excess)] at less
      unfold gap at *
      omega
  constructor
  · intro other
    rcases cases other with ⟨multiple, other⟩ | farther
    · rw [units, other, gap_shift, gap_shift]
      exact (nearest multiple).1
    · exact Nat.le_of_lt farther
  · intro other same
    rcases cases other with ⟨multiple, units'⟩ | farther
    · rw [units, units', gap_shift, gap_shift] at same
      rcases (nearest multiple).2 same with rfl | even
      · exact .inl (unitsOfRank_inj (units'.trans units.symm))
      · exact .inr (parity.trans even)
    · omega

/-! ## Decimals -/

/-- A number is the nearest to a quotient of units; past the last rank it is infinite. -/
def RoundsTo (negative : Bool) (numerator denominator : Nat) (number : Number) : Prop :=
  ∃ rank, Nearest numerator denominator rank ∧
    number = if fits : rank < rankCount then .finite negative ⟨rank, fits⟩ else .infinite negative

theorem roundsTo_ofUnits (negative : Bool) {numerator denominator : Nat}
    (positive : 0 < denominator) :
    RoundsTo negative numerator denominator (ofUnits negative numerator denominator) :=
  ⟨_, nearest_rankOfUnits positive, rfl⟩

theorem toNumber_ofParts (negative : Bool) (whole fraction : List Char) :
    (Decimal.ofParts whole fraction).toNumber negative =
      ofUnits negative (Nat.ofDigitChars 10 (whole ++ fraction) 0 * oneUnits)
        (10 ^ fraction.length) := by
  have places : (Decimal.ofParts whole fraction).exponent = -(fraction.length : Int) := by
    simp only [Decimal.exponent, Decimal.ofParts, List.length_append]
    omega
  rw [Decimal.toNumber, places]
  simp only [Decimal.coefficient, Decimal.ofParts]
  cases fraction.length with
  | zero => simp
  | succ count => rfl

end BilingualScript.Number
