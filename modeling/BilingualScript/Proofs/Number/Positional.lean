import BilingualScript.Proofs.Number.Texts

/-!
# Numbers without an exponent

From the number nearest to a ten-thousandth up to the one where whole numbers stop being written as
such, the shortest decimal of a magnitude is written with digits around a point.
-/

namespace BilingualScript

/-! ## Digits -/

section Digits

variable {digits : List Char}

theorem le_ofDigitChars (digits : List Char) (start : Nat) :
    start * 10 ^ digits.length ≤ Nat.ofDigitChars 10 digits start := by
  induction digits generalizing start with
  | nil => simp
  | cons digit digits ih =>
      rw [Nat.ofDigitChars_cons, List.length_cons, Nat.pow_succ']
      calc start * (10 * 10 ^ digits.length)
          = 10 * start * 10 ^ digits.length := by ring
        _ ≤ (10 * start + (digit.toNat - '0'.toNat)) * 10 ^ digits.length :=
            Nat.mul_le_mul_right _ (Nat.le_add_right _ _)
        _ ≤ _ := ih _

theorem ofDigitChars_lt (isDigits : ∀ char ∈ digits, char.isDigit = true) (start : Nat) :
    Nat.ofDigitChars 10 digits start < (start + 1) * 10 ^ digits.length := by
  induction digits generalizing start with
  | nil => simp
  | cons digit digits ih =>
      obtain ⟨isDigit, isDigits⟩ := List.forall_mem_cons.1 isDigits
      have most : digit.toNat - '0'.toNat ≤ 9 := by
        simp only [Char.isDigit, Bool.and_eq_true, decide_eq_true_eq, UInt32.le_iff_toNat_le]
          at isDigit
        exact Nat.sub_le_sub_right isDigit.2 48
      rw [Nat.ofDigitChars_cons, List.length_cons, Nat.pow_succ']
      calc Nat.ofDigitChars 10 digits (10 * start + (digit.toNat - '0'.toNat))
          < (10 * start + (digit.toNat - '0'.toNat) + 1) * 10 ^ digits.length := ih isDigits _
        _ ≤ (10 * (start + 1)) * 10 ^ digits.length := Nat.mul_le_mul_right _ (by omega)
        _ = (start + 1) * (10 * 10 ^ digits.length) := by ring

theorem pow_le_ofDigitChars (isDigits : ∀ char ∈ digits, char.isDigit = true)
    (nonempty : digits ≠ []) (leading : digits.head? ≠ some '0') :
    10 ^ (digits.length - 1) ≤ Nat.ofDigitChars 10 digits 0 := by
  obtain ⟨digit, rest, rfl⟩ := List.exists_cons_of_ne_nil nonempty
  have isDigit := isDigits digit List.mem_cons_self
  have counts : 1 ≤ digit.toNat - '0'.toNat := by
    simp only [Char.isDigit, Bool.and_eq_true, decide_eq_true_eq, UInt32.le_iff_toNat_le]
      at isDigit
    have other : digit.toNat ≠ '0'.toNat := fun same =>
      leading (congrArg some (Char.toNat_inj.1 same))
    have least : '0'.toNat ≤ digit.toNat := isDigit.1
    omega
  rw [Nat.ofDigitChars_cons, List.length_cons, Nat.add_sub_cancel, Nat.mul_zero, Nat.zero_add]
  calc 10 ^ rest.length = 1 * 10 ^ rest.length := (Nat.one_mul _).symm
    _ ≤ (digit.toNat - '0'.toNat) * 10 ^ rest.length := Nat.mul_le_mul_right _ counts
    _ ≤ _ := le_ofDigitChars rest _

theorem head?_toDigits {value : Nat} (nonzero : value ≠ 0) :
    (Nat.toDigits 10 value).head? ≠ some '0' := by
  induction value using Nat.strongRecOn with
  | ind value ih =>
      rcases Nat.lt_or_ge value 10 with small | large
      · rw [Nat.toDigits_of_lt_base small]
        have digit : ∀ value < 10, value ≠ 0 → Nat.digitChar value ≠ '0' := by decide
        rw [List.head?_cons]
        exact fun same => digit value small nonzero (Option.some.inj same)
      · rw [Nat.toDigits_of_base_le (by decide) large, List.head?_append,
          Option.or_of_isSome (by simp)]
        exact ih (value / 10) (by omega) (by omega)

end Digits

namespace Decimal

open Number

/-! ## First digits -/

theorem head?_trimmed {decimal : Decimal} (leading : decimal.digits.head? ≠ some '0') :
    decimal.trimmed.digits.head? ≠ some '0' := by
  obtain ⟨count, digits⟩ := decimal.exists_digits_eq_trimmed
  rw [digits] at leading
  cases shape : decimal.trimmed.digits with
  | nil => simp
  | cons digit rest => simpa [shape] using leading

theorem head?_of_mem_neighbours {decimal neighbour : Decimal} {count : Nat}
    (leading : decimal.digits.head? ≠ some '0') (some : count ≠ 0)
    (mem : neighbour ∈ decimal.neighbours count) : neighbour.digits.head? ≠ .some '0' := by
  have kept : (decimal.digits.take count).head? ≠ .some '0' := by
    rwa [List.head?_take, if_neg some]
  simp only [neighbours] at mem
  split at mem <;> simp only [List.mem_cons, List.not_mem_nil, or_false] at mem <;>
    rcases mem with rfl | rfl
  · exact head?_toDigits (Nat.succ_ne_zero _)
  · exact kept
  · exact kept
  · exact head?_toDigits (Nat.succ_ne_zero _)

theorem head?_exact {rank : Nat} (nonzero : rank ≠ 0) : (exact rank).digits.head? ≠ some '0' := by
  have digits : significand rank ≠ 0 := by
    unfold significand
    split
    · exact nonzero
    · exact Nat.ne_of_gt (Nat.lt_of_lt_of_le (by decide) (Nat.le_add_right blockSize _))
  refine head?_toDigits (Nat.mul_ne_zero ?_ (Nat.pos_iff_ne_zero.1 (Nat.pow_pos (by decide))))
  rw [Nat.shiftLeft_eq]
  exact Nat.mul_ne_zero digits (Nat.pos_iff_ne_zero.1 (Nat.two_pow_pos _))

theorem head?_shortest {rank : Fin rankCount} (nonzero : rank.val ≠ 0) :
    (shortest rank).digits.head? ≠ some '0' := by
  have leading := head?_exact nonzero
  simp only [shortest]
  cases found : (List.range' 1 digitLimit).findSome? fun count =>
      ((exact rank).neighbours count).find? fun decimal =>
        decimal.toNumber false == .finite false rank with
  | none => exact head?_trimmed leading
  | some decimal =>
      obtain ⟨count, counted, found⟩ := List.exists_of_findSome?_eq_some found
      have some : count ≠ 0 := by
        have := (List.mem_range'_1.1 counted).1
        omega
      exact head?_trimmed (head?_of_mem_neighbours leading some (List.mem_of_find?_eq_some found))

end Decimal

/-! ## The range -/

namespace Number

theorem Nearest.le_of_units_le {numerator denominator rank bound : Nat}
    (nearest : Nearest numerator denominator rank) (positive : 0 < denominator)
    (reached : unitsOfRank bound * denominator ≤ numerator) : bound ≤ rank := by
  rcases Nat.lt_or_ge rank bound with below | above
  · have less := Nat.mul_lt_mul_of_pos_right (unitsOfRank_strictMono below) positive
    have near := nearest.near bound
    unfold gap at near
    omega
  · exact above

theorem Nearest.le_of_le_units {numerator denominator rank bound : Nat}
    (nearest : Nearest numerator denominator rank) (positive : 0 < denominator)
    (reached : numerator ≤ unitsOfRank bound * denominator) : rank ≤ bound := by
  rcases Nat.lt_or_ge bound rank with above | below
  · have less := Nat.mul_lt_mul_of_pos_right (unitsOfRank_strictMono above) positive
    have near := nearest.near bound
    unfold gap at near
    omega
  · exact below

def leastPositional : Number := ofUnits false oneUnits (10 ^ 4)

def leastRank : Nat := rankOfUnits oneUnits (10 ^ 4)

theorem leastRank_lt : leastRank < rankCount := by decide +kernel

theorem atMost_finite (first second : Fin rankCount) :
    (finite false first).atMost (finite false second) = true ↔ first.val ≤ second.val := by
  simp [atMost, compares, place?]

theorem atMost_leastPositional (rank : Fin rankCount) :
    leastPositional.atMost (finite false rank) = true ↔ leastRank ≤ rank.val := by
  rw [leastPositional, ofUnits_of_lt leastRank_lt, atMost_finite, leastRank]

end Number

namespace Decimal

open Number

theorem nearest_shortest (rank : Fin rankCount) {up down : Nat}
    (exponent : (up : Int) - down = (shortest rank).exponent) :
    Nearest ((shortest rank).coefficient * oneUnits * 10 ^ up) (10 ^ down) rank := by
  have denotes := (shortest_spec rank).1
  rw [toNumber_eq false exponent] at denotes
  rw [← rankOfUnits_of_ofUnits denotes]
  exact nearest_rankOfUnits (Nat.pow_pos (by decide))

theorem units_le_of_point {decimal : Decimal} {up down one bound : Nat}
    (digits : ∀ char ∈ decimal.digits, char.isDigit = true)
    (exponent : (up : Int) - down = decimal.exponent) (units : one ≤ bound * 10 ^ 4)
    (small : decimal.point ≤ -4) :
    decimal.coefficient * one * 10 ^ up ≤ bound * 10 ^ down := by
  have coefficient : decimal.coefficient ≤ 10 ^ decimal.digits.length := by
    exact (ofDigitChars_lt digits 0).le.trans_eq (by ring)
  have places : up + decimal.digits.length + 4 ≤ down := by
    simp only [Decimal.exponent] at exponent
    omega
  calc decimal.coefficient * one * 10 ^ up
      ≤ 10 ^ decimal.digits.length * (bound * 10 ^ 4) * 10 ^ up := by gcongr
    _ = bound * 10 ^ (up + decimal.digits.length + 4) := by ring
    _ ≤ bound * 10 ^ down := by gcongr; decide

theorem le_units_of_point (one : Nat) {decimal : Decimal} {up down : Nat}
    (digits : ∀ char ∈ decimal.digits, char.isDigit = true) (nonempty : decimal.digits ≠ [])
    (leading : decimal.digits.head? ≠ some '0')
    (exponent : (up : Int) - down = decimal.exponent) (large : 16 < decimal.point) :
    wholeLimit * one * 10 ^ down ≤ decimal.coefficient * one * 10 ^ up := by
  have coefficient : 10 ^ (decimal.digits.length - 1) ≤ decimal.coefficient :=
    pow_le_ofDigitChars digits nonempty leading
  have some := List.length_pos_iff.2 nonempty
  have places : 16 + down ≤ decimal.digits.length - 1 + up := by
    simp only [Decimal.exponent] at exponent
    omega
  calc wholeLimit * one * 10 ^ down
      = 10 ^ (16 + down) * one := by
        rw [wholeLimit, Nat.pow_eq]
        ring
    _ ≤ 10 ^ (decimal.digits.length - 1 + up) * one := by gcongr; decide
    _ = 10 ^ (decimal.digits.length - 1) * one * 10 ^ up := by ring
    _ ≤ decimal.coefficient * one * 10 ^ up := by gcongr

theorem le_point_shortest {rank : Fin rankCount} (least : leastRank ≤ rank.val) :
    -4 < (shortest rank).point := by
  obtain ⟨up, down, exponent⟩ := exists_exponent (shortest rank)
  rcases lt_or_ge (-4) (shortest rank).point with large | small
  · exact large
  · have units : oneUnits ≤ unitsOfRank leastRank * 10 ^ 4 := by decide +kernel
    have most := (nearest_shortest rank exponent).le_of_le_units (Nat.pow_pos (by decide))
      (units_le_of_point (shortest_spec rank).2 exponent units small)
    obtain rfl : rank = ⟨leastRank, leastRank_lt⟩ := Fin.ext (Nat.le_antisymm most least)
    decide +kernel

theorem point_shortest_le {rank : Fin rankCount} (nonzero : rank.val ≠ 0)
    (most : unitsOfRank rank < wholeLimit * oneUnits) : (shortest rank).point ≤ 16 := by
  obtain ⟨up, down, exponent⟩ := exists_exponent (shortest rank)
  rcases lt_or_ge 16 (shortest rank).point with large | small
  · have least := le_units_of_point oneUnits (shortest_spec rank).2
      (digits_shortest_ne_nil nonzero) (head?_shortest nonzero) exponent large
    rw [← unitsOfRank_wholeBound] at least most
    have reached := (nearest_shortest rank exponent).le_of_units_le (Nat.pow_pos (by decide)) least
    exact absurd (unitsOfRank_lt_iff.1 most) (Nat.not_lt_of_ge reached)
  · exact small

theorem text_shortest {rank : Fin rankCount} (nonzero : rank.val ≠ 0)
    (least : leastRank ≤ rank.val) (most : unitsOfRank rank < wholeLimit * oneUnits) :
    (shortest rank).text = (shortest rank).positional :=
  if_pos ⟨le_point_shortest least, point_shortest_le nonzero most⟩

end Decimal

end BilingualScript
