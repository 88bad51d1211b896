import BilingualScript.Proofs.Number.Guards
import Mathlib.Tactic.Ring

/-!
# Texts of numbers

The shortest decimal of a magnitude denotes it, and its text reads as that decimal.  So the text of
a number, and what a program prints of one without a sign, reads back as the number.
-/

namespace BilingualScript

namespace Number

/-! ## Quotients of one value -/

theorem roundedQuotient_scale (numerator denominator : Nat) {factor : Nat} (positive : 0 < factor) :
    roundedQuotient (numerator * factor) (denominator * factor) =
      roundedQuotient numerator denominator := by
  have quotient := Nat.mul_div_mul_right numerator denominator positive
  have rest := Nat.mul_mod_mul_right factor numerator denominator
  simp only [roundedQuotient, quotient, rest, ← Nat.mul_assoc, Nat.mul_lt_mul_right positive]

theorem rankOfUnits_scale (numerator denominator : Nat) {factor : Nat} (positive : 0 < factor) :
    rankOfUnits (numerator * factor) (denominator * factor) =
      rankOfUnits numerator denominator := by
  have quotient := Nat.mul_div_mul_right numerator denominator positive
  have shifted (excess : Nat) :
      (denominator * factor) <<< excess = (denominator <<< excess) * factor := by
    simp only [Nat.shiftLeft_eq]
    ring
  simp only [rankOfUnits, quotient, shifted, roundedQuotient_scale _ _ positive]

theorem ofUnits_scale (negative : Bool) (numerator denominator : Nat) {factor : Nat}
    (positive : 0 < factor) :
    ofUnits negative (numerator * factor) (denominator * factor) =
      ofUnits negative numerator denominator := by
  simp only [ofUnits, rankOfUnits_scale _ _ positive]

theorem rankOfUnits_unitsOfRank (rank : Nat) : rankOfUnits (unitsOfRank rank) 1 = rank := by
  have near := (@nearest_rankOfUnits (unitsOfRank rank) 1 Nat.one_pos).near rank
  have same : unitsOfRank (rankOfUnits (unitsOfRank rank) 1) = unitsOfRank rank := by
    generalize unitsOfRank (rankOfUnits (unitsOfRank rank) 1) = units at near ⊢
    simp only [gap] at near
    omega
  exact unitsOfRank_inj same

theorem ofUnits_unitsOfRank (negative : Bool) (rank : Fin rankCount) :
    ofUnits negative (unitsOfRank rank) 1 = .finite negative rank := by
  have same := rankOfUnits_unitsOfRank rank
  have fits : rankOfUnits (unitsOfRank rank) 1 < rankCount := by
    rw [same]
    exact rank.isLt
  rw [ofUnits_of_lt fits]
  simp only [same]

theorem rankOfUnits_of_ofUnits {negative : Bool} {numerator denominator : Nat}
    {rank : Fin rankCount}
    (rounds : ofUnits negative numerator denominator = .finite negative rank) :
    rankOfUnits numerator denominator = rank := by
  by_cases fits : rankOfUnits numerator denominator < rankCount
  · rw [ofUnits_of_lt fits] at rounds
    injection rounds with _ same
    exact congrArg Fin.val same
  · rw [ofUnits, dif_neg fits] at rounds
    cases rounds

theorem rankOfUnits_zero {denominator : Nat} (positive : 0 < denominator) :
    rankOfUnits 0 denominator = 0 := by
  simp [rankOfUnits, roundedQuotient, positive]

end Number

/-! ## Decimals of one value -/

namespace Decimal

open Number

theorem toNumber_eq (negative : Bool) {decimal : Decimal} {up down : Nat}
    (exponent : (up : Int) - down = decimal.exponent) :
    decimal.toNumber negative =
      ofUnits negative (decimal.coefficient * oneUnits * 10 ^ up) (10 ^ down) := by
  have positive (count : Nat) : 0 < 10 ^ count := Nat.pos_of_neZero _
  unfold toNumber
  generalize decimal.coefficient * oneUnits = units
  generalize decimal.exponent = own at exponent
  cases own with
  | ofNat own =>
      obtain rfl : up = own + down := by
        rw [Int.ofNat_eq_natCast] at exponent
        omega
      calc ofUnits negative (units * 10 ^ own) 1
          = ofUnits negative (units * 10 ^ own * 10 ^ down) (1 * 10 ^ down) :=
            (ofUnits_scale negative _ _ (positive down)).symm
        _ = ofUnits negative (units * 10 ^ (own + down)) (10 ^ down) := by
            rw [Nat.mul_assoc, ← Nat.pow_add, Nat.one_mul]
  | negSucc own =>
      obtain rfl : down = own + 1 + up := by omega
      calc ofUnits negative units (10 ^ (own + 1))
          = ofUnits negative (units * 10 ^ up) (10 ^ (own + 1) * 10 ^ up) :=
            (ofUnits_scale negative _ _ (positive up)).symm
        _ = ofUnits negative (units * 10 ^ up) (10 ^ (own + 1 + up)) := by rw [← Nat.pow_add]

theorem exists_exponent (decimal : Decimal) :
    ∃ up down : Nat, (up : Int) - down = decimal.exponent :=
  ⟨decimal.exponent.toNat, (-decimal.exponent).toNat, by omega⟩

theorem toNumber_append_zeros (negative : Bool) (digits : List Char) (point : Int) (count : Nat) :
    toNumber negative ⟨digits ++ List.replicate count '0', point⟩ =
      toNumber negative ⟨digits, point⟩ := by
  obtain ⟨up, down, longer⟩ := exists_exponent ⟨digits ++ List.replicate count '0', point⟩
  have shorter : ((up + count : Nat) : Int) - down = exponent ⟨digits, point⟩ := by
    simp only [exponent, List.length_append, List.length_replicate] at *
    omega
  rw [toNumber_eq negative longer, toNumber_eq negative shorter]
  have units : coefficient ⟨digits ++ List.replicate count '0', point⟩ * oneUnits * 10 ^ up =
      coefficient ⟨digits, point⟩ * oneUnits * 10 ^ (up + count) := by
    simp only [coefficient, Nat.ofDigitChars_append, Nat.ofDigitChars_replicate_zero]
    ring
  rw [units]

theorem toNumber_zeros_append (negative : Bool) (digits : List Char) (point : Int) (count : Nat) :
    toNumber negative ⟨List.replicate count '0' ++ digits, point⟩ =
      toNumber negative ⟨digits, point - count⟩ := by
  have same : exponent ⟨List.replicate count '0' ++ digits, point⟩ =
      exponent ⟨digits, point - count⟩ := by
    simp only [exponent, List.length_append, List.length_replicate]
    omega
  simp only [toNumber, same, coefficient, Nat.ofDigitChars_append, Nat.ofDigitChars_replicate_zero,
    Nat.mul_zero]

theorem exists_digits_eq_trimmed (decimal : Decimal) :
    ∃ count, decimal.digits = decimal.trimmed.digits ++ List.replicate count '0' := by
  have zeros (char : Char) (mem : char ∈ decimal.digits.reverse.takeWhile (· == '0')) :
      char = '0' := by
    simpa using List.all_eq_true.1 (List.all_takeWhile (l := decimal.digits.reverse)) char mem
  refine ⟨(decimal.digits.reverse.takeWhile (· == '0')).length, ?_⟩
  rw [← List.reverse_replicate, ← List.eq_replicate_of_mem zeros, trimmed,
    ← List.reverse_append, List.takeWhile_append_dropWhile, List.reverse_reverse]

theorem toNumber_trimmed (negative : Bool) (decimal : Decimal) :
    decimal.trimmed.toNumber negative = decimal.toNumber negative := by
  obtain ⟨count, digits⟩ := decimal.exists_digits_eq_trimmed
  calc decimal.trimmed.toNumber negative
      = toNumber negative ⟨decimal.trimmed.digits ++ List.replicate count '0',
          decimal.trimmed.point⟩ := (toNumber_append_zeros ..).symm
    _ = decimal.toNumber negative := by rw [← digits]; rfl

/-! ## The shortest decimal -/

theorem shifted_mul_pow {up unit shift places : Nat} (value : Nat)
    (same : up + unit = shift + places) :
    value * 2 ^ up * 5 ^ places * 2 ^ unit = value * 2 ^ shift * 10 ^ places := by
  calc value * 2 ^ up * 5 ^ places * 2 ^ unit
      = value * 2 ^ (up + unit) * 5 ^ places := by ring
    _ = value * 2 ^ shift * (2 ^ places * 5 ^ places) := by
        rw [same]
        ring
    _ = value * 2 ^ shift * 10 ^ places := by rw [← Nat.mul_pow]

theorem toNumber_exact (rank : Fin rankCount) :
    (exact rank).toNumber false = .finite false rank := by
  have exponent : ((0 : Nat) : Int) - (unitExponent - shift rank : Nat) =
      (exact rank).exponent := by
    simp only [Decimal.exponent, exact]
    omega
  have coefficient : (exact rank).coefficient = significand rank <<< (shift rank - unitExponent) *
      5 ^ (unitExponent - shift rank) := Nat.ofDigitChars_ten_toDigits
  have units : (exact rank).coefficient * oneUnits * 10 ^ 0 =
      unitsOfRank rank * 10 ^ (unitExponent - shift rank) := by
    rw [coefficient, oneUnits, unitsOfRank]
    simp only [Nat.shiftLeft_eq, Nat.one_mul, Nat.pow_zero, Nat.mul_one]
    exact shifted_mul_pow _ (by omega)
  have scaled := ofUnits_scale false (unitsOfRank rank) 1
    (Nat.pos_of_neZero (10 ^ (unitExponent - shift rank)))
  rw [Nat.one_mul] at scaled
  rw [toNumber_eq false exponent, units, scaled, ofUnits_unitsOfRank]

theorem digits_of_mem_neighbours {decimal neighbour : Decimal} {count : Nat}
    (digits : ∀ char ∈ decimal.digits, char.isDigit = true)
    (mem : neighbour ∈ decimal.neighbours count) :
    ∀ char ∈ neighbour.digits, char.isDigit = true := by
  simp only [neighbours] at mem
  have kept : ∀ char ∈ decimal.digits.take count, char.isDigit = true :=
    fun char mem => digits char (List.mem_of_mem_take mem)
  have next (value : Nat) : ∀ char ∈ Nat.toDigits 10 value, char.isDigit = true :=
    fun char mem => Nat.isDigit_of_mem_toDigits (by decide) (by decide) mem
  split at mem <;> simp only [List.mem_cons, List.not_mem_nil, or_false] at mem <;>
    rcases mem with rfl | rfl
  · exact next _
  · exact kept
  · exact kept
  · exact next _

theorem shortest_spec (rank : Fin rankCount) :
    (shortest rank).toNumber false = .finite false rank ∧
      ∀ char ∈ (shortest rank).digits, char.isDigit = true := by
  have digits : ∀ char ∈ (exact rank).digits, char.isDigit = true :=
    fun char mem => Nat.isDigit_of_mem_toDigits (by decide) (by decide) mem
  have trimmed {decimal : Decimal} (denotes : decimal.toNumber false = .finite false rank)
      (digits : ∀ char ∈ decimal.digits, char.isDigit = true) :
      decimal.trimmed.toNumber false = .finite false rank ∧
        ∀ char ∈ decimal.trimmed.digits, char.isDigit = true := by
    refine ⟨by rw [toNumber_trimmed, denotes], fun char mem => digits char ?_⟩
    have back := (List.dropWhile_sublist _).subset (List.mem_reverse.1 mem)
    exact List.mem_reverse.1 back
  simp only [shortest]
  cases found : (List.range' 1 digitLimit).findSome? fun count =>
      ((exact rank).neighbours count).find? fun decimal =>
        decimal.toNumber false == .finite false rank with
  | none => exact trimmed (toNumber_exact rank) digits
  | some decimal =>
      -- a shorter decimal is taken only if it denotes the magnitude
      obtain ⟨count, _, found⟩ := List.exists_of_findSome?_eq_some found
      have readsBack := List.find?_some found
      exact trimmed (by simpa using readsBack)
        (digits_of_mem_neighbours digits (List.mem_of_find?_eq_some found))

theorem digits_shortest_ne_nil {rank : Fin rankCount} (nonzero : rank.val ≠ 0) :
    (shortest rank).digits ≠ [] := by
  intro none
  obtain ⟨up, down, exponent⟩ := exists_exponent (shortest rank)
  have denotes := (shortest_spec rank).1
  have zero : (shortest rank).coefficient * oneUnits * 10 ^ up = 0 := by simp [coefficient, none]
  rw [toNumber_eq false exponent, zero] at denotes
  exact nonzero ((rankOfUnits_of_ofUnits denotes).symm.trans
    (rankOfUnits_zero (Nat.pos_of_neZero (10 ^ down))))

end Decimal

/-! ## Reading texts -/

namespace Number

variable {whole fraction tail : List Char}

theorem digits_append (digits : ∀ char ∈ whole, char.isDigit = true)
    (stops : ∀ char ∈ tail.head?, char.isDigit = false) :
    (whole ++ tail).takeWhile Char.isDigit = whole ∧
      (whole ++ tail).dropWhile Char.isDigit = tail := by
  rw [List.takeWhile_append_of_pos digits, List.dropWhile_append_of_pos digits]
  cases tail with
  | nil => simp
  | cons char tail => simp [stops char rfl]

theorem readMagnitude?_whole (negative : Bool) (digits : ∀ char ∈ whole, char.isDigit = true)
    (nonempty : whole ≠ [])
    (stops : ∀ char ∈ tail.head?, char.isDigit = false ∧ char ≠ '.') :
    readMagnitude? negative (whole ++ tail) =
      (readExponent? tail).map fun exponent =>
        Decimal.toNumber negative ⟨whole, whole.length + exponent⟩ := by
  obtain ⟨front, behind⟩ := digits_append digits fun char mem => (stops char mem).1
  have noPoint (rest : List Char) : tail ≠ '.' :: rest := by
    rintro rfl
    exact (stops '.' rfl).2 rfl
  unfold readMagnitude?
  simp only [front, behind]
  rw [if_neg (by simpa using nonempty)]
  cases readExponent? tail <;> simp [Decimal.ofParts]

theorem readMagnitude?_point (negative : Bool) (digits : ∀ char ∈ whole, char.isDigit = true)
    (nonempty : whole ≠ []) (digits' : ∀ char ∈ fraction, char.isDigit = true)
    (stops : ∀ char ∈ tail.head?, char.isDigit = false) :
    readMagnitude? negative (whole ++ '.' :: (fraction ++ tail)) =
      (readExponent? tail).map fun exponent =>
        Decimal.toNumber negative ⟨whole ++ fraction, whole.length + exponent⟩ := by
  have point : ∀ char ∈ ('.' :: (fraction ++ tail)).head?, char.isDigit = false := by
    rintro _ ⟨⟩
    decide
  obtain ⟨front, behind⟩ := digits_append digits point
  obtain ⟨front', behind'⟩ := digits_append digits' stops
  unfold readMagnitude?
  simp only [front, behind, front', behind']
  cases readExponent? tail <;> simp [Decimal.ofParts, nonempty]

theorem readNatural?_toDigits (zeros value : Nat) :
    readNatural? (List.replicate zeros '0' ++ Nat.toDigits 10 value) = some value := by
  have digits : (List.replicate zeros '0' ++ Nat.toDigits 10 value).all Char.isDigit = true := by
    rw [List.all_eq_true]
    intro char mem
    rcases List.mem_append.1 mem with mem | mem
    · rw [List.eq_of_mem_replicate mem]
      decide
    · exact Nat.isDigit_of_mem_toDigits (by decide) (by decide) mem
  simp [readNatural?, digits, Nat.toDigits_ne_nil, Nat.ofDigitChars_append,
    Nat.ofDigitChars_replicate_zero]

theorem readExponent?_exponentText (exponent : Int) :
    readExponent? (Decimal.exponentText exponent) = some exponent := by
  unfold Decimal.exponentText
  split
  · simp only [readExponent?, readNatural?_toDigits]
    exact congrArg some (show -(exponent.natAbs : Int) = exponent by omega)
  · simp only [readExponent?, readNatural?_toDigits]
    exact congrArg some (show (exponent.natAbs : Int) = exponent by omega)

theorem readMagnitude?_scientific {decimal : Decimal} (negative : Bool)
    (digits : ∀ char ∈ decimal.digits, char.isDigit = true) (nonempty : decimal.digits ≠ []) :
    readMagnitude? negative decimal.scientific = some (decimal.toNumber negative) := by
  obtain ⟨all, point⟩ := decimal
  obtain ⟨first, rest, rfl⟩ := List.exists_cons_of_ne_nil nonempty
  obtain ⟨digit, digits⟩ := List.forall_mem_cons.1 digits
  have front : ∀ char ∈ [first], char.isDigit = true := List.forall_mem_singleton.2 digit
  have exponent : ((1 : Nat) : Int) + (point - 1) = point := by omega
  have stops : ∀ char ∈ (Decimal.exponentText (point - 1)).head?,
      char.isDigit = false ∧ char ≠ '.' := by
    rintro _ ⟨⟩
    decide
  cases rest with
  | nil =>
      have read := readMagnitude?_whole negative front (List.cons_ne_nil _ _) stops
      rw [readExponent?_exponentText, Option.map_some, List.length_singleton, exponent] at read
      exact read
  | cons next rest =>
      have read := readMagnitude?_point negative front (List.cons_ne_nil _ _) digits
        fun char mem => (stops char mem).1
      rw [readExponent?_exponentText, Option.map_some, List.length_singleton, exponent] at read
      simpa [Decimal.scientific] using read

theorem readMagnitude?_fraction (negative : Bool) (digits : ∀ char ∈ whole, char.isDigit = true)
    (nonempty : whole ≠ []) (digits' : ∀ char ∈ fraction, char.isDigit = true) :
    readMagnitude? negative (whole ++ '.' :: fraction) =
      some (Decimal.toNumber negative ⟨whole ++ fraction, whole.length⟩) := by
  have read := @readMagnitude?_point whole fraction [] negative digits nonempty digits' nofun
  simpa [readExponent?] using read

theorem exists_parts_positional {decimal : Decimal}
    (digits : ∀ char ∈ decimal.digits, char.isDigit = true) (nonempty : decimal.digits ≠ []) :
    ∃ whole fraction, decimal.positional = whole ++ '.' :: fraction ∧
      (whole ≠ [] ∧ ∀ char ∈ whole, char.isDigit = true) ∧
      (fraction ≠ [] ∧ ∀ char ∈ fraction, char.isDigit = true) ∧
      ∀ negative, Decimal.toNumber negative ⟨whole ++ fraction, whole.length⟩ =
        decimal.toNumber negative := by
  obtain ⟨all, point⟩ := decimal
  have zero : ∀ char ∈ ['0'], char.isDigit = true := List.forall_mem_singleton.2 (by decide)
  have zeros (count : Nat) : ∀ char ∈ List.replicate count '0', char.isDigit = true := by
    intro char mem
    rw [List.eq_of_mem_replicate mem]
    decide
  unfold Decimal.positional
  dsimp only at digits nonempty ⊢
  split
  · next count =>
    refine ⟨['0'], List.replicate (count + 1) '0' ++ all, rfl, ⟨List.cons_ne_nil _ _, zero⟩,
      ⟨by simp, List.forall_mem_append.2 ⟨zeros (count + 1), digits⟩⟩, fun negative => ?_⟩
    have same := Decimal.toNumber_zeros_append negative all 1 (count + 2)
    rwa [show (1 : Int) - (count + 2 : Nat) = Int.negSucc count by omega] at same
  · exact ⟨['0'], all, rfl, ⟨List.cons_ne_nil _ _, zero⟩, ⟨nonempty, digits⟩,
      fun negative => Decimal.toNumber_zeros_append negative all 1 1⟩
  · next count positive =>
    split
    · next short =>
      refine ⟨all ++ List.replicate (count - all.length) '0', ['0'], rfl, ⟨by simp [nonempty],
        List.forall_mem_append.2 ⟨digits, zeros (count - all.length)⟩⟩,
        ⟨List.cons_ne_nil _ _, zero⟩, fun negative => ?_⟩
      have same := Decimal.toNumber_append_zeros negative all count (count - all.length + 1)
      rw [List.replicate_succ', ← List.append_assoc] at same
      rwa [List.length_append, List.length_replicate, Nat.add_sub_cancel' short]
    · next long =>
      have some : count ≠ 0 := fun none => positive (by rw [none])
      refine ⟨all.take count, all.drop count, rfl, ⟨by simp [some, nonempty],
        fun char mem => digits char (List.mem_of_mem_take mem)⟩, ⟨by simpa using long,
        fun char mem => digits char (List.mem_of_mem_drop mem)⟩, fun negative => ?_⟩
      rw [List.take_append_drop, List.length_take_of_le (Nat.le_of_not_ge long)]
      rfl

theorem readMagnitude?_positional {decimal : Decimal} (negative : Bool)
    (digits : ∀ char ∈ decimal.digits, char.isDigit = true) (nonempty : decimal.digits ≠ []) :
    readMagnitude? negative decimal.positional = some (decimal.toNumber negative) := by
  obtain ⟨whole, fraction, text, ⟨nonempty, digits⟩, ⟨_, digits'⟩, denotes⟩ :=
    exists_parts_positional digits nonempty
  rw [text, readMagnitude?_fraction negative digits nonempty digits', denotes]

theorem readMagnitude?_text {decimal : Decimal} (negative : Bool)
    (digits : ∀ char ∈ decimal.digits, char.isDigit = true) (nonempty : decimal.digits ≠ []) :
    readMagnitude? negative decimal.text = some (decimal.toNumber negative) := by
  unfold Decimal.text
  split
  · exact readMagnitude?_positional negative digits nonempty
  · exact readMagnitude?_scientific negative digits nonempty

/-! ## What a program prints -/

theorem displayChars_cases (rank : Fin rankCount) :
    (∃ whole, unitsOfRank rank = whole * oneUnits ∧
        (finite false rank).displayChars = Nat.toDigits 10 whole) ∨
      rank.val ≠ 0 ∧ (finite false rank).displayChars = (Decimal.shortest rank).text := by
  have shown (nonzero : rank.val ≠ 0) :
      (finite false rank).chars = (Decimal.shortest rank).text := by
    simp [chars, signText, nonzero]
  unfold displayChars
  cases found : (finite false rank).whole? with
  | none =>
      have nonzero : rank.val ≠ 0 := by
        intro zero
        simp [whole?, zero, unitsOfRank, significand] at found
      exact .inr ⟨nonzero, shown nonzero⟩
  | some whole =>
      have units := units_of_whole found
      by_cases small : whole < wholeLimit
      · exact .inl ⟨whole, units, by simp [small, isNegative, signText]⟩
      · have nonzero : rank.val ≠ 0 := by
          intro zero
          rw [zero, unitsOfRank_of_le (Nat.zero_le _)] at units
          rcases Nat.mul_eq_zero.1 units.symm with rfl | none
          · exact small (by decide)
          · exact absurd none (Nat.ne_of_gt oneUnits_pos)
        exact .inr ⟨nonzero, by simp [small, shown nonzero]⟩

/-- What a program prints of a number without a sign reads back as that number. -/
theorem readMagnitude?_displayChars (rank : Fin rankCount) :
    readMagnitude? false (finite false rank).displayChars = some (.finite false rank) := by
  rcases displayChars_cases rank with ⟨whole, units, shown⟩ | ⟨nonzero, shown⟩
  · have digits : ∀ char ∈ Nat.toDigits 10 whole, char.isDigit = true :=
      fun char mem => Nat.isDigit_of_mem_toDigits (by decide) (by decide) mem
    have read := @readMagnitude?_whole _ [] false digits Nat.toDigits_ne_nil nofun
    have value := toNumber_ofParts false (Nat.toDigits 10 whole) []
    rw [Decimal.ofParts, List.append_nil, Nat.ofDigitChars_ten_toDigits, ← units] at value
    rw [List.append_nil, readExponent?, Option.map_some, Int.add_zero] at read
    rw [shown, read, ← ofUnits_unitsOfRank]
    exact congrArg some value
  · obtain ⟨denotes, digits⟩ := Decimal.shortest_spec rank
    rw [shown, readMagnitude?_text false digits (Decimal.digits_shortest_ne_nil nonzero), denotes]

theorem displayChars_inj {rank rank' : Fin rankCount}
    (same : (finite false rank).displayChars = (finite false rank').displayChars) :
    rank = rank' := by
  have read := readMagnitude?_displayChars rank
  rw [same, readMagnitude?_displayChars] at read
  injection read with same
  injection same with _ same
  exact same.symm

/-! ## Characters -/

def isTextChar (char : Char) : Bool := char.isDigit || ['.', 'e', '+', '-'].contains char

theorem all_isTextChar {digits : List Char} (isDigits : ∀ char ∈ digits, char.isDigit = true) :
    digits.all isTextChar = true := by
  rw [List.all_eq_true]
  intro char mem
  simp [isTextChar, isDigits char mem]

theorem all_toDigits (value : Nat) : (Nat.toDigits 10 value).all isTextChar = true :=
  all_isTextChar fun _ mem => Nat.isDigit_of_mem_toDigits (by decide) (by decide) mem

theorem all_text {decimal : Decimal} (isDigits : ∀ char ∈ decimal.digits, char.isDigit = true)
    (nonempty : decimal.digits ≠ []) : decimal.text.all isTextChar = true := by
  have taken (count : Nat) : (decimal.digits.take count).all isTextChar = true :=
    all_isTextChar fun char mem => isDigits char (List.mem_of_mem_take mem)
  have dropped (count : Nat) : (decimal.digits.drop count).all isTextChar = true :=
    all_isTextChar fun char mem => isDigits char (List.mem_of_mem_drop mem)
  have zeros (count : Nat) : (List.replicate count '0').all isTextChar = true :=
    all_isTextChar fun char mem => by
      rw [List.eq_of_mem_replicate mem]
      decide
  have point : isTextChar '.' = true := by decide
  have letter : isTextChar 'e' = true := by decide
  have minus : isTextChar '-' = true := by decide
  have plus : isTextChar '+' = true := by decide
  unfold Decimal.text
  split
  · obtain ⟨whole, fraction, text, ⟨_, digits⟩, ⟨_, digits'⟩, _⟩ :=
      exists_parts_positional isDigits nonempty
    simp only [text, List.all_append, List.all_cons, all_isTextChar digits, point,
      all_isTextChar digits', Bool.and_self]
  · have fraction : (if (decimal.digits.drop 1).isEmpty then [] else
        '.' :: decimal.digits.drop 1).all isTextChar = true := by
      split
      · rfl
      · simp only [List.all_cons, point, dropped, Bool.and_self]
    have exponent : (Decimal.exponentText (decimal.point - 1)).all isTextChar = true := by
      unfold Decimal.exponentText
      split <;> simp only [List.all_cons, List.all_append, letter, minus, plus, zeros,
        all_toDigits, Bool.and_self]
    simp only [Decimal.scientific, List.all_append, taken, fraction, exponent, Bool.and_self]

theorem head?_text {decimal : Decimal} (digits : ∀ char ∈ decimal.digits, char.isDigit = true)
    (nonempty : decimal.digits ≠ []) : ∃ char, decimal.text.head? = some char ∧
      char.isDigit = true := by
  unfold Decimal.text
  split
  · obtain ⟨whole, fraction, text, ⟨some, digits⟩, _⟩ := exists_parts_positional digits nonempty
    obtain ⟨first, rest, rfl⟩ := List.exists_cons_of_ne_nil some
    exact ⟨first, by rw [text]; rfl, digits first List.mem_cons_self⟩
  · obtain ⟨all, point⟩ := decimal
    obtain ⟨first, rest, rfl⟩ := List.exists_cons_of_ne_nil nonempty
    exact ⟨first, rfl, digits first List.mem_cons_self⟩

theorem all_text_shortest {rank : Fin rankCount} (nonzero : rank.val ≠ 0) :
    (Decimal.shortest rank).text.all isTextChar = true :=
  all_text (Decimal.shortest_spec rank).2 (Decimal.digits_shortest_ne_nil nonzero)

theorem all_displayChars (rank : Fin rankCount) :
    (finite false rank).displayChars.all isTextChar = true := by
  rcases displayChars_cases rank with ⟨whole, _, shown⟩ | ⟨nonzero, shown⟩
  · rw [shown]
    exact all_toDigits whole
  · rw [shown]
    exact all_text_shortest nonzero

theorem head?_displayChars (rank : Fin rankCount) :
    ∃ char, (finite false rank).displayChars.head? = some char ∧ char.isDigit = true := by
  rcases displayChars_cases rank with ⟨whole, _, shown⟩ | ⟨nonzero, shown⟩
  · rw [shown]
    obtain ⟨first, rest, same⟩ := List.exists_cons_of_ne_nil (@Nat.toDigits_ne_nil whole 10)
    refine ⟨first, by rw [same]; rfl, ?_⟩
    exact Nat.isDigit_of_mem_toDigits (by decide) (by decide) (same ▸ List.mem_cons_self)
  · rw [shown]
    exact head?_text (Decimal.shortest_spec rank).2 (Decimal.digits_shortest_ne_nil nonzero)

theorem newline_notMem_of_all {text : List Char} (all : text.all isTextChar = true) :
    '\n' ∉ text := by
  intro mem
  exact absurd (List.all_eq_true.1 all '\n' mem) (by decide)

theorem newline_notMem_signText (negative : Bool) : '\n' ∉ signText negative := by
  cases negative <;> decide

theorem newline_notMem_chars (number : Number) : '\n' ∉ number.chars := by
  cases number with
  | nan => decide
  | infinite negative => cases negative <;> decide
  | finite negative rank =>
      refine List.not_mem_append (newline_notMem_signText negative) ?_
      split
      · decide
      · next nonzero => exact newline_notMem_of_all (all_text_shortest nonzero)

theorem newline_notMem_displayChars (number : Number) : '\n' ∉ number.displayChars := by
  unfold displayChars
  split
  · split
    · exact List.not_mem_append (newline_notMem_signText _) (newline_notMem_of_all (all_toDigits _))
    · exact number.newline_notMem_chars
  · exact number.newline_notMem_chars

end Number

end BilingualScript
