/-!
# Numbers

The numbers of the language: binary floating point with 53 significant bits, two zeros, two
infinities and one not-a-number.  Finite magnitudes are numbered from zero upwards in order
of size, so a magnitude is its *rank*; every one of them is a whole multiple of `2 ^ -1074`,
the smallest, and that multiple is its *units*.  Each operation works exactly on units and
rounds once, to the nearest magnitude and to the even rank on a tie.
-/

namespace BilingualScript

/-- Magnitudes come in blocks of `2 ^ 52`.  The first two have the same spacing, each further
one twice the spacing of the one before. -/
abbrev blockSize : Nat := 0x10000000000000

/-- How many finite magnitudes there are; as a rank, the place of infinity. -/
abbrev rankCount : Nat := 2047 * blockSize

inductive Number where
  | nan
  | infinite (negative : Bool)
  | finite (negative : Bool) (rank : Fin rankCount)
  deriving DecidableEq, Repr, Inhabited

namespace Number

/-- The binary exponent of the smallest magnitude, negated. -/
abbrev unitExponent : Nat := 1074

def oneUnits : Nat := 1 <<< unitExponent

def zero : Number := .finite false ⟨0, by decide⟩

/-! ## Magnitudes -/

/-- The binary digits of the magnitude at a rank, as a whole number.  The ranks of the first
two blocks are their own digits; from there on each block has the same digits as the one
before. -/
def significand (rank : Nat) : Nat :=
  if rank < 2 * blockSize then rank else blockSize + rank % blockSize

def shift (rank : Nat) : Nat := rank / blockSize - 1

def unitsOfRank (rank : Nat) : Nat := significand rank <<< shift rank

/-- The quotient rounded to the nearest natural number, a tie to the even one. -/
def roundedQuotient (numerator denominator : Nat) : Nat :=
  let quotient := numerator / denominator
  let twice := 2 * (numerator % denominator)
  if twice < denominator then quotient
  else if denominator < twice then quotient + 1
  else quotient + quotient % 2

/-- The rank nearest to a quotient of units.  A quotient of more than 53 bits is first
divided by the power of two that leaves 53; what the rounding carries over runs on into the
next block of ranks. -/
def rankOfUnits (numerator denominator : Nat) : Nat :=
  let excess := Nat.log2 (numerator / denominator) - 52
  excess * blockSize + roundedQuotient numerator (denominator <<< excess)

/-- The number nearest to a quotient of units; past the largest magnitude it is infinite. -/
def ofUnits (negative : Bool) (numerator : Nat) (denominator : Nat) : Number :=
  let rank := rankOfUnits numerator denominator
  if fits : rank < rankCount then .finite negative ⟨rank, fits⟩ else .infinite negative

/-! ## Order -/

/-- A number's place among the integers that orders as the numbers do: the rank with its
sign.  Both zeros have place zero, and a not-a-number has none. -/
def place? : Number → Option Int
  | .nan => none
  | .infinite negative => some (if negative then -rankCount else rankCount)
  | .finite negative rank => some (if negative then -rank.val else rank.val)

def compares (related : Int → Int → Bool) (left right : Number) : Bool :=
  match left.place?, right.place? with
  | some left, some right => related left right
  | _, _ => false

def equals : Number → Number → Bool := compares (· == ·)

def below : Number → Number → Bool := compares fun left right => left < right

def atMost : Number → Number → Bool := compares fun left right => left ≤ right

def isZero (number : Number) : Bool := number.place? == some 0

/-! ## Arithmetic -/

def negate : Number → Number
  | .nan => .nan
  | .infinite negative => .infinite !negative
  | .finite negative rank => .finite (!negative) rank

def signedUnits (negative : Bool) (rank : Nat) : Int :=
  if negative then -unitsOfRank rank else unitsOfRank rank

/-- A sum that vanishes is negative only if both summands are. -/
def add : Number → Number → Number
  | .nan, _ | _, .nan => .nan
  | .infinite left, .infinite right => if left = right then .infinite left else .nan
  | .infinite left, .finite _ _ => .infinite left
  | .finite _ _, .infinite right => .infinite right
  | .finite left leftRank, .finite right rightRank =>
    let sum := signedUnits left leftRank + signedUnits right rightRank
    ofUnits (if sum = 0 then left && right else sum < 0) sum.natAbs 1

def subtract (left right : Number) : Number := left.add right.negate

def multiply : Number → Number → Number
  | .nan, _ | _, .nan => .nan
  | .infinite left, .infinite right => .infinite (left ^^ right)
  | .infinite left, .finite right rank => if rank.val = 0 then .nan else .infinite (left ^^ right)
  | .finite left rank, .infinite right => if rank.val = 0 then .nan else .infinite (left ^^ right)
  | .finite left leftRank, .finite right rightRank =>
    ofUnits (left ^^ right) (unitsOfRank leftRank * unitsOfRank rightRank) oneUnits

/-- Division by zero is infinite, of zero by zero not a number; it is never an error. -/
def divide : Number → Number → Number
  | .nan, _ | _, .nan => .nan
  | .infinite _, .infinite _ => .nan
  | .infinite left, .finite right _ => .infinite (left ^^ right)
  | .finite left _, .infinite right => .finite (left ^^ right) ⟨0, by decide⟩
  | .finite left leftRank, .finite right rightRank =>
    if rightRank.val = 0 then
      if leftRank.val = 0 then .nan else .infinite (left ^^ right)
    else ofUnits (left ^^ right) (unitsOfRank leftRank * oneUnits) (unitsOfRank rightRank)

/-- The remainder of the division that is cut off towards zero: it has the sign of the
dividend, and no rounding takes place. -/
def remainder : Number → Number → Number
  | .nan, _ | _, .nan => .nan
  | .infinite _, _ => .nan
  | .finite left rank, .infinite _ => .finite left rank
  | .finite left leftRank, .finite _ rightRank =>
    if rightRank.val = 0 then .nan
    else ofUnits left (unitsOfRank leftRank % unitsOfRank rightRank) 1

/-! ## Whole numbers -/

def whole? : Number → Option Nat
  | .finite _ rank =>
    let units := unitsOfRank rank
    if units % oneUnits = 0 then some (units / oneUnits) else none
  | _ => none

def isNegative : Number → Bool
  | .nan => false
  | .infinite negative | .finite negative _ => negative

end Number

end BilingualScript
