import BilingualScript.Number.Basic

/-!
# Decimal texts of numbers

A finite magnitude has an exact decimal expansion.  What is written is the shortest decimal
that reads back as the same magnitude, of two equally short ones the nearer; reading rounds
once, so any decimal text denotes the number nearest to it.
-/

namespace BilingualScript

/-- The magnitude `0.digits * 10 ^ point`: `point` says after how many digits the point
stands. -/
structure Decimal where
  digits : List Char
  point : Int
  deriving DecidableEq, Repr

namespace Decimal

/-! ## Reading -/

def coefficient (decimal : Decimal) : Nat := Nat.ofDigitChars 10 decimal.digits 0

def exponent (decimal : Decimal) : Int := decimal.point - decimal.digits.length

def toNumber (negative : Bool) (decimal : Decimal) : Number :=
  let units := decimal.coefficient * Number.oneUnits
  match decimal.exponent with
  | .ofNat exponent => .ofUnits negative (units * Nat.pow 10 exponent) 1
  | .negSucc exponent => .ofUnits negative units (Nat.pow 10 (exponent + 1))

def ofParts (whole fraction : List Char) : Decimal := ⟨whole ++ fraction, whole.length⟩

/-! ## The shortest decimal -/

/-- The whole expansion of the magnitude at a rank.  Where the unit of its last binary digit
is a fraction, that fraction needs as many decimal places as binary ones. -/
def exact (rank : Nat) : Decimal :=
  let shift := Number.shift rank
  let places := Number.unitExponent - shift
  let digits :=
    Nat.toDigits 10 (Number.significand rank <<< (shift - Number.unitExponent) * Nat.pow 5 places)
  ⟨digits, digits.length - places⟩

/-- Whether a decimal that loses these digits is nearer to the next one; a tie goes to the
even one. -/
def roundsUp (odd : Bool) : List Char → Bool
  | [] => false
  | digit :: rest => if digit = '5' then odd || rest.any (· != '0') else '5' < digit

/-- The two decimals of at most `count` digits around a decimal, the nearer one first; of
two equally near ones, the one that ends in an even digit. -/
def neighbours (decimal : Decimal) (count : Nat) : List Decimal :=
  let kept := decimal.digits.take count
  let lower : Decimal := ⟨kept, decimal.point⟩
  let next := Nat.toDigits 10 (lower.coefficient + 1)
  let upper : Decimal := ⟨next, decimal.point + (next.length - kept.length)⟩
  if roundsUp (lower.coefficient % 2 == 1) (decimal.digits.drop count) then [upper, lower]
  else [lower, upper]

/-- Seventeen digits tell all magnitudes apart. -/
def digitLimit : Nat := 17

def trimmed (decimal : Decimal) : Decimal :=
  { decimal with digits := (decimal.digits.reverse.dropWhile (· == '0')).reverse }

def shortest (rank : Fin rankCount) : Decimal :=
  let whole := exact rank
  let readsBack (decimal : Decimal) := decimal.toNumber false == .finite false rank
  let found := (List.range' 1 digitLimit).findSome? fun count =>
    (whole.neighbours count).find? readsBack
  (found.getD whole).trimmed

/-! ## Layout -/

def positional (decimal : Decimal) : List Char :=
  let length := decimal.digits.length
  match decimal.point with
  | .negSucc zeros => '0' :: '.' :: (List.replicate (zeros + 1) '0' ++ decimal.digits)
  | .ofNat 0 => '0' :: '.' :: decimal.digits
  | .ofNat point =>
    if length ≤ point then decimal.digits ++ List.replicate (point - length) '0' ++ ['.', '0']
    else decimal.digits.take point ++ '.' :: decimal.digits.drop point

def exponentText (exponent : Int) : List Char :=
  let digits := Nat.toDigits 10 exponent.natAbs
  let sign := if exponent < 0 then '-' else '+'
  'e' :: sign :: (List.replicate (2 - digits.length) '0' ++ digits)

def scientific (decimal : Decimal) : List Char :=
  let fraction := decimal.digits.drop 1
  decimal.digits.take 1 ++ (if fraction.isEmpty then [] else '.' :: fraction) ++
    exponentText (decimal.point - 1)

/-- Magnitudes from `0.0001` up to, but not including, `10 ^ 16` are written without an
exponent. -/
def text (decimal : Decimal) : List Char :=
  if -4 < decimal.point ∧ decimal.point ≤ 16 then decimal.positional else decimal.scientific

end Decimal

namespace Number

/-! ## Writing numbers -/

def signText (negative : Bool) : List Char := if negative then ['-'] else []

def chars : Number → List Char
  | .nan => "nan".toList
  | .infinite negative => signText negative ++ "inf".toList
  | .finite negative rank =>
    signText negative ++ (if rank.val = 0 then "0.0".toList else (Decimal.shortest rank).text)

def text (number : Number) : String := .ofList number.chars

def wholeLimit : Nat := Nat.pow 10 16

/-- The text that a program prints: a whole number below the limit has neither point nor
fraction. -/
def displayChars (number : Number) : List Char :=
  match number.whole? with
  | some whole =>
    if whole < wholeLimit then signText number.isNegative ++ Nat.toDigits 10 whole
    else number.chars
  | none => number.chars

def display (number : Number) : String := .ofList number.displayChars

/-! ## Reading numbers -/

def readNatural? (digits : List Char) : Option Nat :=
  if !digits.isEmpty && digits.all Char.isDigit then some (Nat.ofDigitChars 10 digits 0) else none

/-- The exponent that ends a number's text; nothing stands for none. -/
def readExponent? : List Char → Option Int
  | [] => some 0
  | 'e' :: '-' :: digits => (readNatural? digits).map fun exponent => -exponent
  | 'e' :: '+' :: digits => (readNatural? digits).map Int.ofNat
  | 'e' :: digits => (readNatural? digits).map Int.ofNat
  | _ => none

def readMagnitude? (negative : Bool) (chars : List Char) : Option Number := do
  let whole := chars.takeWhile Char.isDigit
  let rest := chars.dropWhile Char.isDigit
  let (fraction, rest) := match rest with
    | '.' :: rest => (rest.takeWhile Char.isDigit, rest.dropWhile Char.isDigit)
    | _ => ([], rest)
  if (whole ++ fraction).isEmpty then none
  let exponent ← readExponent? rest
  let decimal := Decimal.ofParts whole fraction
  some ({ decimal with point := decimal.point + exponent }.toNumber negative)

def readChars? (chars : List Char) : Option Number :=
  let (negative, chars) := match chars with
    | '-' :: chars => (true, chars)
    | _ => (false, chars)
  if chars = "inf".toList then some (.infinite negative)
  else if chars = "nan".toList then some .nan
  else readMagnitude? negative chars

def ofText? (text : String) : Option Number := readChars? text.toList

end Number

end BilingualScript
