import BilingualScript.Number.Decimal
import BilingualScript.Text.Layout.Basic

/-!
# Whole numbers in columns

A whole number is written in a base, with decimal places, with an exponent or as the character
of that code.  A separator may divide its digits into groups.
-/

namespace BilingualScript.Text.Layout

/-- A number in pieces: the mark of its base, the whole digits and what follows them. -/
structure Numeral where
  mark : List Char
  whole : List Char
  rest : List Char
  deriving DecidableEq, Repr, Inhabited

/-! ## Bases and characters -/

def inBase (layout : Layout) (base : Nat) (mark : Char) (count : Nat) : Numeral :=
  ⟨if layout.alternate then ['0', mark] else [], Nat.toDigits base count, []⟩

def character (layout : Layout) (count : Nat) : Except Fault Numeral :=
  if layout.sign.isSome then .error .signOfCharacter
  else if layout.alternate then .error .alternateCharacter
  else if 0x110000 ≤ count then .error .noCharacter
  else .ok ⟨[], [], [.ofNat count]⟩

def checkCount (layout : Layout) : Except Fault Unit :=
  if layout.limit.isSome then .error .limitedCount
  else if layout.positiveZero then .error .positiveZeroOfCount
  else .ok ()

/-! ## Decimal places -/

/-- Decimal places belong to numbers of floating point.  The one nearest to a whole number is
whole itself. -/
def nearest (count : Nat) : Nat :=
  Number.unitsOfRank (Number.rankOfUnits (count * Number.oneUnits) 1) / Number.oneUnits

def defaultPlaces : Nat := 6

def placesLimit : Nat := 2147483647

def places (layout : Layout) : Except Fault Nat :=
  let places := layout.limit.getD defaultPlaces
  if placesLimit < places then .error .limitTooLarge else .ok places

/-- Digits behind a point, which is only written in front of digits or on request. -/
def pointed (layout : Layout) (fraction : List Char) : List Char :=
  if fraction.isEmpty && !layout.alternate then [] else '.' :: fraction

def filled (length : Nat) (digits : List Char) : List Char :=
  digits.take length ++ List.replicate (length - digits.length) '0'

def withoutZeros (digits : List Char) : List Char :=
  (digits.reverse.dropWhile (· == '0')).reverse

def rounded (length count : Nat) : Decimal :=
  let digits := Nat.toDigits 10 count
  let decimal : Decimal := ⟨digits, digits.length⟩
  (decimal.neighbours length).headD decimal

def positional (layout : Layout) (places count : Nat) : Numeral :=
  ⟨[], Nat.toDigits 10 count, layout.pointed (List.replicate places '0')⟩

def scientific (layout : Layout) (places count : Nat) (trim : List Char → List Char) : Numeral :=
  let decimal := rounded (places + 1) count
  let fraction := trim (filled places (decimal.digits.drop 1))
  ⟨[], decimal.digits.take 1, layout.pointed fraction ++ Decimal.exponentText (decimal.point - 1)⟩

def general (layout : Layout) (length count : Nat) : Numeral :=
  let decimal := rounded length count
  let trim := if layout.alternate then id else withoutZeros
  let front := decimal.point.toNat
  if front ≤ length then
    let digits := filled length decimal.digits
    ⟨[], digits.take front, layout.pointed (trim (digits.drop front))⟩
  else layout.scientific (length - 1) count trim

/-! ## Groups -/

/-- Digits from the last one on in groups of a size, with zeros to a least length.  The first
number bounds the number of groups. -/
def grouped (size : Nat) (separator : Char) : Nat → Nat → List Char → List Char
  | 0, _, digits => digits
  | count + 1, least, digits =>
    let length := min size (max (max digits.length least) 1)
    let group := filled length digits
    let left := digits.drop length
    if left.isEmpty && least ≤ length then group
    else group ++ separator :: grouped size separator count (least - length - 1) left

def groupSize (layout : Layout) : Nat :=
  if ['b', 'o', 'x', 'X'].contains layout.kind then 4 else 3

def divided (layout : Layout) (least : Nat) (whole : List Char) : List Char :=
  match layout.separator with
  | none => List.replicate (least - whole.length) '0' ++ whole
  | some separator =>
    (grouped layout.groupSize separator (whole.length + least) least whole.reverse).reverse

/-! ## Fitting -/

def numeral (layout : Layout) (count : Nat) : Except Fault Numeral :=
  match layout.kind with
  | 'd' | 'n' => do layout.checkCount; pure (⟨[], Nat.toDigits 10 count, []⟩)
  | 'b' => do layout.checkCount; pure (layout.inBase 2 'b' count)
  | 'o' => do layout.checkCount; pure (layout.inBase 8 'o' count)
  | 'x' | 'X' => do layout.checkCount; pure (layout.inBase 16 'x' count)
  | 'c' => do layout.checkCount; layout.character count
  | 'e' | 'E' => do pure (layout.scientific (← layout.places) (nearest count) id)
  | 'f' | 'F' => do pure (layout.positional (← layout.places) (nearest count))
  | 'g' | 'G' => do pure (layout.general (max 1 (← layout.places)) (nearest count))
  | '%' => do
    let numeral := layout.positional (← layout.places) (nearest (100 * nearest count))
    pure { numeral with rest := numeral.rest ++ ['%'] }
  | kind => .error (.unknownKind kind)

def isCapital (layout : Layout) : Bool := ['X', 'E', 'G'].contains layout.kind

def fitNumeral (layout : Layout) (numeral : Numeral) : List Char :=
  let sign := (layout.sign.filter (· != '-')).toList
  let fixed := sign.length + numeral.mark.length + numeral.rest.length
  let padded := layout.alignment = .padding
  let least := if padded ∧ layout.filler = '0' then layout.width - fixed else 0
  let whole := if numeral.whole.isEmpty then [] else layout.divided least numeral.whole
  let missing := layout.width - (fixed + whole.length)
  let before := match layout.alignment with
    | .right => missing
    | .center => missing / 2
    | .left | .padding => 0
  let between := if padded then missing else 0
  let pad (length : Nat) := List.replicate length layout.filler
  let letters (chars : List Char) := if layout.isCapital then chars.map Char.toUpper else chars
  pad before ++ sign ++ letters numeral.mark ++ pad between ++ letters whole ++
    letters numeral.rest ++ pad (missing - before - between)

def applyToCount (layout : List Char) (count : Nat) : Except Fault (List Char) := do
  let layout ← read ofNumbers layout
  pure (layout.fitNumeral (← layout.numeral count))

end BilingualScript.Text.Layout
