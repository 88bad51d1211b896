import BilingualScript.Text.Digit

/-!
# Layouts

A layout says how a text or a number is fitted into a column: a character that fills, an
alignment, a least width, a greatest length and more, as in `*>8.3`.  Texts and numbers share
one notation, so layouts can be read that the one or the other cannot have.
-/

namespace BilingualScript.Text

inductive Alignment where
  | left
  | right
  | center
  | padding
  deriving DecidableEq, Repr, Inhabited

structure Layout where
  filler : Char
  alignment : Alignment
  sign : Option Char
  positiveZero : Bool
  alternate : Bool
  width : Nat
  separator : Option Char
  limit : Option Nat
  kind : Char
  deriving DecidableEq, Repr, Inhabited

namespace Layout

inductive Fault where
  | tooManyDigits
  | missingLimit
  | twoSeparators
  | separatorUnfit (separator kind : Char)
  | unreadable (layout : String)
  | unknownKind (kind : Char)
  | signOfText (sign : Char)
  | positiveZeroOfText
  | alternateText
  | paddedText
  | limitedCount
  | positiveZeroOfCount
  | signOfCharacter
  | alternateCharacter
  | noCharacter
  | limitTooLarge
  deriving DecidableEq, Repr, Inhabited

def shown (bound : Nat) (char : Char) : String :=
  if 32 < char.toNat ∧ char.toNat < bound then char.toString
  else "\\x" ++ .ofList (Nat.toDigits 16 char.toNat)

def Fault.message (item : String) : Fault → String
  | .tooManyDigits => "Too many decimal digits in format string"
  | .missingLimit => "Format specifier missing precision"
  | .twoSeparators => "Cannot specify both ',' and '_'."
  | .separatorUnfit separator kind =>
    "Cannot specify '" ++ separator.toString ++ "' with '" ++ shown 128 kind ++ "'."
  | .unreadable layout =>
    "Invalid format specifier '" ++ layout ++ "' for object of type '" ++ item ++ "'"
  | .unknownKind kind =>
    "Unknown format code '" ++ shown 128 kind ++ "' for object of type '" ++ item ++ "'"
  | .signOfText sign =>
    (if sign = ' ' then "Space" else "Sign") ++ " not allowed in string format specifier"
  | .positiveZeroOfText =>
    "Negative zero coercion (z) not allowed in string format specifier"
  | .alternateText => "Alternate form (#) not allowed in string format specifier"
  | .paddedText => "'=' alignment not allowed in string format specifier"
  | .limitedCount => "Precision not allowed in integer format specifier"
  | .positiveZeroOfCount => "Negative zero coercion (z) not allowed in integer format specifier"
  | .signOfCharacter => "Sign not allowed with integer format specifier 'c'"
  | .alternateCharacter => "Alternate form (#) not allowed with integer format specifier 'c'"
  | .noCharacter => "%c arg not in range(0x110000)"
  | .limitTooLarge => "precision too big"

/-! ## Reading -/

def alignment? : Char → Option Alignment
  | '<' => some .left
  | '>' => some .right
  | '^' => some .center
  | '=' => some .padding
  | _ => none

def readAlignment : List Char → Option Char × Option Alignment × List Char
  | first :: second :: rest =>
    match alignment? second, alignment? first with
    | some alignment, _ => (some first, some alignment, rest)
    | none, some alignment => (none, some alignment, second :: rest)
    | none, none => (none, none, first :: second :: rest)
  | [first] =>
    match alignment? first with
    | some alignment => (none, some alignment, [])
    | none => (none, none, [first])
  | [] => (none, none, [])

def readIf (wanted : Char → Bool) : List Char → Option Char × List Char
  | [] => (none, [])
  | char :: rest => if wanted char then (some char, rest) else (none, char :: rest)

def isSign (char : Char) : Bool := char == '+' || char == '-' || char == ' '

def readCount (chars : List Char) : Except Fault (Option Nat × List Char) :=
  match readCount? chars with
  | some result => .ok result
  | none => .error .tooManyDigits

def readSeparator (chars : List Char) : Except Fault (Option Char × List Char) :=
  let (comma, rest) := readIf (· == ',') chars
  let (underscore, rest) := readIf (· == '_') rest
  if underscore.isSome ∧ (comma.isSome ∨ rest.head? = some ',') then .error .twoSeparators
  else .ok (comma.or underscore, rest)

def readLimit : List Char → Except Fault (Option Nat × List Char)
  | '.' :: chars =>
    match readCount chars with
    | .ok (none, _) => .error .missingLimit
    | result => result
  | chars => .ok (none, chars)

/-- The kinds of numbers whose digits a separator may divide. -/
def divisible (separator : Char) : List Char :=
  ['d', 'e', 'f', 'g', 'E', 'G', '%', 'F', '\x00'] ++
    if separator = '_' then ['b', 'o', 'x', 'X'] else []

def readKind (layout : String) (default : Char) (separator : Option Char) :
    List Char → Except Fault Char
  | _ :: _ :: _ => .error (.unreadable layout)
  | chars =>
    let kind := chars.headD default
    match separator with
    | none => .ok kind
    | some separator =>
      if (divisible separator).contains kind then .ok kind
      else .error (.separatorUnfit separator kind)

structure Defaults where
  kind : Char
  alignment : Alignment
  zeroAlignment : Alignment
  deriving DecidableEq, Repr, Inhabited

def ofTexts : Defaults := ⟨'s', .left, .left⟩

/-- Numbers stand on the right, and zeros stand between their signs and digits. -/
def ofNumbers : Defaults := ⟨'d', .right, .padding⟩

def read (defaults : Defaults) (chars : List Char) : Except Fault Layout := do
  let (filler, alignment, rest) := readAlignment chars
  let (sign, rest) := readIf isSign rest
  let (positiveZero, rest) := readIf (· == 'z') rest
  let (alternate, rest) := readIf (· == '#') rest
  let (zero, rest) := readIf (fun char => filler.isNone && char == '0') rest
  let (width, rest) ← readCount rest
  let (separator, rest) ← readSeparator rest
  let (limit, rest) ← readLimit rest
  let kind ← readKind (.ofList chars) defaults.kind separator rest
  let unaligned := if zero.isSome then defaults.zeroAlignment else defaults.alignment
  pure
    { filler := (filler.or zero).getD ' '
      alignment := alignment.getD unaligned
      sign, separator, limit, kind
      positiveZero := positiveZero.isSome
      alternate := alternate.isSome
      width := width.getD 0 }

end Layout

end BilingualScript.Text
