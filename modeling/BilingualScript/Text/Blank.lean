/-!
# Blank characters

The characters of which a blank line consists, and the trimming of lines.
-/

namespace BilingualScript.Text

/-- The ranges of blank characters: those with the property `White_Space`, and the four
separators of files, groups, records and units. -/
def blankRanges : List (Nat × Nat) :=
  [(0x09, 0x0D), (0x1C, 0x20), (0x85, 0x85), (0xA0, 0xA0), (0x1680, 0x1680), (0x2000, 0x200A),
   (0x2028, 0x2029), (0x202F, 0x202F), (0x205F, 0x205F), (0x3000, 0x3000)]

def liesIn (ranges : List (Nat × Nat)) (char : Char) : Bool :=
  ranges.any fun (first, last) => first ≤ char.toNat && char.toNat ≤ last

def isBlank (char : Char) : Bool := liesIn blankRanges char

def isBlankLine (line : List Char) : Bool := line.all isBlank

def dropTrailing (unwanted : Char → Bool) (chars : List Char) : List Char :=
  (chars.reverse.dropWhile unwanted).reverse

def trim (chars : List Char) : List Char := dropTrailing isBlank (chars.dropWhile isBlank)

end BilingualScript.Text
