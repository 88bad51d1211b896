import BilingualScript.Text.Blank
import BilingualScript.Text.Style
import BilingualScript.Token.Basic

/-!
# Excerpts

An excerpt shows the line of a text at which a report points, with the part in question
emphasised and a marker under it.
-/

namespace BilingualScript

/-- A line in three parts, of which the second is emphasised.  The marker stands under the
second part; where the report points past the end of the line, the marker stands alone. -/
structure Excerpt where
  before : List Char
  marked : List Char
  after : List Char
  column : Nat
  width : Nat
  deriving DecidableEq, Repr, Inhabited

namespace Excerpt

/-- The lines of a text by number, counted from one, without carriage returns at their ends. -/
def lineAt? (lines : List (List Char)) (line : Int) : Option (List Char) :=
  if 0 < line then (lines[line.toNat - 1]?).map (Text.dropTrailing (· == '\r')) else none

/-- The part of a line that starts at a column and has a length.  At least one character is
marked, and none behind the end of the line. -/
def ofLine (line : List Char) (column length : Int) : Excerpt :=
  let start := (column - 1).toNat
  let wanted := (max length 1).toNat
  let width := if start < line.length then min wanted (line.length - start) else 1
  { before := line.take start
    marked := (line.drop start).take width
    after := line.drop (start + width)
    column := start
    width }

/-- The excerpt at a position; a line that does not exist or is blank has none. -/
def at? (lines : List (List Char)) (position : Position) (length : Int) : Option Excerpt :=
  match lineAt? lines position.line with
  | none => none
  | some line =>
    if Text.isBlankLine line then none else some (ofLine line position.column length)

def line (excerpt : Excerpt) : List Char := excerpt.before ++ excerpt.marked ++ excerpt.after

def marker (excerpt : Excerpt) : List Char := '^' :: List.replicate (excerpt.width - 1) '~'

def render (style : Text.Style) (excerpt : Excerpt) : String :=
  let margin := "  "
  let space := List.replicate excerpt.column ' '
  margin ++ .ofList excerpt.before ++ style.alarm (.ofList excerpt.marked) ++
    .ofList excerpt.after ++ "\n" ++
    margin ++ .ofList space ++ style.alarm (.ofList excerpt.marker)

end Excerpt

end BilingualScript
