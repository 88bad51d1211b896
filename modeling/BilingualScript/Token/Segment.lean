import BilingualScript.Token.Basic

/-!
# Segments

A text is cut into consecutive segments: the lexemes of tokens, blanks, comments, and what
cannot be read.  At each point the longest possible segment is taken, so a text can be cut
in one way only.
-/

namespace BilingualScript

inductive Role where
  | token (kind : Kind)
  | blank
  | comment
  | unexpected
  | unterminated
  deriving DecidableEq, Repr, Inhabited

structure Segment where
  role : Role
  text : List Char
  deriving DecidableEq, Repr, Inhabited

namespace Segment

/-! ## Character classes -/

/-- Characters that are a token of their own, whatever follows. -/
def single? : Char → Option Kind
  | '(' => some .leftParen
  | ')' => some .rightParen
  | ',' => some .comma
  | '.' => some .dot
  | '-' => some .minus
  | '+' => some .plus
  | '*' => some .star
  | '/' => some .slash
  | '%' => some .percent
  | '\n' => some .newline
  | _ => none

/-- Characters that are a token alone and another one together with an equals sign. -/
def extensible? : Char → Option (Kind × Kind)
  | '!' => some (.bang, .bangEqual)
  | '=' => some (.equal, .equalEqual)
  | '<' => some (.less, .lessEqual)
  | '>' => some (.greater, .greaterEqual)
  | _ => none

def isSpace (char : Char) : Bool := char == ' ' || char == '\r' || char == '\t'

def isQuote (char : Char) : Bool := char == '"' || char == '\''

def startsWord (char : Char) : Bool := char.isAlpha || char == '_'

def continuesWord (char : Char) : Bool := startsWord char || char.isDigit

/-! ## The segment that starts with a character -/

/-- The fraction at the start of a text: a point counts only with a digit behind it. -/
def fraction : List Char → List Char
  | '.' :: digit :: rest =>
    if digit.isDigit then '.' :: digit :: rest.takeWhile Char.isDigit else []
  | _ => []

def numeralTail (rest : List Char) : List Char :=
  rest.takeWhile Char.isDigit ++ fraction (rest.dropWhile Char.isDigit)

/-- A quoted text ends at the next quote of the same sort; without one, everything that
follows is lost. -/
def quoted (quote : Char) (rest : List Char) : Segment :=
  match rest.dropWhile (· != quote) with
  | [] => ⟨.unterminated, quote :: rest⟩
  | _ :: _ => ⟨.token .string, quote :: (rest.takeWhile (· != quote) ++ [quote])⟩

def first (char : Char) (rest : List Char) : Segment :=
  if let some kind := single? char then ⟨.token kind, [char]⟩
  else if let some (alone, extended) := extensible? char then
    if rest.head? = some '=' then ⟨.token extended, [char, '=']⟩ else ⟨.token alone, [char]⟩
  else if char = '#' then ⟨.comment, char :: rest.takeWhile (· != '\n')⟩
  else if isSpace char then ⟨.blank, [char]⟩
  else if isQuote char then quoted char rest
  else if char.isDigit then ⟨.token .number, char :: numeralTail rest⟩
  else if startsWord char then
    let word := char :: rest.takeWhile continuesWord
    ⟨.token (.ofWord (.ofList word)), word⟩
  else ⟨.unexpected, [char]⟩

/-! ## Cutting a text -/

/-- The segments of a text of which the first characters belong to a segment already cut. -/
def cutAfter : Nat → List Char → List Segment
  | _, [] => []
  | skipped + 1, _ :: rest => cutAfter skipped rest
  | 0, char :: rest =>
    let segment := first char rest
    segment :: cutAfter (segment.text.length - 1) rest

def cut (text : List Char) : List Segment := cutAfter 0 text

def place (position : Position) : List Segment → List (Position × Segment)
  | [] => []
  | segment :: rest => (position, segment) :: place (position.after segment.text) rest

end Segment

end BilingualScript
