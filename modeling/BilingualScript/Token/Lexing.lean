import BilingualScript.Token.Segment

/-!
# Lexing

The tokens of a text and the mistakes found between them.  A mistake never stops the
reading: each segment stands for itself.
-/

namespace BilingualScript

inductive LexicalCause where
  | unexpectedCharacter
  | unterminatedString
  deriving DecidableEq, Repr, Inhabited

def LexicalCause.message : LexicalCause → String
  | .unexpectedCharacter => "Unexpected character."
  | .unterminatedString => "Unterminated string."

structure LexicalFault where
  cause : LexicalCause
  position : Position
  deriving DecidableEq, Repr, Inhabited

structure Lexed where
  tokens : Tokens
  faults : List LexicalFault
  deriving DecidableEq, Repr, Inhabited

namespace Lexed

/-- The literal of a token: a text without its quotes, or the number nearest to the decimal. -/
def literal (kind : Kind) (text : List Char) : Value :=
  match kind with
  | .string => .text (.ofList (text.drop 1).dropLast)
  | .number =>
    let fraction := (text.dropWhile Char.isDigit).drop 1
    .number ((Decimal.ofParts (text.takeWhile Char.isDigit) fraction).toNumber false)
  | _ => .hampa

def token? : Position × Segment → Option Token
  | (position, ⟨.token kind, text⟩) => some ⟨kind, .ofList text, literal kind text, position⟩
  | _ => none

def fault? : Position × Segment → Option LexicalFault
  | (position, ⟨.unexpected, _⟩) => some ⟨.unexpectedCharacter, position⟩
  | (position, ⟨.unterminated, _⟩) => some ⟨.unterminatedString, position⟩
  | _ => none

def ofChars (text : List Char) : Lexed :=
  let placed := Segment.place .start (Segment.cut text)
  { tokens := ⟨placed.filterMap token?, .eof (Position.start.after text)⟩
    faults := placed.filterMap fault? }

def ofText (text : String) : Lexed := ofChars text.toList

end Lexed

end BilingualScript
