import BilingualScript.Value

/-!
# Tokens

A token is a lexical unit with the position of its first character.  A token sequence is a
list of tokens and the one that marks the end.
-/

namespace BilingualScript

/-! ## Positions -/

/-- A line and a column, both counted from one in a text; a report may carry any integers. -/
structure Position where
  line : Int
  column : Int
  deriving DecidableEq, Repr, Inhabited

namespace Position

def start : Position := ⟨1, 1⟩

def next (position : Position) (char : Char) : Position :=
  if char = '\n' then ⟨position.line + 1, 1⟩ else ⟨position.line, position.column + 1⟩

def after (position : Position) (text : List Char) : Position := text.foldl next position

@[simp] theorem after_nil (position : Position) : position.after [] = position := rfl

@[simp] theorem after_append (position : Position) (first second : List Char) :
    position.after (first ++ second) = (position.after first).after second :=
  List.foldl_append

end Position

/-! ## Kinds -/

inductive Kind where
  | leftParen | rightParen | comma | dot | minus | plus | slash | star | percent | newline
  | bang | bangEqual | equal | equalEqual | greater | greaterEqual | less | lessEqual
  | identifier | string | number
  | ril | impossible | hampa | spill | literally | itu | kalo | perhaps | kalogak | udahan
  | fomo | endup | thats | it | sih | seriously | whichis | so | about | overthinking | call
  | eof
  deriving DecidableEq, Repr, Inhabited

namespace Kind

def name : Kind → String
  | .leftParen => "LEFT_PAREN"
  | .rightParen => "RIGHT_PAREN"
  | .comma => "COMMA"
  | .dot => "DOT"
  | .minus => "MINUS"
  | .plus => "PLUS"
  | .slash => "SLASH"
  | .star => "STAR"
  | .percent => "PERCENT"
  | .newline => "NEWLINE"
  | .bang => "BANG"
  | .bangEqual => "BANG_EQUAL"
  | .equal => "EQUAL"
  | .equalEqual => "EQUAL_EQUAL"
  | .greater => "GREATER"
  | .greaterEqual => "GREATER_EQUAL"
  | .less => "LESS"
  | .lessEqual => "LESS_EQUAL"
  | .identifier => "IDENTIFIER"
  | .string => "STRING"
  | .number => "NUMBER"
  | .ril => "TRUE"
  | .impossible => "FALSE"
  | .hampa => "NIL"
  | .spill => "SPILL"
  | .literally => "LITERALLY"
  | .itu => "ITU"
  | .kalo => "KALO"
  | .perhaps => "PERHAPS"
  | .kalogak => "KALOGAK"
  | .udahan => "UDAHAN"
  | .fomo => "FOMO"
  | .endup => "ENDUP"
  | .thats => "THATS"
  | .it => "IT"
  | .sih => "SIH"
  | .seriously => "SERIOUSLY"
  | .whichis => "WHICHIS"
  | .so => "SO"
  | .about => "ABOUT"
  | .overthinking => "OVERTHINKING"
  | .call => "CALL"
  | .eof => "EOF"

def all : List Kind :=
  [.leftParen, .rightParen, .comma, .dot, .minus, .plus, .slash, .star, .percent, .newline,
   .bang, .bangEqual, .equal, .equalEqual, .greater, .greaterEqual, .less, .lessEqual,
   .identifier, .string, .number,
   .ril, .impossible, .hampa, .spill, .literally, .itu, .kalo, .perhaps, .kalogak, .udahan,
   .fomo, .endup, .thats, .it, .sih, .seriously, .whichis, .so, .about, .overthinking, .call,
   .eof]

theorem mem_all (kind : Kind) : kind ∈ all := by cases kind <;> decide

def ofName? (name : String) : Option Kind := all.find? (·.name == name)

/-- The reserved words.  Those of the last line have no use in the grammar yet. -/
def keywords : List (String × Kind) :=
  [("ril", .ril), ("impossible", .impossible), ("hampa", .hampa), ("spill", .spill),
   ("literally", .literally), ("itu", .itu), ("kalo", .kalo), ("perhaps", .perhaps),
   ("kalogak", .kalogak), ("udahan", .udahan),
   ("fomo", .fomo), ("endup", .endup), ("thats", .thats), ("it", .it), ("sih", .sih),
   ("seriously", .seriously), ("whichis", .whichis), ("so", .so), ("about", .about),
   ("overthinking", .overthinking), ("call", .call)]

def ofWord (word : String) : Kind := (keywords.lookup word).getD .identifier

end Kind

/-! ## Tokens -/

/-- A token without a literal has the literal `hampa`. -/
structure Token where
  kind : Kind
  lexeme : String
  literal : Value
  position : Position
  deriving DecidableEq, Repr, Inhabited

namespace Token

def eof (position : Position) : Token := ⟨.eof, "", .hampa, position⟩

def literalText (token : Token) : String :=
  match token.literal with
  | .hampa => "None"
  | .truth true => "True"
  | .truth false => "False"
  | .number value => value.text
  | .text value => value

/-- The line of a dump.  Newlines of the lexeme are shown as `\n`, those of the literal are
kept. -/
def dump (token : Token) : String :=
  let shown := token.lexeme.toList.flatMap fun char => if char = '\n' then ['\\', 'n'] else [char]
  token.kind.name ++ " " ++ .ofList shown ++ " " ++ token.literalText

end Token

structure Tokens where
  items : List Token
  stop : Token
  deriving DecidableEq, Repr, Inhabited

namespace Tokens

def toList (tokens : Tokens) : List Token := tokens.items ++ [tokens.stop]

/-- Reads a list up to its first end mark; without one it is no token sequence. -/
def ofList? : List Token → Option Tokens
  | [] => none
  | token :: rest =>
    if token.kind = .eof then some ⟨[], token⟩
    else (ofList? rest).map fun tokens => { tokens with items := token :: tokens.items }

end Tokens

end BilingualScript
