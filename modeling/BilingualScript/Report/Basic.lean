import BilingualScript.Evaluation.Fault
import BilingualScript.Reading.Basic
import BilingualScript.Report.Excerpt
import BilingualScript.Text.Lines
import BilingualScript.Token.Lexing

/-!
# Reports

A report tells the user about a mistake in a program: before it runs, or while it runs.
-/

namespace BilingualScript

inductive Severity where
  | error
  | runtimeError
  deriving DecidableEq, Repr, Inhabited

def Severity.title : Severity → String
  | .error => "error: "
  | .runtimeError => "runtime error: "

/-- A report points at a place in the text.  It has no excerpt where the line is blank, or where
it has been cut short. -/
structure Report where
  severity : Severity
  position : Position
  message : String
  excerpt : Option Excerpt
  deriving DecidableEq, Repr, Inhabited

structure Console where
  path : String
  style : Text.Style
  deriving DecidableEq, Repr, Inhabited

def Report.render (console : Console) (report : Report) : String :=
  let place := console.path ++ ":" ++ toString report.position.line ++ ":" ++
    toString report.position.column ++ ": "
  console.style.bold place ++ console.style.alarm report.severity.title ++ report.message ++
    "\n" ++ (report.excerpt.map fun excerpt => excerpt.render console.style ++ "\n").getD ""

/-! ## Diagnostics -/

/-- The lines of the text that reports refer to, and what kinds of mistakes have been
reported. -/
structure Diagnostics where
  lines : List (List Char)
  hadError : Bool
  hadRuntimeError : Bool
  deriving DecidableEq, Repr, Inhabited

namespace Diagnostics

def initial : Diagnostics := ⟨[], false, false⟩

def register (diagnostics : Diagnostics) (source : String) : Diagnostics :=
  { diagnostics with lines := Text.lines source.toList }

def reset (diagnostics : Diagnostics) : Diagnostics :=
  { diagnostics with hadError := false, hadRuntimeError := false }

def note (diagnostics : Diagnostics) (reports : List Report) : Diagnostics :=
  { diagnostics with
    hadError := diagnostics.hadError || reports.any (·.severity == .error)
    hadRuntimeError := diagnostics.hadRuntimeError || reports.any (·.severity == .runtimeError) }

/-! ## Making reports -/

def report (diagnostics : Diagnostics) (severity : Severity) (position : Position) (length : Int)
    (message : String) : Report :=
  ⟨severity, position, message, Excerpt.at? diagnostics.lines position length⟩

def lexicalReport (diagnostics : Diagnostics) (position : Position) (message : String) : Report :=
  diagnostics.report .error position 1 message

def mention (token : Token) : String :=
  if token.lexeme = "" then " (at end)"
  else if token.lexeme = "\n" then " (at end of line)"
  else " (at '" ++ token.lexeme ++ "')"

def tokenReport (diagnostics : Diagnostics) (token : Token) (message : String) : Report :=
  diagnostics.report .error token.position token.lexeme.length (message ++ mention token)

def runtimeReport (diagnostics : Diagnostics) (token : Token) (message : String) : Report :=
  diagnostics.report .runtimeError token.position token.lexeme.length message

def ofLexicalFault (diagnostics : Diagnostics) (fault : LexicalFault) : Report :=
  diagnostics.lexicalReport fault.position fault.cause.message

def syntaxReport (diagnostics : Diagnostics) (stop : Token) (cause : SyntaxCause)
    (fault : SyntaxFault) : Report :=
  diagnostics.tokenReport (fault.token stop) cause.message

/-- The reports of a fault.  One that is cut short has no excerpt, and is followed by one that
says why; where there is nothing to show, nothing is cut off. -/
def ofSyntaxFault (diagnostics : Diagnostics) (stop : Token) (fault : SyntaxFault) :
    List Report :=
  let report := diagnostics.syntaxReport stop fault.cause fault
  if fault.cause = .cutShort ∧ report.excerpt.isSome then
    [{ report with excerpt := none }, diagnostics.syntaxReport stop .tooDeep fault]
  else [report]

def ofFailure (diagnostics : Diagnostics) (failure : Failure) : Report :=
  diagnostics.runtimeReport failure.token failure.fault.message

end Diagnostics

end BilingualScript
