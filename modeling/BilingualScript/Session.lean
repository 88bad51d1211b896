import BilingualScript.Evaluation.Statement
import BilingualScript.Program.Dump
import BilingualScript.Reading.Statement
import BilingualScript.Report.Basic

/-!
# Sessions

A session reads and runs one text after another.  Variables and the notes on reported
mistakes last from one text to the next; a text runs only if no mistake in a text has been
noted.

How deep a text may nest depends on the host's stack, of which whoever uses a session has taken
a part already.  So each function is given the number of calls that its caller may still open.
-/

namespace BilingualScript

structure Session where
  diagnostics : Diagnostics
  scope : Scope
  deriving DecidableEq, Repr, Inhabited

structure Transcript where
  outputs : List String
  reports : List Report
  deriving DecidableEq, Repr, Inhabited

structure Read (α : Type) where
  value : α
  session : Session
  reports : List Report

namespace Session

def initial : Session := ⟨.initial, .global []⟩

def reset (session : Session) : Session :=
  { session with diagnostics := session.diagnostics.reset }

def tokens (session : Session) (source : String) : Read Tokens :=
  let diagnostics := session.diagnostics.register source
  let lexed := Lexed.ofText source
  let reports := lexed.faults.map diagnostics.ofLexicalFault
  ⟨lexed.tokens, { session with diagnostics := diagnostics.note reports }, reports⟩

/-- The calls that are open around the expression of a statement when a program is read: that of
the session, and those from the program to the statement. -/
def readingCalls : Nat := 8

def program (session : Session) (calls : Nat) (source : String) : Read Program :=
  let read := session.tokens source
  let diagnostics := read.session.diagnostics
  let parsed := Parsed.ofTokens (calls - readingCalls) read.value
  let reports := parsed.faults.flatMap (diagnostics.ofSyntaxFault read.value.stop)
  ⟨parsed.program, { read.session with diagnostics := diagnostics.note reports },
    read.reports ++ reports⟩

/-- The calls that are open around the expression of a statement when a program runs. -/
def runningCalls : Nat := 4

def interpret (session : Session) (calls : Nat) (program : Program) : Session × Transcript :=
  let run := program.exec (calls - runningCalls) session.scope
  let reports := run.failure.toList.map session.diagnostics.ofFailure
  (⟨session.diagnostics.note reports, run.scope⟩, ⟨run.outputs, reports⟩)

/-- Reads a text and runs it, with one call of its own open around both. -/
def run (session : Session) (calls : Nat) (source : String) : Session × Transcript :=
  let read := session.program (calls - 1) source
  if read.session.diagnostics.hadError then (read.session, ⟨[], read.reports⟩)
  else
    let (session, transcript) := read.session.interpret (calls - 1) read.value
    (session, { transcript with reports := read.reports ++ transcript.reports })

end Session

/-! ## Open blocks -/

/-- Whether a text leaves an if statement open: it has more words `kalo` than words
`udahan`. -/
def needsContinuation (text : String) : Bool :=
  let kinds := (Lexed.ofText text).tokens.items.map Token.kind
  kinds.count .udahan < kinds.count .kalo

end BilingualScript
