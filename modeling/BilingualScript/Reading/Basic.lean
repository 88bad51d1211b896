import BilingualScript.Program.Basic

/-!
# Readings

A reader takes what it reads off the front of a token list.  Its reading holds what it
found, unless it failed, the tokens that it left, and the faults that it met; a reading with
faults may still have found something.
-/

namespace BilingualScript

/-! ## Faults -/

/-- What is wrong where reading comes to a fault.  An expression that is missing far down is
reported with little room left: then the report is cut short behind its first line. -/
inductive SyntaxCause where
  | expectExpression
  | cutShort
  | expectName
  | expectClosing
  | expectBlock
  | expectUdahan
  | expectEndOfDeclaration
  | expectEndOfSpill
  | expectEndOfExpression
  | expectEndOfKalo
  | invalidTarget
  | tooDeep
  deriving DecidableEq, Repr, Inhabited

def SyntaxCause.message : SyntaxCause → String
  | .expectExpression | .cutShort => "Expect expression."
  | .expectName => "Expect variable name."
  | .expectClosing => "Expect ')' after expression."
  | .expectBlock => "Expect newline before block."
  | .expectUdahan => "Expect 'udahan' after if statement."
  | .expectEndOfDeclaration => "Expect newline after variable declaration."
  | .expectEndOfSpill => "Expect newline after value."
  | .expectEndOfExpression => "Expect newline after expression."
  | .expectEndOfKalo => "Expect newline after 'udahan'."
  | .invalidTarget => "Invalid assignment target."
  | .tooDeep => "Expression nested too deeply."

/-- A cause and the tokens left where it was met; the first of them is the one at fault. -/
structure SyntaxFault where
  cause : SyntaxCause
  rest : List Token
  deriving DecidableEq, Repr, Inhabited

def SyntaxFault.token (fault : SyntaxFault) (stop : Token) : Token := fault.rest.headD stop

/-! ## Readers -/

structure Reading (α : Type) where
  found : Option α
  rest : List Token
  faults : List SyntaxFault

def Reader (α : Type) : Type := List Token → Reading α

namespace Reader

variable {α β : Type}

def run (reader : Reader α) (tokens : List Token) : Reading α := reader tokens

protected def pure (value : α) : Reader α := fun tokens => ⟨some value, tokens, []⟩

protected def bind (reader : Reader α) (next : α → Reader β) : Reader β := fun tokens =>
  let first := reader.run tokens
  match first.found with
  | none => ⟨none, first.rest, first.faults⟩
  | some value =>
    let second := (next value).run first.rest
    { second with faults := first.faults ++ second.faults }

instance : Monad Reader where
  pure := Reader.pure
  bind := Reader.bind

@[simp] theorem run_pure (value : α) (tokens : List Token) :
    (pure value : Reader α).run tokens = ⟨some value, tokens, []⟩ := rfl

theorem run_bind (reader : Reader α) (next : α → Reader β) (tokens : List Token) :
    (reader >>= next).run tokens =
      match (reader.run tokens).found with
      | none => ⟨none, (reader.run tokens).rest, (reader.run tokens).faults⟩
      | some value =>
        let second := (next value).run (reader.run tokens).rest
        { second with faults := (reader.run tokens).faults ++ second.faults } := rfl

def ahead : Reader (List Token) := fun tokens => ⟨some tokens, tokens, []⟩

def fail (cause : SyntaxCause) : Reader α := fun tokens => ⟨none, tokens, [⟨cause, tokens⟩]⟩

def report (fault : SyntaxFault) : Reader Unit := fun tokens => ⟨some (), tokens, [fault]⟩

/-- The next token, if it is of a wanted kind. -/
def accept? (wanted : Kind → Bool) : Reader (Option Token) := fun tokens =>
  match tokens with
  | [] => ⟨some none, [], []⟩
  | token :: rest =>
    if wanted token.kind then ⟨some (some token), rest, []⟩ else ⟨some none, tokens, []⟩

@[simp] theorem run_ahead (tokens : List Token) :
    ahead.run tokens = ⟨some tokens, tokens, []⟩ := rfl

@[simp] theorem run_fail (cause : SyntaxCause) (tokens : List Token) :
    (fail cause : Reader α).run tokens = ⟨none, tokens, [⟨cause, tokens⟩]⟩ := rfl

@[simp] theorem run_report (fault : SyntaxFault) (tokens : List Token) :
    (report fault).run tokens = ⟨some (), tokens, [fault]⟩ := rfl

@[simp] theorem run_accept?_nil (wanted : Kind → Bool) :
    (accept? wanted).run [] = ⟨some none, [], []⟩ := rfl

@[simp] theorem run_accept?_cons (wanted : Kind → Bool) (token : Token) (rest : List Token) :
    (accept? wanted).run (token :: rest) =
      if wanted token.kind then ⟨some (some token), rest, []⟩
      else ⟨some none, token :: rest, []⟩ := rfl

def expect (kind : Kind) (cause : SyntaxCause) : Reader Token := do
  match ← accept? (· == kind) with
  | some token => pure token
  | none => fail cause

/-- The end of a statement: a newline, which is taken, or the end of the text, which stays. -/
def expectEnd (cause : SyntaxCause) : Reader Unit := do
  if (← ahead).isEmpty then pure ()
  else
    let _ ← expect .newline cause
    pure ()

end Reader

end BilingualScript
