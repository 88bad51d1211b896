import BilingualScript.Reading.Expression

/-!
# Reading programs

A statement that cannot be read is given up at its first fault; reading goes on at the next
newline or at the next word that may start a statement, and a gap stays in the program.  In
a block no gap stays.
-/

namespace BilingualScript

namespace Reader

/-! ## Recovery -/

/-- Words at which reading goes on after a fault.  Some start no statement of the grammar. -/
def resumesReading (kind : Kind) : Bool :=
  [.newline, .literally, .spill, .kalo, .perhaps, .kalogak, .udahan, .fomo, .so, .seriously,
   .whichis, .thats, .call].contains kind

/-- The tokens at which reading goes on.  The token at fault is given up unless it is a
newline. -/
def resumed : List Token → List Token
  | [] => []
  | token :: rest =>
    if token.kind = .newline then token :: rest
    else rest.dropWhile fun token => !resumesReading token.kind

def recovering {α : Type} (reader : Reader α) : Reader (Option α) := fun tokens =>
  let reading := reader.run tokens
  match reading.found with
  | some value => ⟨some (some value), reading.rest, reading.faults⟩
  | none => ⟨some none, resumed reading.rest, reading.faults⟩

/-! ## Statements -/

/-- What follows the word `literally`.  Its expression is one call less far down than that of
another statement. -/
def declaration (room : Nat) : Reader Stmt := do
  let name ← expect .identifier .expectName
  let initial ← do
    match ← accept? (· == .itu) with
    | none => pure none
    | some _ => some <$> expression (room + 1)
  expectEnd .expectEndOfDeclaration
  pure (.declare name initial)

def spill (room : Nat) : Reader Stmt := do
  let value ← expression room
  expectEnd .expectEndOfSpill
  pure (.spill value)

def expressionStatement (room : Nat) : Reader Stmt := do
  let value ← expression room
  expectEnd .expectEndOfExpression
  pure (.expression value)

/-- Further branches of an if statement.  The count bounds their number. -/
def otherwise (room : Nat) (block : Reader (List Stmt)) : Nat → Reader Otherwise
  | 0 => pure .nothing
  | count + 1 => do
    match ← accept? fun kind => kind == .perhaps || kind == .kalogak with
    | none => pure .nothing
    | some token =>
      if token.kind = .perhaps then
        let condition ← expression room
        let body ← block
        let rest ← otherwise room block count
        pure (.perhaps condition body rest)
      else
        let body ← block
        pure (.kalogak body)

def kalo (room : Nat) (block : Reader (List Stmt)) (count : Nat) : Reader Stmt := do
  let condition ← expression room
  let body ← block
  let rest ← otherwise room block count
  let _ ← expect .udahan .expectUdahan
  expectEnd .expectEndOfKalo
  pure (.kalo condition body rest)

def statement (room : Nat) (block : Reader (List Stmt)) (count : Nat) : Reader Stmt := do
  match ← accept? fun kind => kind == .literally || kind == .kalo || kind == .spill with
  | none => expressionStatement room
  | some token =>
    match token.kind with
    | .literally => declaration room
    | .kalo => kalo room block count
    | _ => spill room

/-! ## Sequences of statements -/

def endsBlock (kind : Kind) : Bool := kind == .perhaps || kind == .kalogak || kind == .udahan

/-- The statements, for which there is some room, up to the end of the text or, in a block, up
to a word that ends it.  The count bounds the number of tokens. -/
def statements : Nat → Bool → Nat → Reader (List (Option Stmt))
  | _, _, 0 => pure []
  | room, inBlock, count + 1 => do
    match ← ahead with
    | [] => pure []
    | token :: _ =>
      if token.kind = .newline then
        let _ ← accept? (· == .newline)
        statements room inBlock count
      else if inBlock && endsBlock token.kind then pure []
      else
        let block : Reader (List Stmt) := do
          let _ ← expect .newline .expectBlock
          let found ← statements (room - blockRoom) true count
          pure (found.filterMap id)
        let stmt? ← recovering (statement room block count)
        let rest ← statements room inBlock count
        pure (stmt? :: rest)

end Reader

/-! ## Programs -/

structure Parsed where
  program : Program
  faults : List SyntaxFault

def Parsed.ofTokens (room : Nat) (tokens : Tokens) : Parsed :=
  let reader := Reader.statements room false (tokens.items.length + 1)
  let reading := reader.run tokens.items
  ⟨reading.found.getD [], reading.faults⟩

end BilingualScript
