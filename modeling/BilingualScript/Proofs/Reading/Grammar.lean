import BilingualScript.Reading.Statement

/-!
# The grammar

    program     ::= (newline | declaration)*
    declaration ::= "literally" name ("itu" expression)? end | statement
    statement   ::= if | "spill" expression end | expression end
    if          ::= "kalo" expression block ("perhaps" expression block)* ("kalogak" block)?
                    "udahan" end
    block       ::= newline (newline | declaration)*
    expression  ::= assignment
    assignment  ::= equality ("itu" assignment)?
    equality    ::= comparison (("!=" | "==") comparison)*
    comparison  ::= sum ((">" | ">=" | "<" | "<=") sum)*
    sum         ::= product (("-" | "+") product)*
    product     ::= unary (("*" | "/" | "%") unary)*
    unary       ::= ("!" | "-") unary | primary
    primary     ::= "ril" | "impossible" | "hampa" | number | string | name | "(" expression ")"

Each relation below holds between tokens, those of them that are left behind a phrase, and the
tree of the phrase.  An `end` is a newline, or the end of the text, which is not taken.
-/

namespace BilingualScript.Grammar

/-! ## Expressions -/

inductive Chain where
  | equality
  | comparison
  | sum
  | product
  deriving DecidableEq, Repr

namespace Chain

def operators : Chain → List Kind
  | .equality => [.bangEqual, .equalEqual]
  | .comparison => [.greater, .greaterEqual, .less, .lessEqual]
  | .sum => [.minus, .plus]
  | .product => [.star, .slash, .percent]

end Chain

/-- The phrases of which expressions consist.  Behind a first operand on a level there stand
further ones. -/
inductive Form where
  | assignment
  | operands (chain : Chain)
  | further (chain : Chain) (left : Expr)
  | unary
  | primary

def Chain.operand : Chain → Form
  | .equality => .operands .comparison
  | .comparison => .operands .sum
  | .sum => .operands .product
  | .product => .unary

/-- What may be assigned to: a name or, in the grammar that allows all targets, any equality. -/
def Target (allTargets : Bool) (target : Expr) : Prop :=
  allTargets = true ∨ ∃ name, target = .reference name

/-- The tree of a target and a value.  A target that is no name stands for the whole. -/
def assigned (target value : Expr) : Expr :=
  match target with
  | .reference name => .assign name value
  | _ => target

inductive Phrase (allTargets : Bool) : Form → List Token → List Token → Expr → Prop
  | ril {token rest} : token.kind = .ril →
      Phrase allTargets .primary (token :: rest) rest (.literal (.truth true))
  | impossible {token rest} : token.kind = .impossible →
      Phrase allTargets .primary (token :: rest) rest (.literal (.truth false))
  | hampa {token rest} : token.kind = .hampa →
      Phrase allTargets .primary (token :: rest) rest (.literal .hampa)
  | literal {token rest} : token.kind = .number ∨ token.kind = .string →
      Phrase allTargets .primary (token :: rest) rest (.literal token.literal)
  | name {token rest} : token.kind = .identifier →
      Phrase allTargets .primary (token :: rest) rest (.reference token)
  | grouping {opening closing tokens rest inner} : opening.kind = .leftParen →
      Phrase allTargets .assignment tokens (closing :: rest) inner →
      closing.kind = .rightParen →
      Phrase allTargets .primary (opening :: tokens) rest (.grouping inner)
  | primary {tokens rest expr} : Phrase allTargets .primary tokens rest expr →
      Phrase allTargets .unary tokens rest expr
  | unary {operator tokens rest operand} : operator.kind = .bang ∨ operator.kind = .minus →
      Phrase allTargets .unary tokens rest operand →
      Phrase allTargets .unary (operator :: tokens) rest (.unary operator operand)
  | operands {chain tokens middle rest first expr} :
      Phrase allTargets chain.operand tokens middle first →
      Phrase allTargets (.further chain first) middle rest expr →
      Phrase allTargets (.operands chain) tokens rest expr
  | last {chain left rest} : Phrase allTargets (.further chain left) rest rest left
  | further {chain operator left right tokens middle rest expr} :
      operator.kind ∈ chain.operators →
      Phrase allTargets chain.operand tokens middle right →
      Phrase allTargets (.further chain (.binary left operator right)) middle rest expr →
      Phrase allTargets (.further chain left) (operator :: tokens) rest expr
  | equality {tokens rest expr} : Phrase allTargets (.operands .equality) tokens rest expr →
      Phrase allTargets .assignment tokens rest expr
  | assignment {itu tokens middle rest target value} :
      Phrase allTargets (.operands .equality) tokens (itu :: middle) target → itu.kind = .itu →
      Phrase allTargets .assignment middle rest value → Target allTargets target →
      Phrase allTargets .assignment tokens rest (assigned target value)

/-! ## Statements -/

inductive End : List Token → List Token → Prop
  | newline {token rest} : token.kind = .newline → End (token :: rest) rest
  | stop : End [] []

mutual

inductive Statement (allTargets : Bool) : List Token → List Token → Stmt → Prop
  | expression {tokens middle rest value} :
      Phrase allTargets .assignment tokens middle value → End middle rest →
      Statement allTargets tokens rest (.expression value)
  | spill {word tokens middle rest value} : word.kind = .spill →
      Phrase allTargets .assignment tokens middle value → End middle rest →
      Statement allTargets (word :: tokens) rest (.spill value)
  | declare {word name tokens rest} : word.kind = .literally → name.kind = .identifier →
      End tokens rest → Statement allTargets (word :: name :: tokens) rest (.declare name none)
  | declareAs {word name itu tokens middle rest value} : word.kind = .literally →
      name.kind = .identifier → itu.kind = .itu →
      Phrase allTargets .assignment tokens middle value → End middle rest →
      Statement allTargets (word :: name :: itu :: tokens) rest (.declare name (some value))
  | kalo {word newline udahan tokens inner behind closing rest condition body otherwise} :
      word.kind = .kalo → Phrase allTargets .assignment tokens (newline :: inner) condition →
      newline.kind = .newline → Lines allTargets inner behind body →
      Branches allTargets behind (udahan :: closing) otherwise → udahan.kind = .udahan →
      End closing rest →
      Statement allTargets (word :: tokens) rest (.kalo condition body otherwise)

inductive Branches (allTargets : Bool) : List Token → List Token → Otherwise → Prop
  | nothing {rest} : Branches allTargets rest rest .nothing
  | kalogak {word newline inner rest body} : word.kind = .kalogak → newline.kind = .newline →
      Lines allTargets inner rest body →
      Branches allTargets (word :: newline :: inner) rest (.kalogak body)
  | perhaps {word newline tokens inner behind rest condition body otherwise} :
      word.kind = .perhaps → Phrase allTargets .assignment tokens (newline :: inner) condition →
      newline.kind = .newline → Lines allTargets inner behind body →
      Branches allTargets behind rest otherwise →
      Branches allTargets (word :: tokens) rest (.perhaps condition body otherwise)

inductive Lines (allTargets : Bool) : List Token → List Token → List Stmt → Prop
  | nil {rest} : Lines allTargets rest rest []
  | blank {newline tokens rest stmts} : newline.kind = .newline →
      Lines allTargets tokens rest stmts → Lines allTargets (newline :: tokens) rest stmts
  | cons {tokens middle rest stmt stmts} : Statement allTargets tokens middle stmt →
      Lines allTargets middle rest stmts → Lines allTargets tokens rest (stmt :: stmts)

end

/-- All tokens make up a program in which only names are assigned to. -/
def Sentence (tokens : List Token) (stmts : List Stmt) : Prop := Lines false tokens [] stmts

/-! ## Tokens that are left -/

variable {allTargets : Bool}

theorem Phrase.suffix {form : Form} {tokens rest : List Token} {expr : Expr}
    (phrase : Phrase allTargets form tokens rest expr) : rest <:+ tokens := by
  induction phrase with
  | ril | impossible | hampa | literal | name => exact List.suffix_cons _ _
  | grouping _ _ _ ih =>
      exact ((List.suffix_cons _ _).trans ih).trans (List.suffix_cons _ _)
  | primary _ ih | equality _ ih => exact ih
  | unary _ _ ih => exact ih.trans (List.suffix_cons _ _)
  | operands _ _ ih ih' => exact ih'.trans ih
  | last => exact List.suffix_rfl
  | further _ _ _ ih ih' => exact (ih'.trans ih).trans (List.suffix_cons _ _)
  | assignment _ _ _ _ ih ih' => exact (ih'.trans (List.suffix_cons _ _)).trans ih

theorem End.suffix {tokens rest : List Token} (ends : End tokens rest) : rest <:+ tokens := by
  cases ends with
  | newline => exact List.suffix_cons _ _
  | stop => exact List.suffix_rfl

mutual

theorem Statement.suffix {tokens rest : List Token} {stmt : Stmt}
    (statement : Statement allTargets tokens rest stmt) : rest <:+ tokens := by
  match tokens, rest, stmt, statement with
  | _, _, _, .expression phrase ends => exact ends.suffix.trans phrase.suffix
  | _, _, _, .spill _ phrase ends =>
      exact (ends.suffix.trans phrase.suffix).trans (List.suffix_cons _ _)
  | _, _, _, .declare _ _ ends =>
      exact ends.suffix.trans ((List.suffix_cons _ _).trans (List.suffix_cons _ _))
  | _, _, _, .declareAs _ _ _ phrase ends =>
      exact (ends.suffix.trans phrase.suffix).trans
        ((List.suffix_cons _ _).trans ((List.suffix_cons _ _).trans (List.suffix_cons _ _)))
  | _, _, _, .kalo _ phrase _ body others _ ends =>
      have inner := (Branches.suffix others).trans (Lines.suffix body)
      have behind := (inner.trans (List.suffix_cons _ _)).trans phrase.suffix
      exact ((ends.suffix.trans (List.suffix_cons _ _)).trans behind).trans (List.suffix_cons _ _)

theorem Branches.suffix {tokens rest : List Token} {otherwise : Otherwise}
    (branches : Branches allTargets tokens rest otherwise) : rest <:+ tokens := by
  match tokens, rest, otherwise, branches with
  | _, _, _, .nothing => exact List.suffix_rfl
  | _, _, _, .kalogak _ _ body =>
      exact (Lines.suffix body).trans ((List.suffix_cons _ _).trans (List.suffix_cons _ _))
  | _, _, _, .perhaps _ phrase _ body others =>
      have inner := (Branches.suffix others).trans (Lines.suffix body)
      exact ((inner.trans (List.suffix_cons _ _)).trans phrase.suffix).trans (List.suffix_cons _ _)

theorem Lines.suffix {tokens rest : List Token} {stmts : List Stmt}
    (lines : Lines allTargets tokens rest stmts) : rest <:+ tokens := by
  match tokens, rest, stmts, lines with
  | _, _, _, .nil => exact List.suffix_rfl
  | _, _, _, .blank _ behind => exact (Lines.suffix behind).trans (List.suffix_cons _ _)
  | _, _, _, .cons statement behind =>
      exact (Lines.suffix behind).trans (Statement.suffix statement)

end

/-! ## End marks -/

/-- No end mark has been taken between some tokens and those left of them. -/
def Unmarked (tokens rest : List Token) : Prop :=
  ∀ token ∈ tokens, token.kind = .eof → token ∈ rest

namespace Unmarked

variable {tokens middle rest : List Token} {token : Token}

theorem refl : Unmarked rest rest := fun _ mem _ => mem

theorem trans (first : Unmarked tokens middle) (second : Unmarked middle rest) :
    Unmarked tokens rest :=
  fun token mem kind => second token (first token mem kind) kind

theorem cons (kind : token.kind ≠ .eof) (behind : Unmarked tokens rest) :
    Unmarked (token :: tokens) rest :=
  List.forall_mem_cons.2 ⟨fun mark => absurd mark kind, behind⟩

end Unmarked

theorem Chain.operator_ne_eof (chain : Chain) {kind : Kind} (mem : kind ∈ chain.operators) :
    kind ≠ .eof := by
  rintro rfl
  cases chain <;> simp [operators] at mem

theorem Phrase.unmarked {form : Form} {tokens rest : List Token} {expr : Expr}
    (phrase : Phrase allTargets form tokens rest expr) : Unmarked tokens rest := by
  induction phrase with
  | ril kind | impossible kind | hampa kind | name kind => exact .cons (by simp [kind]) .refl
  | literal kind => exact .cons (by rcases kind with kind | kind <;> simp [kind]) .refl
  | grouping opening _ closing ih =>
      exact .cons (by simp [opening]) (ih.trans (.cons (by simp [closing]) .refl))
  | primary _ ih | equality _ ih => exact ih
  | unary operator _ ih => exact .cons (by rcases operator with kind | kind <;> simp [kind]) ih
  | operands _ _ ih ih' => exact ih.trans ih'
  | last => exact .refl
  | @further level _ _ _ _ _ _ _ operator _ _ ih ih' =>
      exact .cons (level.operator_ne_eof operator) (ih.trans ih')
  | assignment _ kind _ _ ih ih' => exact ih.trans (.cons (by simp [kind]) ih')

theorem End.unmarked {tokens rest : List Token} (ends : End tokens rest) :
    Unmarked tokens rest := by
  cases ends with
  | newline kind => exact .cons (by simp [kind]) .refl
  | stop => exact .refl

mutual

theorem Statement.unmarked {tokens rest : List Token} {stmt : Stmt}
    (statement : Statement allTargets tokens rest stmt) : Unmarked tokens rest := by
  match tokens, rest, stmt, statement with
  | _, _, _, .expression phrase ends => exact phrase.unmarked.trans ends.unmarked
  | _, _, _, .spill word phrase ends =>
      exact .cons (by simp [word]) (phrase.unmarked.trans ends.unmarked)
  | _, _, _, .declare word name ends =>
      exact .cons (by simp [word]) (.cons (by simp [name]) ends.unmarked)
  | _, _, _, .declareAs word name itu phrase ends =>
      have value := phrase.unmarked.trans ends.unmarked
      exact .cons (by simp [word]) (.cons (by simp [name]) (.cons (by simp [itu]) value))
  | _, _, _, .kalo word phrase newline body others udahan ends =>
      have inner := (Lines.unmarked body).trans (Branches.unmarked others)
      have whole := inner.trans (.cons (by simp [udahan]) ends.unmarked)
      exact .cons (by simp [word]) (phrase.unmarked.trans (.cons (by simp [newline]) whole))

theorem Branches.unmarked {tokens rest : List Token} {otherwise : Otherwise}
    (branches : Branches allTargets tokens rest otherwise) : Unmarked tokens rest := by
  match tokens, rest, otherwise, branches with
  | _, _, _, .nothing => exact .refl
  | _, _, _, .kalogak word newline body =>
      exact .cons (by simp [word]) (.cons (by simp [newline]) (Lines.unmarked body))
  | _, _, _, .perhaps word phrase newline body others =>
      have inner := (Lines.unmarked body).trans (Branches.unmarked others)
      exact .cons (by simp [word]) (phrase.unmarked.trans (.cons (by simp [newline]) inner))

theorem Lines.unmarked {tokens rest : List Token} {stmts : List Stmt}
    (lines : Lines allTargets tokens rest stmts) : Unmarked tokens rest := by
  match tokens, rest, stmts, lines with
  | _, _, _, .nil => exact .refl
  | _, _, _, .blank kind behind => exact .cons (by simp [kind]) (Lines.unmarked behind)
  | _, _, _, .cons statement behind =>
      exact (Statement.unmarked statement).trans (Lines.unmarked behind)

end

end BilingualScript.Grammar
