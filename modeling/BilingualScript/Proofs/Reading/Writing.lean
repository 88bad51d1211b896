import BilingualScript.Proofs.Reading.Nesting

/-!
# Writing trees back

A tree holds all that there is in the tokens of a phrase, apart from where its words stand and how
they look, and from blank lines.  So the tokens can be written again from it.
-/

namespace BilingualScript

/-! ## Tokens -/

namespace Token

def word (kind : Kind) : Token := ⟨kind, "", .hampa, .start⟩

def ofLiteral : Value → Token
  | .hampa => word .hampa
  | .truth true => word .ril
  | .truth false => word .impossible
  | .number value => ⟨.number, "", .number value, .start⟩
  | .text value => ⟨.string, "", .text value, .start⟩

def isKept (kind : Kind) : Bool :=
  [.identifier, .bang, .minus, .plus, .star, .slash, .percent, .bangEqual, .equalEqual, .greater,
   .greaterEqual, .less, .lessEqual].contains kind

/-- What a tree keeps of a token: names and operators as they are, the literals of numbers and
strings, and of all others the kind. -/
def bare (token : Token) : Token :=
  if isKept token.kind then token
  else if token.kind = .number ∨ token.kind = .string then ⟨token.kind, "", token.literal, .start⟩
  else word token.kind

def HasLiteral (token : Token) : Prop :=
  (token.kind = .number → ∃ value, token.literal = .number value) ∧
    (token.kind = .string → ∃ value, token.literal = .text value)

theorem bare_of_kept (token : Token) (kept : isKept token.kind = true) : token.bare = token := by
  rw [bare, if_pos kept]

theorem bare_of_word {token : Token} {kind : Kind} (same : token.kind = kind)
    (lost : isKept kind = false ∧ kind ≠ .number ∧ kind ≠ .string) : token.bare = word kind := by
  subst same
  simp [bare, lost.1, lost.2.1, lost.2.2]

theorem bare_of_literal {token : Token} (has : token.HasLiteral)
    (kind : token.kind = .number ∨ token.kind = .string) :
    token.bare = ofLiteral token.literal := by
  have lost : isKept token.kind = false := by
    rcases kind with kind | kind <;> rw [kind] <;> decide
  rw [bare, if_neg (by simp [lost]), if_pos kind]
  rcases kind with kind | kind
  · obtain ⟨value, literal⟩ := has.1 kind
    rw [literal, kind]
    rfl
  · obtain ⟨value, literal⟩ := has.2 kind
    rw [literal, kind]
    rfl

/-- Tokens without blank lines, and with a newline behind the last line.  At first it is known
whether a line has just begun. -/
def tidied : Bool → List Token → List Token
  | begun, [] => if begun then [] else [word .newline]
  | begun, token :: rest =>
    if token.kind = .newline then if begun then tidied true rest else token :: tidied true rest
    else token :: tidied false rest

theorem tidied_append {front : List Token} (nonempty : front ≠ [])
    (noNewline : ∀ token ∈ front, token.kind ≠ .newline) (begun : Bool) (rest : List Token) :
    tidied begun (front ++ rest) = front ++ tidied false rest := by
  induction front generalizing begun with
  | nil => exact absurd rfl nonempty
  | cons token front ih =>
      rw [List.cons_append, tidied, if_neg (noNewline token List.mem_cons_self)]
      cases front with
      | nil => rfl
      | cons _ _ =>
          rw [ih (by simp) (fun token mem => noNewline token (List.mem_cons_of_mem _ mem)) false]
          rfl

end Token

/-! ## Trees -/

open Token

def Expr.written : Expr → List Token
  | .literal value => [.ofLiteral value]
  | .grouping inner => word .leftParen :: (inner.written ++ [word .rightParen])
  | .unary operator operand => operator :: operand.written
  | .binary left operator right => left.written ++ operator :: right.written
  | .reference name => [name]
  | .assign name value => name :: word .itu :: value.written

theorem Expr.written_ne_nil (expr : Expr) : expr.written ≠ [] := by
  cases expr <;> simp [written]

mutual

def Stmt.written : Stmt → List Token
  | .expression value => value.written ++ [word .newline]
  | .spill value => word .spill :: (value.written ++ [word .newline])
  | .declare name none => [word .literally, name, word .newline]
  | .declare name (some value) =>
    word .literally :: name :: word .itu :: (value.written ++ [word .newline])
  | .kalo condition body otherwise =>
    word .kalo :: (condition.written ++ word .newline ::
      (Block.written body ++ (otherwise.written ++ [word .udahan, word .newline])))

def Otherwise.written : Otherwise → List Token
  | .nothing => []
  | .kalogak body => word .kalogak :: word .newline :: Block.written body
  | .perhaps condition body otherwise =>
    word .perhaps :: (condition.written ++ word .newline ::
      (Block.written body ++ otherwise.written))

def Block.written : List Stmt → List Token
  | [] => []
  | stmt :: rest => stmt.written ++ Block.written rest

end

/-! ## Grouping -/

namespace Grammar

def Chain.tightness : Chain → Nat
  | .equality => 1
  | .comparison => 2
  | .sum => 3
  | .product => 4

end Grammar

open Grammar

def Kind.tightness (kind : Kind) : Nat :=
  (([.equality, .comparison, .sum, .product] : List Chain).find?
    (kind ∈ ·.operators)).elim 0 Chain.tightness

def Expr.tightness : Expr → Nat
  | .assign _ _ => 0
  | .binary _ operator _ => operator.kind.tightness
  | .unary _ _ => 5
  | .literal _ | .grouping _ | .reference _ => 6

/-- In a tree without parentheses but where there are some: only what binds as tight as an operator
stands to its left, and only what binds tighter to its right.  What is negated binds as tight as a
negation, and anything stands behind `itu`. -/
def Expr.Grouped : Expr → Prop
  | .literal _ | .reference _ => True
  | .grouping inner => inner.Grouped
  | .unary _ operand => operand.Grouped ∧ 5 ≤ operand.tightness
  | .binary left operator right =>
    left.Grouped ∧ right.Grouped ∧ 0 < operator.kind.tightness ∧
      operator.kind.tightness ≤ left.tightness ∧ operator.kind.tightness < right.tightness
  | .assign _ value => value.Grouped

mutual

def Stmt.Grouped : Stmt → Prop
  | .expression value | .spill value | .declare _ (some value) => value.Grouped
  | .declare _ none => True
  | .kalo condition body otherwise => condition.Grouped ∧ Block.Grouped body ∧ otherwise.Grouped

def Otherwise.Grouped : Otherwise → Prop
  | .nothing => True
  | .kalogak body => Block.Grouped body
  | .perhaps condition body otherwise => condition.Grouped ∧ Block.Grouped body ∧ otherwise.Grouped

def Block.Grouped : List Stmt → Prop
  | [] => True
  | stmt :: rest => stmt.Grouped ∧ Block.Grouped rest

end

namespace Grammar

theorem Chain.tightness_of_mem (level : Chain) :
    ∀ kind ∈ level.operators, kind.tightness = level.tightness := by
  cases level <;> decide

def Form.tightness : Form → Nat
  | .assignment => 0
  | .operands level | .further level _ => level.tightness
  | .unary => 5
  | .primary => 6

theorem Chain.tightness_operand (level : Chain) :
    level.operand.tightness = level.tightness + 1 := by
  cases level <;> rfl

theorem Chain.tightness_pos (level : Chain) : 0 < level.tightness := by
  cases level <;> decide

def Form.StartsGrouped : Form → Prop
  | .further level left => left.Grouped ∧ level.tightness ≤ left.tightness
  | _ => True

variable {tokens middle rest : List Token}

theorem Phrase.grouped {form : Form} {expr : Expr} (phrase : Phrase false form tokens rest expr)
    (starts : form.StartsGrouped) : expr.Grouped ∧ form.tightness ≤ expr.tightness := by
  induction phrase with
  | ril | impossible | hampa | literal | name => exact ⟨trivial, Nat.le_refl _⟩
  | grouping _ _ _ ih => exact ⟨(ih trivial).1, Nat.le_refl _⟩
  | primary _ ih =>
      obtain ⟨grouped, tight⟩ := ih trivial
      exact ⟨grouped, Nat.le_of_succ_le tight⟩
  | unary _ _ ih => exact ⟨ih trivial, Nat.le_refl _⟩
  | @operands level _ _ _ _ _ _ _ ih ih' =>
      have inner : level.operand.StartsGrouped := by cases level <;> trivial
      obtain ⟨grouped, tight⟩ := ih inner
      rw [level.tightness_operand] at tight
      exact ih' ⟨grouped, Nat.le_of_succ_le tight⟩
  | last => exact starts
  | @further level operator left right _ _ _ _ operates _ _ ih ih' =>
      have inner : level.operand.StartsGrouped := by cases level <;> trivial
      obtain ⟨grouped, tight⟩ := ih inner
      rw [level.tightness_operand] at tight
      have binds := level.tightness_of_mem _ operates
      refine ih' ⟨⟨starts.1, grouped, ?_, ?_, ?_⟩, Nat.le_of_eq binds.symm⟩
      · rw [binds]
        exact level.tightness_pos
      · rw [binds]
        exact starts.2
      · rw [binds]
        exact tight
  | equality _ ih =>
      obtain ⟨grouped, _⟩ := ih trivial
      exact ⟨grouped, Nat.zero_le _⟩
  | assignment _ _ _ names _ ih' =>
      obtain all | ⟨name, rfl⟩ := names
      · cases all
      · exact ⟨(ih' trivial).1, Nat.zero_le _⟩

/-! ## Phrases -/

def Form.written : Form → List Token
  | .further _ left => left.written
  | _ => []

theorem Chain.written_operand (level : Chain) : level.operand.written = [] := by
  cases level <;> rfl

theorem Chain.operator_kept (level : Chain) :
    ∀ kind ∈ level.operators, isKept kind = true ∧ kind ≠ .newline := by
  cases level <;> decide

theorem Phrase.writes {form : Form} {expr : Expr} (phrase : Phrase false form tokens rest expr)
    (literals : ∀ token ∈ tokens, token.HasLiteral) :
    ∃ front, tokens = front ++ rest ∧ expr.written = form.written ++ front.map bare ∧
      ∀ token ∈ front, token.kind ≠ .newline := by
  induction phrase with
  | @ril token _ kind | @impossible token _ kind | @hampa token _ kind =>
      have written := bare_of_word kind (by decide)
      exact ⟨[token], rfl, by simp [written, Expr.written, ofLiteral, Form.written], by simp [kind]⟩
  | @literal token _ kind =>
      have written := bare_of_literal (literals token List.mem_cons_self) kind
      exact ⟨[token], rfl, by simp [written, Expr.written, Form.written],
        by rcases kind with kind | kind <;> simp [kind]⟩
  | @name token _ kind =>
      have written := bare_of_kept token (by rw [kind]; decide)
      exact ⟨[token], rfl, by simp [written, Expr.written, Form.written], by simp [kind]⟩
  | @grouping opening closing _ _ _ kind _ kind' ih =>
      obtain ⟨front, rfl, written, noNewline⟩ :=
        ih fun token mem => literals token (List.mem_cons_of_mem _ mem)
      have opens := bare_of_word kind (by decide)
      have closes := bare_of_word kind' (by decide)
      refine ⟨opening :: (front ++ [closing]), by simp, ?_, ?_⟩
      · simp [Expr.written, Form.written, written, opens, closes]
      · simpa [kind, kind', or_imp, forall_and] using noNewline
  | primary _ ih => exact ih literals
  | @unary operator _ _ _ operates _ ih =>
      obtain ⟨front, rfl, written, noNewline⟩ :=
        ih fun token mem => literals token (List.mem_cons_of_mem _ mem)
      have kept := bare_of_kept operator
        (by rcases operates with kind | kind <;> rw [kind] <;> decide)
      refine ⟨operator :: front, rfl, by simp [Expr.written, Form.written, written, kept], ?_⟩
      rcases operates with kind | kind <;> simpa [kind] using noNewline
  | @operands level _ _ _ _ _ _ _ ih ih' =>
      obtain ⟨front, rfl, written, noNewline⟩ := ih literals
      obtain ⟨front', rfl, written', noNewline'⟩ :=
        ih' fun token mem => literals token (List.mem_append_right _ mem)
      rw [level.written_operand] at written
      refine ⟨front ++ front', by simp, ?_, List.forall_mem_append.2 ⟨noNewline, noNewline'⟩⟩
      rw [written', Form.written, written, List.map_append]
      rfl
  | last => exact ⟨[], rfl, by simp [Form.written], by simp⟩
  | @further level operator left right _ _ _ _ operates _ _ ih ih' =>
      obtain ⟨front, rfl, written, noNewline⟩ :=
        ih fun token mem => literals token (List.mem_cons_of_mem _ mem)
      obtain ⟨front', rfl, written', noNewline'⟩ :=
        ih' fun token mem => literals token (List.mem_cons_of_mem _ (List.mem_append_right _ mem))
      rw [level.written_operand] at written
      obtain ⟨kept, kind⟩ := level.operator_kept _ operates
      refine ⟨operator :: (front ++ front'), by simp, ?_, ?_⟩
      · simp [written', Form.written, Expr.written, written, bare_of_kept _ kept]
      · exact List.forall_mem_cons.2 ⟨kind, List.forall_mem_append.2 ⟨noNewline, noNewline'⟩⟩
  | equality _ ih => exact ih literals
  | @assignment itu _ _ _ target _ _ kind _ names ih ih' =>
      obtain ⟨front, rfl, written, noNewline⟩ := ih literals
      obtain ⟨front', rfl, written', noNewline'⟩ := ih' fun token mem =>
        literals token (List.mem_append_right _ (List.mem_cons_of_mem _ mem))
      have itus := bare_of_word kind (by decide)
      obtain all | ⟨name, rfl⟩ := names
      · cases all
      · refine ⟨front ++ itu :: front', by simp, ?_, ?_⟩
        · simp only [Expr.written, Form.written, List.nil_append] at written written' ⊢
          rw [assigned, Expr.written, written', List.map_append, ← written, List.map_cons, itus]
          rfl
        · refine List.forall_mem_append.2 ⟨noNewline, List.forall_mem_cons.2 ⟨?_, noNewline'⟩⟩
          simp [kind]

/-! ## Statements -/

theorem End.writes (ends : End tokens rest) :
    (tidied false tokens).map bare = word .newline :: (tidied true rest).map bare := by
  cases ends with
  | newline kind => simp [tidied, kind, bare_of_word kind (by decide)]
  | stop => rfl

theorem Phrase.writes_front {expr : Expr} (phrase : Phrase false .assignment tokens rest expr)
    (literals : ∀ token ∈ tokens, token.HasLiteral) (begun : Bool) :
    (tidied begun tokens).map bare = expr.written ++ (tidied false rest).map bare := by
  obtain ⟨front, rfl, written, noNewline⟩ := phrase.writes literals
  have nonempty : front ≠ [] := by
    rintro rfl
    exact absurd written (by simpa [Form.written] using expr.written_ne_nil)
  rw [tidied_append nonempty noNewline, List.map_append, written]
  rfl

theorem tidied_word {word : Token} {kind : Kind} (same : word.kind = kind)
    (lost : isKept kind = false ∧ kind ≠ .number ∧ kind ≠ .string) (noNewline : kind ≠ .newline)
    (begun : Bool) :
    (tidied begun (word :: tokens)).map bare = .word kind :: (tidied false tokens).map bare := by
  rw [tidied, if_neg (by rwa [same]), List.map_cons, bare_of_word same lost]

theorem tidied_name {name : Token} (kind : name.kind = .identifier) :
    (tidied false (name :: tokens)).map bare = name :: (tidied false tokens).map bare := by
  rw [tidied, if_neg (by rw [kind]; decide), List.map_cons, bare_of_kept _ (by rw [kind]; decide)]

theorem tidied_newline {newline : Token} (kind : newline.kind = .newline) :
    (tidied false (newline :: tokens)).map bare =
      .word .newline :: (tidied true tokens).map bare :=
  End.writes (.newline kind)

theorem tidied_blank {newline : Token} (kind : newline.kind = .newline) :
    tidied true (newline :: tokens) = tidied true tokens := by
  rw [tidied, if_pos kind, if_pos rfl]

mutual

theorem Statement.writes {tokens rest : List Token} {stmt : Stmt}
    (statement : Statement false tokens rest stmt)
    (literals : ∀ token ∈ tokens, token.HasLiteral) :
    (tidied true tokens).map bare = stmt.written ++ (tidied true rest).map bare := by
  match tokens, rest, stmt, statement with
  | _, _, _, .expression phrase ends =>
      rw [phrase.writes_front literals, ends.writes]
      simp [Stmt.written]
  | _, _, _, .spill kind phrase ends =>
      have literals := (List.forall_mem_cons.1 literals).2
      rw [tidied_word kind (by decide) (by decide), phrase.writes_front literals, ends.writes]
      simp [Stmt.written]
  | _, _, _, .declare kind named ends =>
      rw [tidied_word kind (by decide) (by decide), tidied_name named, ends.writes]
      simp [Stmt.written]
  | _, _, _, .declareAs kind named itu phrase ends =>
      have literals := (List.forall_mem_cons.1 (List.forall_mem_cons.1
        (List.forall_mem_cons.1 literals).2).2).2
      rw [tidied_word kind (by decide) (by decide), tidied_name named,
        tidied_word itu (by decide) (by decide), phrase.writes_front literals, ends.writes]
      simp [Stmt.written]
  | _, _, _, .kalo kind phrase newline body others udahan ends =>
      have literals := (List.forall_mem_cons.1 literals).2
      have behind := fun token mem => literals token (phrase.suffix.subset mem)
      have inner := (List.forall_mem_cons.1 behind).2
      rw [tidied_word kind (by decide) (by decide), phrase.writes_front literals,
        tidied_newline newline, Lines.writes body inner,
        Branches.writes others fun token mem => inner token (body.suffix.subset mem),
        tidied_word udahan (by decide) (by decide), ends.writes]
      simp [Stmt.written]

theorem Branches.writes {tokens rest : List Token} {otherwise : Otherwise}
    (branches : Branches false tokens rest otherwise)
    (literals : ∀ token ∈ tokens, token.HasLiteral) :
    (tidied true tokens).map bare = otherwise.written ++ (tidied true rest).map bare := by
  match tokens, rest, otherwise, branches with
  | _, _, _, .nothing => rfl
  | _, _, _, .kalogak kind newline body =>
      have inner := (List.forall_mem_cons.1 (List.forall_mem_cons.1 literals).2).2
      rw [tidied_word kind (by decide) (by decide), tidied_newline newline, Lines.writes body inner]
      simp [Otherwise.written]
  | _, _, _, .perhaps kind phrase newline body others =>
      have literals := (List.forall_mem_cons.1 literals).2
      have behind := fun token mem => literals token (phrase.suffix.subset mem)
      have inner := (List.forall_mem_cons.1 behind).2
      rw [tidied_word kind (by decide) (by decide), phrase.writes_front literals,
        tidied_newline newline, Lines.writes body inner,
        Branches.writes others fun token mem => inner token (body.suffix.subset mem)]
      simp [Otherwise.written]

theorem Lines.writes {tokens rest : List Token} {stmts : List Stmt}
    (lines : Lines false tokens rest stmts) (literals : ∀ token ∈ tokens, token.HasLiteral) :
    (tidied true tokens).map bare = Block.written stmts ++ (tidied true rest).map bare := by
  match tokens, rest, stmts, lines with
  | _, _, _, .nil => rfl
  | _, _, _, .blank kind behind =>
      rw [tidied_blank kind, Lines.writes behind (List.forall_mem_cons.1 literals).2]
  | _, _, _, .cons statement behind =>
      rw [Statement.writes statement literals,
        Lines.writes behind fun token mem => literals token (statement.suffix.subset mem)]
      simp [Block.written]

end

mutual

theorem Statement.grouped {tokens rest : List Token} {stmt : Stmt}
    (statement : Statement false tokens rest stmt) : stmt.Grouped := by
  match tokens, rest, stmt, statement with
  | _, _, _, .expression phrase _ | _, _, _, .spill _ phrase _
  | _, _, _, .declareAs _ _ _ phrase _ => exact (phrase.grouped trivial).1
  | _, _, _, .declare _ _ _ => trivial
  | _, _, _, .kalo _ phrase _ body others _ _ =>
      exact ⟨(phrase.grouped trivial).1, Lines.grouped body, Branches.grouped others⟩

theorem Branches.grouped {tokens rest : List Token} {otherwise : Otherwise}
    (branches : Branches false tokens rest otherwise) : otherwise.Grouped := by
  match tokens, rest, otherwise, branches with
  | _, _, _, .nothing => trivial
  | _, _, _, .kalogak _ _ body => exact Lines.grouped body
  | _, _, _, .perhaps _ phrase _ body others =>
      exact ⟨(phrase.grouped trivial).1, Lines.grouped body, Branches.grouped others⟩

theorem Lines.grouped {tokens rest : List Token} {stmts : List Stmt}
    (lines : Lines false tokens rest stmts) : Block.Grouped stmts := by
  match tokens, rest, stmts, lines with
  | _, _, _, .nil => trivial
  | _, _, _, .blank _ behind => exact Lines.grouped behind
  | _, _, _, .cons statement behind => exact ⟨Statement.grouped statement, Lines.grouped behind⟩

end

end Grammar

end BilingualScript
