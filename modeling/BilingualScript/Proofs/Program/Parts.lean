import BilingualScript.Proofs.Program.Tokens
import BilingualScript.Proofs.Reading.Operators
import BilingualScript.Proofs.Reading.Sentences

/-!
# Parts of trees

The literals, names and operators of a tree come from tokens of the text, each from a token of its
own kind.  So what holds of these tokens holds of all trees that are read without a fault.
-/

namespace BilingualScript

/-! ## What a tree is made of -/

/-- What is asked of the parts of a tree, each in its place. -/
structure Parts where
  literal : Value → Prop
  name : Token → Prop
  unary : Token → Prop
  binary : Token → Prop

def Expr.MadeOf (parts : Parts) : Expr → Prop
  | .literal value => parts.literal value
  | .grouping inner => inner.MadeOf parts
  | .unary operator operand => parts.unary operator ∧ operand.MadeOf parts
  | .binary left operator right =>
    parts.binary operator ∧ left.MadeOf parts ∧ right.MadeOf parts
  | .reference name => parts.name name
  | .assign name value => parts.name name ∧ value.MadeOf parts

mutual

def Stmt.MadeOf (parts : Parts) : Stmt → Prop
  | .expression value | .spill value => value.MadeOf parts
  | .declare name none => parts.name name
  | .declare name (some value) => parts.name name ∧ value.MadeOf parts
  | .kalo condition body otherwise =>
    condition.MadeOf parts ∧ Block.MadeOf parts body ∧ otherwise.MadeOf parts

def Otherwise.MadeOf (parts : Parts) : Otherwise → Prop
  | .nothing => True
  | .kalogak body => Block.MadeOf parts body
  | .perhaps condition body otherwise =>
    condition.MadeOf parts ∧ Block.MadeOf parts body ∧ otherwise.MadeOf parts

def Block.MadeOf (parts : Parts) : List Stmt → Prop
  | [] => True
  | stmt :: rest => stmt.MadeOf parts ∧ Block.MadeOf parts rest

end

theorem Stmt.MadeOf.initial {parts : Parts} {name : Token} {initial : Option Expr}
    (made : (Stmt.declare name initial).MadeOf parts) : ∀ value ∈ initial, value.MadeOf parts := by
  rintro value rfl
  exact made.2

/-! ## Where the parts come from -/

/-- Whatever kind a token has, it is what is asked in the places where the grammar allows it. -/
structure Parts.Admits (parts : Parts) (token : Token) : Prop where
  literal : token.kind = .number ∨ token.kind = .string → parts.literal token.literal
  name : token.kind = .identifier → parts.name token
  unary : token.kind ∈ Kind.unaries → parts.unary token
  binary : token.kind ∈ Kind.binaries → parts.binary token

structure Parts.AdmitsWords (parts : Parts) : Prop where
  truth : ∀ value, parts.literal (.truth value)
  hampa : parts.literal .hampa

namespace Reader

variable {α β : Type} {admitted : Token → Prop}

/-- From admitted tokens a reader makes what has a property, and it leaves admitted tokens. -/
def Makes (admitted : Token → Prop) (made : α → Prop) (reader : Reader α) : Prop :=
  ∀ tokens, (∀ token ∈ tokens, admitted token) →
    (∀ value ∈ (reader.run tokens).found, made value) ∧
      ∀ token ∈ (reader.run tokens).rest, admitted token

/-! ## Operations on readers -/

section Operations

variable {made : α → Prop} {made' : β → Prop}

theorem makes_pure {value : α} (holds : made value) : Makes admitted made (pure value) :=
  fun _ all => ⟨by simpa using holds, all⟩

theorem makes_fail (cause : SyntaxCause) : Makes admitted made (fail cause) :=
  fun _ all => ⟨by simp, all⟩

theorem makes_report (fault : SyntaxFault) : Makes admitted (fun _ => True) (report fault) :=
  fun _ all => ⟨by simp, all⟩

theorem makes_ahead : Makes admitted (fun _ => True) ahead :=
  fun _ all => ⟨by simp, all⟩

theorem makes_accept? (wanted : Kind → Bool) :
    Makes admitted (fun found => ∀ token ∈ found, admitted token ∧ wanted token.kind = true)
      (accept? wanted) := by
  intro tokens all
  cases tokens with
  | nil => simp
  | cons token rest =>
      obtain ⟨here, behind⟩ := List.forall_mem_cons.1 all
      rw [run_accept?_cons]
      split
      · next fits => exact ⟨by simp [here, fits], behind⟩
      · exact ⟨by simp, all⟩

theorem Makes.bind {reader : Reader α} {next : α → Reader β} (first : Makes admitted made reader)
    (second : ∀ value, made value → Makes admitted made' (next value)) :
    Makes admitted made' (reader >>= next) := by
  intro tokens all
  obtain ⟨made, left⟩ := first tokens all
  rcases reading : reader.run tokens with ⟨found, rest, faults⟩
  rw [reading] at made left
  cases found with
  | none =>
      rw [run_bind_of_failed reading]
      exact ⟨by simp, left⟩
  | some value =>
      rw [run_bind_of_found reading]
      exact second value (made value rfl) rest left

theorem Makes.map {reader : Reader α} (makes : Makes admitted made reader) {f : α → β}
    (holds : ∀ value, made value → made' (f value)) : Makes admitted made' (f <$> reader) :=
  makes.bind fun value here => makes_pure (holds value here)

theorem Makes.recovering {reader : Reader α} (makes : Makes admitted made reader) :
    Makes admitted (fun found => ∀ value ∈ found, made value) (recovering reader) := by
  intro tokens all
  obtain ⟨made, left⟩ := makes tokens all
  rw [run_recovering]
  cases found : (reader.run tokens).found with
  | none =>
      exact ⟨by simp, fun token mem => left token ((resumed_suffix _).subset mem)⟩
  | some value => exact ⟨by simpa using made value found, left⟩

theorem makes_expect (kind : Kind) (cause : SyntaxCause) :
    Makes admitted (fun token => admitted token ∧ token.kind = kind) (expect kind cause) := by
  refine .bind (makes_accept? _) fun found holds => ?_
  cases found with
  | none => exact makes_fail cause
  | some token => exact makes_pure ((holds token rfl).imp_right beq_iff_eq.1)

theorem makes_expectEnd (cause : SyntaxCause) :
    Makes admitted (fun _ => True) (expectEnd cause) := by
  refine .bind makes_ahead fun tokens _ => ?_
  split
  · exact makes_pure trivial
  · exact .bind (makes_expect _ cause) fun _ _ => makes_pure trivial

end Operations

/-! ## Expressions -/

section Expressions

variable {parts : Parts} (words : parts.AdmitsWords)

theorem makes_operations {operators : Kind → Bool} {operand : Reader Expr}
    (binaries : ∀ kind ∈ Kind.all, operators kind = true → kind ∈ Kind.binaries)
    (makes : Makes parts.Admits (Expr.MadeOf parts) operand) (bound : List Token) {left : Expr}
    (made : left.MadeOf parts) :
    Makes parts.Admits (Expr.MadeOf parts) (operations operators operand bound left) := by
  induction bound generalizing left with
  | nil => exact makes_pure made
  | cons _ bound ih =>
      refine .bind (makes_accept? _) fun found holds => ?_
      cases found with
      | none => exact makes_pure made
      | some operator =>
          obtain ⟨admitted, operates⟩ := holds operator rfl
          exact makes.bind fun right made' =>
            ih ⟨admitted.binary (binaries _ (Kind.mem_all _) operates), made, made'⟩

theorem makes_chain {operators : Kind → Bool} {operand : Reader Expr}
    (binaries : ∀ kind ∈ Kind.all, operators kind = true → kind ∈ Kind.binaries)
    (makes : Makes parts.Admits (Expr.MadeOf parts) operand) :
    Makes parts.Admits (Expr.MadeOf parts) (chain operators operand) :=
  makes.bind fun _ made => makes_ahead.bind fun bound _ =>
    makes_operations binaries makes bound made

theorem makes_binary {operand : Reader Expr}
    (makes : Makes parts.Admits (Expr.MadeOf parts) operand) :
    Makes parts.Admits (Expr.MadeOf parts) (binary operand) := by
  have equality : ∀ kind ∈ Kind.all, isEquality kind = true → kind ∈ Kind.binaries := by decide
  have comparison : ∀ kind ∈ Kind.all, isComparison kind = true → kind ∈ Kind.binaries := by decide
  have sum : ∀ kind ∈ Kind.all, isSum kind = true → kind ∈ Kind.binaries := by decide
  have product : ∀ kind ∈ Kind.all, isProduct kind = true → kind ∈ Kind.binaries := by decide
  exact makes_chain equality (makes_chain comparison (makes_chain sum (makes_chain product makes)))

theorem makes_assignment {operand : Nat → Reader Expr}
    (makes : ∀ room, Makes parts.Admits (Expr.MadeOf parts) (operand room)) (room : Nat) :
    Makes parts.Admits (Expr.MadeOf parts) (assignment operand room) := by
  induction room with
  | zero => exact makes 0
  | succ room ih =>
      refine (makes _).bind fun target made => makes_ahead.bind fun fromItu _ =>
        (makes_accept? _).bind fun found _ => ?_
      cases found with
      | none => exact makes_pure made
      | some _ =>
          refine ih.bind fun value made' => ?_
          cases target with
          | reference name => exact makes_pure ⟨made, made'⟩
          | _ => exact (makes_report _).bind fun _ _ => makes_pure made

theorem makes_unary {operand : Nat → Reader Expr}
    (makes : ∀ room, Makes parts.Admits (Expr.MadeOf parts) (operand room)) (room : Nat) :
    Makes parts.Admits (Expr.MadeOf parts) (unary operand room) := by
  have unaries : ∀ kind ∈ Kind.all, isNegation kind = true → kind ∈ Kind.unaries := by decide
  induction room with
  | zero => exact (makes_accept? _).bind fun _ _ => makes_fail _
  | succ room ih =>
      refine .bind (makes_accept? _) fun found holds => ?_
      cases found with
      | none => exact makes _
      | some operator =>
          obtain ⟨admitted, negates⟩ := holds operator rfl
          have unary := admitted.unary (unaries _ (Kind.mem_all _) negates)
          exact ih.bind fun inner made => makes_pure ⟨unary, made⟩

include words

theorem makes_primary {expression : Nat → Reader Expr}
    (makes : ∀ room, Makes parts.Admits (Expr.MadeOf parts) (expression room)) (room : Nat) :
    Makes parts.Admits (Expr.MadeOf parts) (primary expression room) := by
  refine .bind (makes_accept? _) fun found holds => ?_
  cases found with
  | none => exact makes_fail _
  | some token =>
      obtain ⟨admitted, starts⟩ := holds token rfl
      dsimp only
      split
      · exact makes_pure (words.truth false)
      · exact makes_pure (words.truth true)
      · exact makes_pure words.hampa
      · next kind => exact makes_pure (admitted.name kind)
      · exact (makes room).bind fun inner made => (makes_expect _ _).bind fun _ _ => makes_pure made
      · refine makes_pure (admitted.literal ?_)
        simp only [startsPrimary, Bool.or_eq_true, beq_iff_eq] at starts
        grind

theorem makes_expressionWithin (count room : Nat) :
    Makes parts.Admits (Expr.MadeOf parts) (expressionWithin count room) := by
  induction count generalizing room with
  | zero => exact makes_fail _
  | succ count ih =>
      unfold expressionWithin
      split
      · exact makes_fail _
      · exact makes_assignment
          (fun room => makes_binary (makes_unary (makes_primary words ih) room)) _

theorem makes_expression (room : Nat) :
    Makes parts.Admits (Expr.MadeOf parts) (expression room) :=
  makes_expressionWithin words room room

end Expressions

/-! ## Statements -/

section Statements

variable {parts : Parts} (words : parts.AdmitsWords)

include words

theorem makes_declaration (room : Nat) :
    Makes parts.Admits (Stmt.MadeOf parts) (declaration room) := by
  refine .bind (makes_expect _ _) fun name ⟨admitted, kind⟩ => .bind (makes_accept? _) ?_
  have named := admitted.name kind
  intro found _
  cases found with
  | none =>
      have makes : Makes parts.Admits (fun initial : Option Expr => initial = none) (pure none) :=
        makes_pure rfl
      refine makes.bind fun _ none => (makes_expectEnd _).bind fun _ _ => makes_pure ?_
      rw [none]
      exact named
  | some _ =>
      have makes : Makes parts.Admits (fun initial => ∃ value, initial = some value ∧
          value.MadeOf parts) (some <$> expression (room + 1)) :=
        (makes_expression words (room + 1)).map fun value made => ⟨value, rfl, made⟩
      refine makes.bind fun _ some => (makes_expectEnd _).bind fun _ _ => makes_pure ?_
      obtain ⟨value, rfl, made⟩ := some
      exact ⟨named, made⟩

theorem makes_spill (room : Nat) : Makes parts.Admits (Stmt.MadeOf parts) (spill room) :=
  (makes_expression words room).bind fun _ made =>
    (makes_expectEnd _).bind fun _ _ => makes_pure made

theorem makes_expressionStatement (room : Nat) :
    Makes parts.Admits (Stmt.MadeOf parts) (expressionStatement room) :=
  (makes_expression words room).bind fun _ made =>
    (makes_expectEnd _).bind fun _ _ => makes_pure made

variable {block : Reader (List Stmt)} (blocks : Makes parts.Admits (Block.MadeOf parts) block)

include blocks

theorem makes_otherwise (room count : Nat) :
    Makes parts.Admits (Otherwise.MadeOf parts) (otherwise room block count) := by
  induction count with
  | zero => exact makes_pure trivial
  | succ count ih =>
      refine .bind (makes_accept? _) fun found _ => ?_
      cases found with
      | none => exact makes_pure trivial
      | some token =>
          dsimp only
          split
          · exact (makes_expression words room).bind fun _ condition => blocks.bind fun _ body =>
              ih.bind fun _ others => makes_pure ⟨condition, body, others⟩
          · exact blocks.bind fun _ body => makes_pure body

theorem makes_kalo (room count : Nat) :
    Makes parts.Admits (Stmt.MadeOf parts) (kalo room block count) :=
  (makes_expression words room).bind fun _ condition => blocks.bind fun _ body =>
    (makes_otherwise words blocks room count).bind fun _ others =>
      (makes_expect _ _).bind fun _ _ => (makes_expectEnd _).bind fun _ _ =>
        makes_pure ⟨condition, body, others⟩

theorem makes_statement (room count : Nat) :
    Makes parts.Admits (Stmt.MadeOf parts) (statement room block count) := by
  refine .bind (makes_accept? _) fun found _ => ?_
  cases found with
  | none => exact makes_expressionStatement words room
  | some token =>
      dsimp only
      split
      · exact makes_declaration words room
      · exact makes_kalo words blocks room count
      · exact makes_spill words room

omit blocks

theorem makes_statements (room : Nat) (inBlock : Bool) (count : Nat) :
    Makes parts.Admits (fun program => Block.MadeOf parts (program.filterMap id))
      (statements room inBlock count) := by
  induction count generalizing room inBlock with
  | zero => exact makes_pure trivial
  | succ count ih =>
      refine makes_ahead.bind fun tokens _ => ?_
      cases tokens with
      | nil => exact makes_pure trivial
      | cons token _ =>
          dsimp only
          split
          · exact (makes_accept? _).bind fun _ _ => ih room inBlock
          · split
            · exact makes_pure trivial
            · have block : Makes parts.Admits (Block.MadeOf parts) (boundedBlock room count) :=
                (makes_expect _ _).bind fun _ _ => (ih _ true).bind fun _ body => makes_pure body
              refine (makes_statement words block room count).recovering.bind fun stmt? made =>
                (ih room inBlock).bind fun rest behind => makes_pure ?_
              cases stmt? with
              | none => exact behind
              | some stmt => exact ⟨made stmt rfl, behind⟩

end Statements

end Reader

/-! ## Literals of texts -/

/-- The literals that a text can have: no number is negative, and each is one. -/
def Value.IsConstant : Value → Prop
  | .number value => value.isNegative = false ∧ value ≠ .nan
  | _ => True

namespace Number

theorem ofUnits_isConstant (numerator denominator : Nat) :
    (Value.number (ofUnits false numerator denominator)).IsConstant := by
  unfold ofUnits
  dsimp only
  split
  · exact ⟨rfl, nofun⟩
  · exact ⟨rfl, nofun⟩

theorem toNumber_isConstant (decimal : Decimal) :
    (Value.number (decimal.toNumber false)).IsConstant := by
  unfold Decimal.toNumber
  split <;> exact ofUnits_isConstant _ _

end Number

theorem Value.literal_isConstant (kind : Kind) (text : List Char) :
    (Lexed.literal kind text).IsConstant := by
  unfold Lexed.literal
  split
  · exact True.intro
  · exact Number.toNumber_isConstant _
  · exact True.intro

/-! ## Programs -/

/-- The statements that are read are made of what is asked if the tokens are, with faults between
them or without. -/
theorem Parsed.madeOf_tokens (room : Nat) (tokens : Tokens) {parts : Parts}
    (words : parts.AdmitsWords) (admitted : ∀ token ∈ tokens.items, parts.Admits token) :
    Block.MadeOf parts ((ofTokens room tokens).program.filterMap id) := by
  obtain ⟨made, _⟩ := Reader.makes_statements words room false (tokens.items.length + 1)
    tokens.items admitted
  unfold ofTokens
  dsimp only
  cases found : ((Reader.statements room false (tokens.items.length + 1)).run
      tokens.items).found with
  | none => exact trivial
  | some program => exact made program found

theorem Parsed.madeOf {room : Nat} {tokens : Tokens} {parts : Parts}
    (clean : (ofTokens room tokens).faults = []) (words : parts.AdmitsWords)
    (admitted : ∀ token ∈ tokens.items, parts.Admits token) :
    ∃ stmts, (ofTokens room tokens).program = stmts.map some ∧ Block.MadeOf parts stmts := by
  obtain ⟨stmts, sentence, fits⟩ := (ofTokens_faults_eq_nil_iff room tokens).1 clean
  have made := madeOf_tokens room tokens words admitted
  rw [ofTokens_of_sentence sentence fits] at made ⊢
  exact ⟨stmts, rfl, by simpa using made⟩

end BilingualScript
