import BilingualScript.CommandLine.Basic
import BilingualScript.Proofs.Program.Dump
import BilingualScript.Proofs.Program.Same
import BilingualScript.Proofs.Session.Pointing

/-!
# Lines of dumps

The tokens of a text are shown on a line each, and so are its statements.  What breaks a line is a
newline inside a literal: that is shown as it is.
-/

namespace BilingualScript

def Value.newlines : Value → Nat
  | .text value => value.toList.count '\n'
  | _ => 0

/-! ## Tokens -/

theorem Token.count_literalText (token : Token) :
    token.literalText.toList.count '\n' = token.literal.newlines := by
  unfold literalText
  split
  · next same => rw [same]; decide
  · next same => rw [same]; decide
  · next same => rw [same]; decide
  · next value same =>
    rw [same, Number.text, String.toList_ofList]
    exact List.count_eq_zero.2 value.newline_notMem_chars
  · next same =>
    rw [same]
    rfl

theorem Token.count_dump (token : Token) :
    token.dump.toList.count '\n' = token.literal.newlines := by
  have kinds : ∀ kind ∈ Kind.all, kind.name.toList.count '\n' = 0 := by decide
  have escaped (text : List Char) : (text.flatMap fun char =>
      if char = '\n' then ['\\', 'n'] else [char]).count '\n' = 0 := by
    refine List.count_eq_zero.2 fun mem => ?_
    obtain ⟨char, _, shown⟩ := List.mem_flatMap.1 mem
    split at shown
    · exact absurd shown (by decide)
    · next other => exact other (List.mem_singleton.1 shown).symm
  have space : " ".toList.count '\n' = 0 := by decide
  simp only [dump, String.toList_append, String.toList_ofList, List.count_append, escaped, space,
    kinds _ (Kind.mem_all _), token.count_literalText, Nat.zero_add]

theorem CommandLine.count_printed (texts : List String) :
    (printed texts).toList.count '\n' =
      texts.length + (texts.map fun text => text.toList.count '\n').sum := by
  have newline : "\n".toList.count '\n' = 1 := by decide
  have lines : (printed texts).toList = texts.flatMap fun text => text.toList ++ "\n".toList := by
    simp [printed, String.toList_join, List.flatMap_map]
  rw [lines]
  clear lines
  induction texts with
  | nil => rfl
  | cons text rest ih =>
      simp only [List.flatMap_cons, List.count_append, newline, List.length_cons, List.map_cons,
        List.sum_cons, ih]
      omega

/-! ## Trees -/

theorem count_intercalate (separator char : Char) (parts : List (List Char)) :
    ([separator].intercalate parts).count char =
      (parts.length - 1) * [separator].count char + (parts.map (List.count char)).sum := by
  induction parts with
  | nil => simp
  | cons part rest ih =>
      cases rest with
      | nil => simp
      | cons next rest =>
          simp only [List.intercalate_cons_cons, List.count_append, ih, List.map_cons,
            List.sum_cons, List.length_cons, Nat.add_sub_cancel, Nat.succ_mul]
          omega

theorem count_parenthesized (parts : List (List Char)) :
    (parenthesized parts).count '\n' = (parts.map (List.count '\n')).sum := by
  simp [parenthesized, count_intercalate]

theorem count_headed {head : String} (mem : head ∈ Outline.heads) (parts : List (List Char)) :
    (parenthesized (head.toList :: parts)).count '\n' = (parts.map (List.count '\n')).sum := by
  have all : ∀ head ∈ Outline.heads, head.toList.count '\n' = 0 := by decide
  rw [count_parenthesized, List.map_cons, List.sum_cons, all head mem, Nat.zero_add]

theorem Value.count_dump (value : Value) : value.dump.count '\n' = value.newlines := by
  cases value with
  | hampa => decide
  | truth value => cases value <;> decide
  | number value =>
      rw [dump_number]
      exact List.count_eq_zero.2 value.newline_notMem_displayChars
  | text value => simp [dump, newlines]

def Value.allNewlines (values : List Value) : Nat := (values.map newlines).sum

@[simp] theorem Value.allNewlines_nil : allNewlines [] = 0 := rfl

@[simp] theorem Value.allNewlines_append (first second : List Value) :
    allNewlines (first ++ second) = allNewlines first + allNewlines second := by
  simp [allNewlines]

def Parts.unbroken : Parts :=
  let unbroken (token : Token) : Prop := token.lexeme.toList.count '\n' = 0
  ⟨fun _ => True, unbroken, unbroken, unbroken⟩

theorem Expr.count_dump {expr : Expr} (made : expr.MadeOf .unbroken) :
    expr.dump.count '\n' = Value.allNewlines expr.literals := by
  induction expr with
  | literal value => exact value.count_dump
  | reference name => exact made
  | grouping inner ih =>
      rw [dump, count_headed (by decide)]
      simp [literals, ih made]
  | unary operator operand ih =>
      have sign : operator.lexeme.toList.count '\n' = 0 := made.1
      simp [dump, count_parenthesized, literals, sign, ih made.2]
  | binary left operator right ih ih' =>
      have sign : operator.lexeme.toList.count '\n' = 0 := made.1
      simp [dump, count_parenthesized, literals, sign, ih made.2.1, ih' made.2.2]
  | assign name value ih =>
      have letters : name.lexeme.toList.count '\n' = 0 := made.1
      rw [dump, count_headed (by decide)]
      simp [literals, letters, ih made.2]

mutual

theorem Stmt.count_dump {stmt : Stmt} (made : stmt.MadeOf .unbroken) :
    stmt.dump.count '\n' = Value.allNewlines stmt.literals := by
  match stmt with
  | .expression value | .spill value =>
      rw [Stmt.dump, count_headed (by decide)]
      simp [Stmt.literals, value.count_dump made]
  | .declare name none =>
      have letters : name.lexeme.toList.count '\n' = 0 := made
      rw [Stmt.dump, count_headed (by decide)]
      simp [Stmt.literals, letters]
  | .declare name (some value) =>
      have letters : name.lexeme.toList.count '\n' = 0 := made.1
      rw [Stmt.dump, count_headed (by decide)]
      simp [Stmt.literals, letters, value.count_dump made.2]
  | .kalo condition body otherwise =>
      rw [Stmt.dump, count_headed (by decide), List.map_cons, List.map_cons, List.sum_cons,
        List.sum_cons, count_headed (by decide), condition.count_dump made.1,
        Block.count_dumps made.2.1, Otherwise.count_dumps made.2.2]
      simp [Stmt.literals]

theorem Otherwise.count_dumps {otherwise : Otherwise} (made : otherwise.MadeOf .unbroken) :
    (otherwise.dumps.map (List.count '\n')).sum = Value.allNewlines otherwise.literals := by
  match otherwise with
  | .nothing => rfl
  | .kalogak body =>
      rw [Otherwise.dumps, List.map_singleton, List.sum_singleton, count_headed (by decide),
        Block.count_dumps made]
      rfl
  | .perhaps condition body otherwise =>
      rw [Otherwise.dumps, List.map_cons, List.sum_cons, count_headed (by decide), List.map_cons,
        List.sum_cons, condition.count_dump made.1, Block.count_dumps made.2.1,
        Otherwise.count_dumps made.2.2]
      simp [Otherwise.literals, Nat.add_assoc]

theorem Block.count_dumps {stmts : List Stmt} (made : Block.MadeOf .unbroken stmts) :
    ((Block.dumps stmts).map (List.count '\n')).sum =
      Value.allNewlines (Block.literals stmts) := by
  match stmts with
  | [] => rfl
  | stmt :: rest =>
      simp [Block.dumps, Block.literals, Stmt.count_dump made.1, Block.count_dumps made.2]

end

/-! ## Programs -/

/-- A program has a line for each statement, and one more for each newline in its literals. -/
theorem Program.count_dumpChars {program : Program}
    (made : Block.MadeOf .unbroken (program.filterMap id)) :
    program.dumpChars.count '\n' =
      program.length - 1 + Value.allNewlines (Block.literals (program.filterMap id)) := by
  have gap : "<error>".toList.count '\n' = 0 := by decide
  have forms : ((program.map fun stmt? =>
      (stmt?.map Stmt.dump).getD "<error>".toList).map (List.count '\n')).sum =
        ((Block.dumps (program.filterMap id)).map (List.count '\n')).sum := by
    clear made
    induction program with
    | nil => rfl
    | cons stmt? rest ih => cases stmt? <;> simp_all [Block.dumps]
  rw [dumpChars, count_intercalate, forms, Block.count_dumps made, List.length_map,
    List.count_singleton_self, Nat.mul_one]

/-! ## Sources -/

theorem Lexed.unbroken (source : String) :
    ∀ token ∈ (ofText source).tokens.items, Parts.unbroken.Admits token := by
  intro token mem
  have lexeme := (starts_of_mem_items mem).2
  have literal := literal_of_mem_items mem
  have operator (kind : token.kind ∈ Kind.unaries ++ Kind.binaries) :
      token.lexeme.toList.count '\n' = 0 := by
    have all : ∀ pair ∈ signs, pair.2 ∈ Kind.unaries ++ Kind.binaries →
        pair.1.count '\n' = 0 := by decide
    exact all _ (lexeme.isOperator literal kind).2.2 kind
  exact {
    literal := fun _ => True.intro
    name := fun kind => List.count_eq_zero.2 fun newline =>
      ((lexeme.isName literal kind).2.1.plain _ newline).1 rfl
    unary := fun kind => operator (List.mem_append_left _ kind)
    binary := fun kind => operator (List.mem_append_right _ kind) }

namespace Session

/-- Each newline in a literal starts a further line in a dump, and nothing else does: but for these
the tokens of a text have a line each, and so have the statements that are read from it. -/
theorem dump_lines (session : Session) (calls : Nat) (source : String) :
    let tokens := (session.tokens source).value.toList
    let program := (session.program calls source).value
    (∀ token : Token, token.dump.toList.count '\n' = token.literal.newlines) ∧
      (CommandLine.printed (tokens.map Token.dump)).toList.count '\n' =
        tokens.length + Value.allNewlines (tokens.map Token.literal) ∧
      program.dumpChars.count '\n' =
        program.length - 1 + Value.allNewlines (Block.literals (program.filterMap id)) := by
  intro tokens program
  refine ⟨Token.count_dump, ?_, Program.count_dumpChars ?_⟩
  · rw [CommandLine.count_printed, List.length_map]
    simp [Value.allNewlines, Token.count_dump, Function.comp_def]
  · exact Parsed.madeOf_tokens _ _ ⟨fun _ => True.intro, True.intro⟩ (Lexed.unbroken source)

/-- A text over two lines takes two lines in both dumps.  Only its lexeme is shown on one. -/
theorem dump_lines_of_text :
    let source := "spill \"a\nb\""
    let tokens := (initial.tokens source).value.toList
    let program := (initial.program 998 source).value
    tokens.map Token.dump = ["SPILL spill None", "STRING \"a\\nb\" a\nb", "EOF  None"] ∧
      (CommandLine.printed (tokens.map Token.dump)).toList.count '\n' ≠ tokens.length ∧
      program.length = 1 ∧ program.dumpChars = "(spill \"a\nb\")".toList ∧
      program.dumpChars.count '\n' ≠ program.length - 1 := by
  decide +kernel

end Session

end BilingualScript
