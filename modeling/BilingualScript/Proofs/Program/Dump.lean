import BilingualScript.Proofs.Number.Texts
import BilingualScript.Proofs.Program.Outline
import BilingualScript.Proofs.Program.Layout
import BilingualScript.Proofs.Program.Parts
import BilingualScript.Proofs.Token.Standing

/-!
# What a dump tells

The dump of a program is the text of one outline for each statement.  A tree can be told from its
outline, but for the places of its tokens, if no text in it has a quote and no number is infinite.
-/

namespace BilingualScript

/-! ## Outlines of trees -/

def Outline.word (text : String) : Outline := .atom text.toList

@[simp] theorem Outline.word_inj {first second : String} :
    word first = word second ↔ first = second := by
  simp [word, String.toList_inj]

theorem Outline.list_word_inj {first second : String} {parts parts' : List Outline} :
    list (word first :: parts) = list (word second :: parts') ↔
      first = second ∧ parts = parts' := by
  simp

def Expr.outline : Expr → Outline
  | .literal value => .atom value.dump
  | .grouping inner => .list [.word "group", inner.outline]
  | .unary operator operand => .list [.word operator.lexeme, operand.outline]
  | .binary left operator right => .list [.word operator.lexeme, left.outline, right.outline]
  | .reference name => .word name.lexeme
  | .assign name value => .list [.word "itu", .word name.lexeme, value.outline]

mutual

def Stmt.outline : Stmt → Outline
  | .expression value => .list [.word ";", value.outline]
  | .spill value => .list [.word "spill", value.outline]
  | .declare name none => .list [.word "literally", .word name.lexeme]
  | .declare name (some initial) => .list [.word "literally", .word name.lexeme, initial.outline]
  | .kalo condition body otherwise =>
    .list (.word "kalo" :: condition.outline :: .list (.word "then" :: Block.outlines body) ::
      otherwise.outlines)

def Otherwise.outlines : Otherwise → List Outline
  | .nothing => []
  | .kalogak body => [.list (.word "kalogak" :: Block.outlines body)]
  | .perhaps condition body otherwise =>
    .list (.word "perhaps" :: condition.outline :: Block.outlines body) :: otherwise.outlines

def Block.outlines : List Stmt → List Outline
  | [] => []
  | stmt :: rest => stmt.outline :: Block.outlines rest

end

@[simp] theorem Expr.write_outline (expr : Expr) : expr.outline.write = expr.dump := by
  induction expr with
  | literal | reference => rfl
  | grouping _ ih | unary _ _ ih | assign _ _ ih =>
      simp [outline, dump, Outline.word, Outline.write, Outline.writeAll, ih]
  | binary _ _ _ ih ih' =>
      simp [outline, dump, Outline.word, Outline.write, Outline.writeAll, ih, ih']

mutual

theorem Stmt.write_outline (stmt : Stmt) : stmt.outline.write = stmt.dump := by
  match stmt with
  | .expression _ | .spill _ | .declare _ none | .declare _ (some _) =>
      simp [Stmt.outline, Stmt.dump, Outline.word, Outline.write, Outline.writeAll]
  | .kalo _ body otherwise =>
      simp [Stmt.outline, Stmt.dump, Outline.word, Outline.write, Outline.writeAll,
        Block.writeAll_outlines body, Otherwise.writeAll_outlines otherwise]

theorem Otherwise.writeAll_outlines (otherwise : Otherwise) :
    Outline.writeAll otherwise.outlines = otherwise.dumps := by
  match otherwise with
  | .nothing => rfl
  | .kalogak body =>
      simp [Otherwise.outlines, Otherwise.dumps, Outline.word, Outline.write, Outline.writeAll,
        Block.writeAll_outlines body]
  | .perhaps _ body otherwise =>
      simp [Otherwise.outlines, Otherwise.dumps, Outline.word, Outline.write, Outline.writeAll,
        Block.writeAll_outlines body, Otherwise.writeAll_outlines otherwise]

theorem Block.writeAll_outlines (stmts : List Stmt) :
    Outline.writeAll (Block.outlines stmts) = Block.dumps stmts := by
  match stmts with
  | [] => rfl
  | stmt :: rest =>
      simp [Block.outlines, Block.dumps, Outline.writeAll, stmt.write_outline,
        Block.writeAll_outlines rest]

end

/-! ## Legible parts -/

def Value.IsLegible : Value → Prop
  | .number value => ∃ rank, value = .finite false rank
  | .text value => '"' ∉ value.toList
  | _ => True

def Token.IsName (token : Token) : Prop :=
  (token.kind = .identifier ∧ token.literal = .hampa) ∧ Word token.lexeme.toList ∧
    ∀ kind, (token.lexeme, kind) ∉ Kind.keywords

def Token.IsOperator (token : Token) : Prop :=
  token.kind ∈ Kind.unaries ++ Kind.binaries ∧ token.literal = .hampa ∧
    (token.lexeme.toList, token.kind) ∈ signs

def Parts.legible : Parts :=
  ⟨Value.IsLegible, Token.IsName, Token.IsOperator, Token.IsOperator⟩

namespace Token

theorem IsName.unplaced_inj {name name' : Token} (isName : name.IsName) (isName' : name'.IsName)
    (same : name.lexeme = name'.lexeme) : name.unplaced = name'.unplaced := by
  obtain ⟨⟨kind, literal⟩, _⟩ := isName
  obtain ⟨⟨kind', literal'⟩, _⟩ := isName'
  simp [unplaced, kind, kind', literal, literal', same]

theorem IsOperator.unplaced_inj {operator operator' : Token} (isOperator : operator.IsOperator)
    (isOperator' : operator'.IsOperator) (same : operator.lexeme = operator'.lexeme) :
    operator.unplaced = operator'.unplaced := by
  obtain ⟨_, literal, sign⟩ := isOperator
  obtain ⟨_, literal', sign'⟩ := isOperator'
  have all : ∀ pair ∈ signs, ∀ other ∈ signs, pair.1 = other.1 → pair.2 = other.2 := by decide
  have kind := all _ sign _ sign' (congrArg String.toList same)
  simp only at kind
  simp [unplaced, kind, literal, literal', same]

end Token

/-! ## Atoms of dumps -/

namespace Outline

def isBare (text : List Char) : Bool := !text.isEmpty && text.all (!delimiters.contains ·)

theorem isAtom_of_class {wanted : Char → Bool} {text : List Char} (nonempty : text ≠ [])
    (others : delimiters.all (!wanted ·) = true) (all : ∀ char ∈ text, wanted char = true) :
    IsAtom text := by
  refine .plain nonempty fun char mem delimits => ?_
  have other := List.all_eq_true.1 others char delimits
  simp [all char mem] at other

theorem isAtom_of_isBare {text : List Char} (bare : isBare text = true) : IsAtom text := by
  rw [isBare, Bool.and_eq_true, List.all_eq_true] at bare
  exact isAtom_of_class (by simpa using bare.1) (by decide) bare.2

end Outline

theorem Word.isAtom {text : List Char} (word : Word text) : Outline.IsAtom text := by
  obtain ⟨letter, continued⟩ := word
  have others : Outline.delimiters.all (!Segment.continuesWord ·) = true := by decide
  refine Outline.isAtom_of_class (List.cons_ne_nil _ _) others ?_
  simp only [continuesWord_iff]
  exact List.forall_mem_cons.2 ⟨.inl letter, continued⟩

theorem Token.IsOperator.isAtom {operator : Token} (isOperator : operator.IsOperator) :
    Outline.IsAtom operator.lexeme.toList ∧ operator.lexeme ∉ ["group", "itu"] := by
  obtain ⟨operates, _, sign⟩ := isOperator
  have all : ∀ pair ∈ signs, pair.2 ∈ Kind.unaries ++ Kind.binaries →
      Outline.isBare pair.1 = true ∧
        pair.1 ∉ [['g', 'r', 'o', 'u', 'p'], ['i', 't', 'u']] := by decide
  obtain ⟨plain, other⟩ := all _ sign operates
  refine ⟨Outline.isAtom_of_isBare plain, fun mem => other ?_⟩
  simpa [← String.toList_inj] using mem

namespace Value

@[simp] theorem dump_number (value : Number) : (number value).dump = value.displayChars := by
  simp [dump, display, Number.display]

theorem isAtom_dump {value : Value} (legible : value.IsLegible) : Outline.IsAtom value.dump := by
  cases value with
  | hampa => exact Outline.isAtom_of_isBare (by decide +kernel)
  | truth value => cases value <;> exact Outline.isAtom_of_isBare (by decide +kernel)
  | text => exact .quoted legible
  | number =>
      obtain ⟨rank, rfl⟩ := legible
      obtain ⟨char, head, _⟩ := Number.head?_displayChars rank
      rw [dump_number]
      have others : Outline.delimiters.all (!Number.isTextChar ·) = true := by decide
      refine Outline.isAtom_of_class ?_ others (List.all_eq_true.1 (Number.all_displayChars rank))
      intro none
      simp [none] at head

theorem dump_number_ne {rank : Fin rankCount} {char : Char} {rest : List Char}
    (other : char.isDigit = false) :
    (number (.finite false rank)).dump ≠ char :: rest := by
  obtain ⟨first, head, digit⟩ := Number.head?_displayChars rank
  intro same
  rw [dump_number] at same
  rw [same] at head
  obtain rfl : char = first := Option.some.inj head
  simp [other] at digit

theorem dump_inj {value value' : Value} (legible : value.IsLegible) (legible' : value'.IsLegible)
    (same : value.dump = value'.dump) : value = value' := by
  have noQuote : ∀ word ∈ [hampa, truth true, truth false], word.dump.head? ≠ some '"' := by decide
  match value, value' with
  | .number _, .number _ =>
      obtain ⟨rank, rfl⟩ := legible
      obtain ⟨rank', rfl⟩ := legible'
      rw [dump_number, dump_number] at same
      rw [Number.displayChars_inj same]
  | .number _, .hampa | .number _, .text _ | .number _, .truth true | .number _, .truth false =>
      obtain ⟨rank, rfl⟩ := legible
      exact absurd same (dump_number_ne (by decide))
  | .hampa, .number _ | .text _, .number _ | .truth true, .number _ | .truth false, .number _ =>
      obtain ⟨rank, rfl⟩ := legible'
      exact absurd same.symm (dump_number_ne (by decide))
  | .text _, .text _ =>
      have chars := List.append_cancel_right (List.cons.inj same).2
      rw [String.toList_inj.1 chars]
  | .hampa, .hampa | .truth true, .truth true | .truth false, .truth false => rfl
  | .hampa, .truth true | .hampa, .truth false | .truth true, .hampa | .truth false, .hampa
  | .truth true, .truth false | .truth false, .truth true => exact absurd same (by decide)
  | .text _, .hampa | .text _, .truth true | .text _, .truth false =>
      exact absurd (congrArg List.head? same.symm) (noQuote _ (by simp))
  | .hampa, .text _ | .truth true, .text _ | .truth false, .text _ =>
      exact absurd (congrArg List.head? same) (noQuote _ (by simp))

end Value

theorem Token.IsName.ne_dump {name : Token} (isName : name.IsName) {value : Value}
    (legible : value.IsLegible) : name.lexeme.toList ≠ value.dump := by
  obtain ⟨_, word, free⟩ := isName
  have notReserved (word : String) (kind : Kind) (reserved : (word, kind) ∈ Kind.keywords) :
      name.lexeme.toList ≠ word.toList := by
    intro same
    rw [String.toList_inj.1 same] at free
    exact free kind reserved
  have starts {char : Char} {rest : List Char} (same : name.lexeme.toList = char :: rest) :
      IsLetter char := by
    rw [same] at word
    obtain ⟨letter, _⟩ := word
    exact letter
  match value with
  | .hampa => exact notReserved "hampa" .hampa (by decide)
  | .truth true => exact notReserved "ril" .ril (by decide)
  | .truth false => exact notReserved "impossible" .impossible (by decide)
  | .text _ =>
      have noLetter : ¬ IsLetter '"' := by
        unfold IsLetter
        decide
      exact fun same => noLetter (starts same)
  | .number _ =>
      obtain ⟨rank, rfl⟩ := legible
      obtain ⟨first, rest, shape⟩ : ∃ first rest, name.lexeme.toList = first :: rest := by
        refine List.exists_cons_of_ne_nil fun none => ?_
        rw [none] at word
        cases word
      have noDigit : first.isDigit = false := by
        simpa using mt (isDigit_iff first).1 (Segment.not_isDigit_of_isLetter (starts shape))
      exact fun same => Value.dump_number_ne noDigit (same.symm.trans shape)

/-! ## Trees -/

theorem Expr.unplaced_of_outline {expr expr' : Expr} (legible : expr.MadeOf .legible)
    (legible' : expr'.MadeOf .legible) (same : expr.outline = expr'.outline) :
    expr.mapTokens Token.unplaced = expr'.mapTokens Token.unplaced := by
  induction expr generalizing expr' with
  | literal value =>
      cases expr' with
      | literal value' => rw [Value.dump_inj legible legible' (Outline.atom.inj same)]
      | reference name =>
          exact absurd (Outline.atom.inj same).symm (Token.IsName.ne_dump legible' legible)
      | _ => simp [outline] at same
  | reference name =>
      cases expr' with
      | literal value =>
          exact absurd (Outline.atom.inj same) (Token.IsName.ne_dump legible legible')
      | reference name' =>
          have letters := String.toList_inj.1 (Outline.atom.inj same)
          exact congrArg reference (Token.IsName.unplaced_inj legible legible' letters)
      | _ => simp [outline, Outline.word] at same
  | grouping inner ih =>
      cases expr' with
      | grouping inner' =>
          simp only [outline, Outline.list_word_inj, List.cons.injEq, and_true, true_and] at same
          exact congrArg grouping (ih legible legible' same)
      | unary operator operand =>
          simp only [outline, Outline.list_word_inj] at same
          exact absurd (by simp [← same.1]) (Token.IsOperator.isAtom legible'.1).2
      | _ => simp [outline, Outline.word] at same
  | unary operator operand ih =>
      cases expr' with
      | grouping inner =>
          simp only [outline, Outline.list_word_inj] at same
          exact absurd (by simp [same.1]) (Token.IsOperator.isAtom legible.1).2
      | unary operator' operand' =>
          simp only [outline, Outline.list_word_inj, List.cons.injEq, and_true] at same
          rw [mapTokens, Token.IsOperator.unplaced_inj legible.1 legible'.1 same.1,
            ih legible.2 legible'.2 same.2, mapTokens]
      | _ => simp [outline, Outline.word] at same
  | binary left operator right ih ih' =>
      cases expr' with
      | binary left' operator' right' =>
          simp only [outline, Outline.list_word_inj, List.cons.injEq, and_true] at same
          rw [mapTokens, Token.IsOperator.unplaced_inj legible.1 legible'.1 same.1,
            ih legible.2.1 legible'.2.1 same.2.1, ih' legible.2.2 legible'.2.2 same.2.2, mapTokens]
      | assign name value =>
          simp only [outline, Outline.list_word_inj] at same
          exact absurd (by simp [same.1]) (Token.IsOperator.isAtom legible.1).2
      | _ => simp [outline, Outline.word] at same
  | assign name value ih =>
      cases expr' with
      | binary left operator right =>
          simp only [outline, Outline.list_word_inj] at same
          exact absurd (by simp [← same.1]) (Token.IsOperator.isAtom legible'.1).2
      | assign name' value' =>
          simp only [outline, Outline.list_word_inj, List.cons.injEq, Outline.word_inj, and_true,
            true_and] at same
          rw [mapTokens, Token.IsName.unplaced_inj legible.1 legible'.1 same.1,
            ih legible.2 legible'.2 same.2, mapTokens]
      | _ => simp [outline, Outline.word] at same

mutual

theorem Stmt.unplaced_of_outline {stmt stmt' : Stmt} (legible : stmt.MadeOf .legible)
    (legible' : stmt'.MadeOf .legible) (same : stmt.outline = stmt'.outline) :
    stmt.mapTokens Token.unplaced = stmt'.mapTokens Token.unplaced := by
  match stmt with
  | .expression value =>
      cases stmt' with
      | expression value' =>
          simp only [Stmt.outline, Outline.list_word_inj, List.cons.injEq, and_true, true_and]
            at same
          exact congrArg Stmt.expression (Expr.unplaced_of_outline legible legible' same)
      | declare name initial => cases initial <;> simp [Stmt.outline] at same
      | _ => simp [Stmt.outline] at same
  | .spill value =>
      cases stmt' with
      | spill value' =>
          simp only [Stmt.outline, Outline.list_word_inj, List.cons.injEq, and_true, true_and]
            at same
          exact congrArg Stmt.spill (Expr.unplaced_of_outline legible legible' same)
      | declare name initial => cases initial <;> simp [Stmt.outline] at same
      | _ => simp [Stmt.outline] at same
  | .declare name none =>
      cases stmt' with
      | declare name' initial =>
          cases initial with
          | none =>
              simp only [Stmt.outline, Outline.list_word_inj, List.cons.injEq, Outline.word_inj,
                and_true, true_and] at same
              rw [Stmt.mapTokens, Token.IsName.unplaced_inj legible legible' same, Stmt.mapTokens]
          | some value => simp [Stmt.outline] at same
      | _ => simp [Stmt.outline] at same
  | .declare name (some value) =>
      cases stmt' with
      | declare name' initial =>
          cases initial with
          | none => simp [Stmt.outline] at same
          | some value' =>
              simp only [Stmt.outline, Outline.list_word_inj, List.cons.injEq, Outline.word_inj,
                and_true, true_and] at same
              rw [Stmt.mapTokens, Token.IsName.unplaced_inj legible.1 legible'.1 same.1,
                Option.map_some, Expr.unplaced_of_outline legible.2 legible'.2 same.2,
                Stmt.mapTokens, Option.map_some]
      | _ => simp [Stmt.outline] at same
  | .kalo condition body otherwise =>
      cases stmt' with
      | kalo condition' body' otherwise' =>
          simp only [Stmt.outline, Outline.list_word_inj, List.cons.injEq, true_and] at same
          obtain ⟨conditions, bodies, others⟩ := same
          rw [Stmt.mapTokens, Expr.unplaced_of_outline legible.1 legible'.1 conditions,
            Block.unplaced_of_outlines legible.2.1 legible'.2.1 bodies,
            Otherwise.unplaced_of_outlines legible.2.2 legible'.2.2 others, Stmt.mapTokens]
      | declare name initial => cases initial <;> simp [Stmt.outline] at same
      | _ => simp [Stmt.outline] at same

theorem Otherwise.unplaced_of_outlines {otherwise otherwise' : Otherwise}
    (legible : otherwise.MadeOf .legible) (legible' : otherwise'.MadeOf .legible)
    (same : otherwise.outlines = otherwise'.outlines) :
    otherwise.mapTokens Token.unplaced = otherwise'.mapTokens Token.unplaced := by
  match otherwise with
  | .nothing =>
      cases otherwise' with
      | nothing => rfl
      | _ => cases same
  | .kalogak body =>
      cases otherwise' with
      | kalogak body' =>
          simp only [Otherwise.outlines, List.cons.injEq, Outline.list_word_inj, and_true, true_and]
            at same
          exact congrArg Otherwise.kalogak (Block.unplaced_of_outlines legible legible' same)
      | _ => simp [Otherwise.outlines] at same
  | .perhaps condition body otherwise =>
      cases otherwise' with
      | perhaps condition' body' otherwise' =>
          simp only [Otherwise.outlines, List.cons.injEq, Outline.list_word_inj, true_and] at same
          obtain ⟨⟨conditions, bodies⟩, others⟩ := same
          rw [Otherwise.mapTokens, Expr.unplaced_of_outline legible.1 legible'.1 conditions,
            Block.unplaced_of_outlines legible.2.1 legible'.2.1 bodies,
            Otherwise.unplaced_of_outlines legible.2.2 legible'.2.2 others, Otherwise.mapTokens]
      | _ => simp [Otherwise.outlines] at same

theorem Block.unplaced_of_outlines {stmts stmts' : List Stmt}
    (legible : Block.MadeOf .legible stmts) (legible' : Block.MadeOf .legible stmts')
    (same : Block.outlines stmts = Block.outlines stmts') :
    Block.mapTokens Token.unplaced stmts = Block.mapTokens Token.unplaced stmts' := by
  match stmts, stmts' with
  | [], [] => rfl
  | stmt :: rest, stmt' :: rest' =>
      obtain ⟨here, behind⟩ := List.cons.inj same
      rw [Block.mapTokens, Stmt.unplaced_of_outline legible.1 legible'.1 here,
        Block.unplaced_of_outlines legible.2 legible'.2 behind, Block.mapTokens]

end

/-! ## Proper outlines -/

namespace Outline

def heads : List String :=
  ["group", "itu", ";", "spill", "literally", "kalo", "then", "kalogak", "perhaps"]

theorem isProper_list {head : Outline} {parts : List Outline} (proper : head.IsProper)
    (proper' : AllProper parts) : (list (head :: parts)).IsProper :=
  ⟨List.cons_ne_nil _ _, proper, proper'⟩

theorem isProper_headed {head : String} (mem : head ∈ heads) {parts : List Outline}
    (proper : AllProper parts) : (list (word head :: parts)).IsProper := by
  have all : heads.all (fun head => isBare head.toList) = true := by decide +kernel
  exact isProper_list (isAtom_of_isBare (List.all_eq_true.1 all head mem)) proper

end Outline

open Outline

theorem Expr.isProper_outline {expr : Expr} (legible : expr.MadeOf .legible) :
    expr.outline.IsProper := by
  induction expr with
  | literal => exact Value.isAtom_dump legible
  | reference => exact legible.2.1.isAtom
  | grouping _ ih =>
      exact isProper_headed (by decide) ⟨ih legible, True.intro⟩
  | unary _ _ ih => exact isProper_list legible.1.isAtom.1 ⟨ih legible.2, True.intro⟩
  | binary _ _ _ ih ih' =>
      exact isProper_list legible.1.isAtom.1 ⟨ih legible.2.1, ih' legible.2.2, True.intro⟩
  | assign _ _ ih =>
      exact isProper_headed (by decide) ⟨legible.1.2.1.isAtom, ih legible.2, True.intro⟩

mutual

theorem Stmt.isProper_outline {stmt : Stmt} (legible : stmt.MadeOf .legible) :
    stmt.outline.IsProper := by
  match stmt with
  | .expression _ | .spill _ =>
      exact isProper_headed (by decide) ⟨Expr.isProper_outline legible, True.intro⟩
  | .declare _ none =>
      exact isProper_headed (by decide) ⟨legible.2.1.isAtom, True.intro⟩
  | .declare _ (some _) =>
      exact isProper_headed (by decide)
        ⟨legible.1.2.1.isAtom, Expr.isProper_outline legible.2, True.intro⟩
  | .kalo _ _ _ =>
      exact isProper_headed (by decide)
        ⟨Expr.isProper_outline legible.1,
          isProper_headed (by decide) (Block.allProper_outlines legible.2.1),
          Otherwise.allProper_outlines legible.2.2⟩

theorem Otherwise.allProper_outlines {otherwise : Otherwise} (legible : otherwise.MadeOf .legible) :
    AllProper otherwise.outlines := by
  match otherwise with
  | .nothing => exact True.intro
  | .kalogak _ =>
      exact ⟨isProper_headed (by decide) (Block.allProper_outlines legible), True.intro⟩
  | .perhaps _ _ _ =>
      exact ⟨isProper_headed (by decide)
          ⟨Expr.isProper_outline legible.1, Block.allProper_outlines legible.2.1⟩,
        Otherwise.allProper_outlines legible.2.2⟩

theorem Block.allProper_outlines {stmts : List Stmt} (legible : Block.MadeOf .legible stmts) :
    AllProper (Block.outlines stmts) := by
  match stmts with
  | [] => exact True.intro
  | _ :: _ => exact ⟨Stmt.isProper_outline legible.1, Block.allProper_outlines legible.2⟩

end

/-! ## Programs -/

theorem Program.dumpChars_map_some (stmts : List Stmt) :
    dumpChars (stmts.map some) = ['\n'].intercalate (writeAll (Block.outlines stmts)) := by
  have lines : (stmts.map some).map (fun stmt? : Option Stmt =>
      (stmt?.map Stmt.dump).getD "<error>".toList) = Block.dumps stmts := by
    induction stmts with
    | nil => rfl
    | cons stmt rest ih => exact congrArg (stmt.dump :: ·) ih
  rw [dumpChars, lines, Block.writeAll_outlines]

theorem Program.mapTokens_map_some (f : Token → Token) (stmts : List Stmt) :
    mapTokens f (stmts.map some) = (Block.mapTokens f stmts).map some := by
  induction stmts with
  | nil => rfl
  | cons stmt rest ih => exact congrArg (some (stmt.mapTokens f) :: ·) ih

/-- Statements without gaps are known from their dump, but for the places of their tokens. -/
theorem Program.unplaced_of_dumpChars {stmts stmts' : List Stmt}
    (legible : Block.MadeOf .legible stmts) (legible' : Block.MadeOf .legible stmts')
    (same : dumpChars (stmts.map some) = dumpChars (stmts'.map some)) :
    Block.mapTokens Token.unplaced stmts = Block.mapTokens Token.unplaced stmts' := by
  rw [dumpChars_map_some, dumpChars_map_some] at same
  have outlines := lines_inj (Block.allProper_outlines legible)
    (Block.allProper_outlines legible') same
  exact Block.unplaced_of_outlines legible legible' outlines

/-! ## Sources -/

/-- Neither a text with a quote in it nor an infinite number. -/
def Value.IsPlain : Value → Prop
  | .number value => value.isInfinite = false
  | .text value => '"' ∉ value.toList
  | _ => True

instance : (value : Value) → Decidable value.IsPlain
  | .number value => inferInstanceAs (Decidable (value.isInfinite = false))
  | .text value => inferInstanceAs (Decidable ('"' ∉ value.toList))
  | .hampa | .truth _ => .isTrue True.intro

theorem Value.isLegible_of_plain {value : Value} (constant : value.IsConstant)
    (plain : value.IsPlain) : value.IsLegible := by
  cases value with
  | hampa | truth => exact True.intro
  | text => exact plain
  | number value =>
      cases value with
      | nan => exact absurd rfl constant.2
      | infinite => cases plain
      | finite negative rank =>
          obtain rfl : negative = false := constant.1
          exact ⟨rank, rfl⟩

theorem Lexeme.isName {token : Token} (lexeme : Lexeme token.kind token.lexeme.toList)
    (literal : token.literal = Lexed.literal token.kind token.lexeme.toList)
    (kind : token.kind = .identifier) : token.IsName := by
  rw [kind] at lexeme literal
  refine ⟨⟨kind, literal⟩, ?_⟩
  generalize shape : token.lexeme.toList = text at lexeme
  cases lexeme with
  | sign sign =>
      have none : ∀ pair ∈ signs, pair.2 ≠ .identifier := by decide
      exact absurd rfl (none _ sign)
  | reserved reserved =>
      have none : ∀ pair ∈ Kind.keywords, pair.2 ≠ .identifier := by decide
      exact absurd rfl (none _ reserved)
  | identifier word free =>
      rw [String.toList_inj.1 shape]
      exact ⟨word, free⟩

theorem Lexeme.isOperator {token : Token} (lexeme : Lexeme token.kind token.lexeme.toList)
    (literal : token.literal = Lexed.literal token.kind token.lexeme.toList)
    (operates : token.kind ∈ Kind.unaries ++ Kind.binaries) : token.IsOperator := by
  have others : ∀ kind ∈ Kind.unaries ++ Kind.binaries,
      kind ∉ [.string, .number, .identifier] ∧ ∀ pair ∈ Kind.keywords, pair.2 ≠ kind := by decide
  obtain ⟨noLiteral, noWord⟩ := others _ operates
  refine ⟨operates, ?_, ?_⟩
  · rw [literal]
    unfold Lexed.literal
    split
    · next kind => simp [kind] at noLiteral
    · next kind => simp [kind] at noLiteral
    · rfl
  · generalize token.lexeme.toList = text at lexeme
    generalize token.kind = kind at lexeme noLiteral noWord
    cases lexeme with
    | sign sign => exact sign
    | reserved reserved => exact absurd rfl (noWord _ reserved)
    | number | quoted | identifier => simp at noLiteral

theorem Parsed.madeOf_legible {room : Nat} {source : String}
    (clean : (ofTokens room (Lexed.ofText source).tokens).faults = [])
    (plain : ∀ token ∈ (Lexed.ofText source).tokens.items, token.literal.IsPlain) :
    ∃ stmts, (ofTokens room (Lexed.ofText source).tokens).program = stmts.map some ∧
      Block.MadeOf .legible stmts := by
  refine madeOf clean ⟨fun _ => True.intro, True.intro⟩ fun token mem => ?_
  have lexeme := (Lexed.starts_of_mem_items mem).2
  have literal := Lexed.literal_of_mem_items mem
  have constant : token.literal.IsConstant := literal ▸ Value.literal_isConstant _ _
  exact {
    literal := fun _ => Value.isLegible_of_plain constant (plain token mem)
    name := lexeme.isName literal
    unary := fun kind => lexeme.isOperator literal (List.mem_append_left _ kind)
    binary := fun kind => lexeme.isOperator literal (List.mem_append_right _ kind) }

/-- The dump determines the program.  Two texts that are read without a fault, that have no quote in
a literal text and no number too large for one, and whose dumps are equal have equal trees, but for
the places of tokens. -/
theorem Parsed.unplaced_of_dump {room room' : Nat} {source source' : String}
    (clean : (ofTokens room (Lexed.ofText source).tokens).faults = [])
    (clean' : (ofTokens room' (Lexed.ofText source').tokens).faults = [])
    (plain : ∀ token ∈ (Lexed.ofText source).tokens.items, token.literal.IsPlain)
    (plain' : ∀ token ∈ (Lexed.ofText source').tokens.items, token.literal.IsPlain)
    (dumps : (ofTokens room (Lexed.ofText source).tokens).program.dumpChars =
      (ofTokens room' (Lexed.ofText source').tokens).program.dumpChars) :
    (ofTokens room (Lexed.ofText source).tokens).program.mapTokens Token.unplaced =
      (ofTokens room' (Lexed.ofText source').tokens).program.mapTokens Token.unplaced := by
  obtain ⟨stmts, same, legible⟩ := madeOf_legible clean plain
  obtain ⟨stmts', same', legible'⟩ := madeOf_legible clean' plain'
  rw [same, same'] at dumps ⊢
  rw [Program.mapTokens_map_some, Program.mapTokens_map_some,
    Program.unplaced_of_dumpChars legible legible' dumps]

/-- Signs of one and of two operands, numbers with and without a fraction, branches, and a text that
looks like the end of one outline and the start of another. -/
theorem Parsed.unplaced_of_dump_of_branches :
    let source := "kalo x - -1.5\nspill 'a)\n(b'\nperhaps y\nkalogak\ny itu !ril\nudahan"
    let source' := "\nkalo x--1.50\nspill \"a)\n(b\"\nperhaps y\n\nkalogak\ny itu!ril\nudahan"
    let parsed (source : String) := ofTokens 989 (Lexed.ofText source).tokens
    let text := "(kalo (- x (- 1.5)) (then (spill \"a)\n(b\")) (perhaps y) " ++
      "(kalogak (; (itu y (! ril)))))"
    (parsed source).faults = [] ∧ (parsed source').faults = [] ∧
      (∀ token ∈ (Lexed.ofText source).tokens.items, token.literal.IsPlain) ∧
      (∀ token ∈ (Lexed.ofText source').tokens.items, token.literal.IsPlain) ∧
      (parsed source).program.dumpChars = text.toList ∧
      (parsed source').program.dumpChars = text.toList ∧
      (parsed source).program.mapTokens Token.unplaced =
        (parsed source').program.mapTokens Token.unplaced := by
  intro source source' parsed text
  have clean : (parsed source).faults = [] := by decide +kernel
  have clean' : (parsed source').faults = [] := by decide +kernel
  have plain : ∀ token ∈ (Lexed.ofText source).tokens.items, token.literal.IsPlain := by
    decide +kernel
  have plain' : ∀ token ∈ (Lexed.ofText source').tokens.items, token.literal.IsPlain := by
    decide +kernel
  have dumped : (parsed source).program.dumpChars = text.toList := by decide +kernel
  have dumped' : (parsed source').program.dumpChars = text.toList := by decide +kernel
  exact ⟨clean, clean', plain, plain', dumped, dumped',
    unplaced_of_dump clean clean' plain plain' (dumped.trans dumped'.symm)⟩

end BilingualScript
