import BilingualScript.Proofs.Reading.Grammar
import Mathlib.Logic.Function.Iterate

/-!
# Tokens of trees

A tree keeps tokens of the text from which it was read, and no others.
-/

namespace BilingualScript

def Expr.tokens : Expr → List Token
  | .literal _ => []
  | .grouping inner => inner.tokens
  | .unary operator operand => operator :: operand.tokens
  | .binary left operator right => left.tokens ++ operator :: right.tokens
  | .reference name => [name]
  | .assign name value => name :: value.tokens

mutual

def Stmt.tokens : Stmt → List Token
  | .expression value | .spill value => value.tokens
  | .declare name none => [name]
  | .declare name (some value) => name :: value.tokens
  | .kalo condition body otherwise =>
    condition.tokens ++ (Block.tokens body ++ otherwise.tokens)

def Otherwise.tokens : Otherwise → List Token
  | .nothing => []
  | .kalogak body => Block.tokens body
  | .perhaps condition body otherwise =>
    condition.tokens ++ (Block.tokens body ++ otherwise.tokens)

def Block.tokens : List Stmt → List Token
  | [] => []
  | stmt :: rest => stmt.tokens ++ Block.tokens rest

end

theorem Expr.mem_tokens_of_token? {expr : Expr} {token : Token} (found : expr.token? = some token) :
    token ∈ expr.tokens := by
  induction expr with
  | literal => cases found
  | grouping _ ih => exact ih found
  | unary | reference | assign =>
      obtain rfl := Option.some.inj found
      exact List.mem_cons_self
  | binary =>
      obtain rfl := Option.some.inj found
      exact List.mem_append_right _ List.mem_cons_self

theorem Expr.token?_eq_none_iff {expr : Expr} :
    expr.token? = none ↔ ∃ count value, expr = Expr.grouping^[count] (.literal value) := by
  constructor
  · intro none
    induction expr with
    | literal value => exact ⟨0, value, rfl⟩
    | grouping inner ih =>
        obtain ⟨count, value, rfl⟩ := ih none
        exact ⟨count + 1, value, (Function.iterate_succ_apply' _ _ _).symm⟩
    | unary | binary | reference | assign => cases none
  · rintro ⟨count, value, rfl⟩
    induction count with
    | zero => rfl
    | succ count ih => rwa [Function.iterate_succ_apply']

namespace Grammar

variable {allTargets : Bool}

/-! ## Phrases -/

def Form.tokens : Form → List Token
  | .further _ left => left.tokens
  | _ => []

theorem Chain.tokens_operand (level : Chain) : level.operand.tokens = [] := by
  cases level <;> rfl

theorem mem_tokens_assigned {target value : Expr} {token : Token}
    (mem : token ∈ (assigned target value).tokens) :
    token ∈ target.tokens ∨ token ∈ value.tokens := by
  cases target with
  | reference name =>
      rcases List.mem_cons.1 mem with rfl | mem
      · exact .inl List.mem_cons_self
      · exact .inr mem
  | _ => exact .inl mem

theorem Phrase.tokens_subset {form : Form} {tokens rest : List Token} {expr : Expr}
    (phrase : Phrase allTargets form tokens rest expr) : expr.tokens ⊆ form.tokens ++ tokens := by
  induction phrase with
  | ril | impossible | hampa | literal => exact List.nil_subset _
  | name => exact List.cons_subset_cons _ (List.nil_subset _)
  | grouping _ _ _ ih => exact List.Subset.trans ih (List.subset_cons_self _ _)
  | primary _ ih | equality _ ih => exact ih
  | unary _ _ ih => exact List.cons_subset_cons _ ih
  | @operands level _ _ _ _ _ phrase _ ih ih' =>
      rw [level.tokens_operand, List.nil_append] at ih
      exact List.Subset.trans ih' (List.append_subset.2 ⟨ih, phrase.suffix.subset⟩)
  | last => exact List.subset_append_left _ _
  | @further level operator left _ _ _ _ _ _ phrase _ ih ih' =>
      rw [level.tokens_operand, List.nil_append] at ih
      have behind := List.subset_cons_of_subset operator phrase.suffix.subset
      refine List.Subset.trans ih' (List.append_subset.2 ⟨List.append_subset.2 ⟨?_, ?_⟩, ?_⟩)
      · exact List.subset_append_left _ _
      · exact List.Subset.trans (List.cons_subset_cons operator ih) (List.subset_append_right _ _)
      · exact List.Subset.trans behind (List.subset_append_right _ _)
  | assignment phrase _ _ _ ih ih' =>
      intro token mem
      rcases mem_tokens_assigned mem with mem | mem
      · exact ih mem
      · exact phrase.suffix.subset (List.mem_cons_of_mem _ (ih' mem))

/-! ## Statements -/

theorem Phrase.tokens_subset_behind {tokens rest : List Token} {expr : Expr}
    (phrase : Phrase allTargets .assignment tokens rest expr) (words : List Token) :
    expr.tokens ⊆ words ++ tokens :=
  List.Subset.trans phrase.tokens_subset (List.subset_append_right _ _)

mutual

theorem Statement.tokens_subset {tokens rest : List Token} {stmt : Stmt}
    (statement : Statement allTargets tokens rest stmt) : stmt.tokens ⊆ tokens := by
  match tokens, rest, stmt, statement with
  | _, _, _, .expression phrase _ => exact phrase.tokens_subset
  | _, _, _, @Statement.spill _ word _ _ _ _ _ phrase _ =>
      exact phrase.tokens_subset_behind [word]
  | _, _, _, @Statement.declare _ word name _ _ _ _ _ =>
      exact List.Subset.trans (List.cons_subset_cons name (List.nil_subset _))
        (List.subset_cons_self word _)
  | _, _, _, @Statement.declareAs _ word name itu _ _ _ _ _ _ _ phrase _ =>
      refine List.cons_subset.2 ⟨by simp, ?_⟩
      exact phrase.tokens_subset_behind [word, name, itu]
  | _, _, _, @Statement.kalo _ word _ _ _ _ _ _ _ _ _ _ _ phrase _ body others _ _ =>
      have inner := List.subset_cons_of_subset word
        (List.Subset.trans (List.subset_cons_self _ _) phrase.suffix.subset)
      have behind := List.Subset.trans (Lines.suffix body).subset inner
      exact List.append_subset.2 ⟨phrase.tokens_subset_behind [word],
        List.append_subset.2 ⟨List.Subset.trans (Lines.tokens_subset body) inner,
          List.Subset.trans (Branches.tokens_subset others) behind⟩⟩

theorem Branches.tokens_subset {tokens rest : List Token} {otherwise : Otherwise}
    (branches : Branches allTargets tokens rest otherwise) : otherwise.tokens ⊆ tokens := by
  match tokens, rest, otherwise, branches with
  | _, _, _, .nothing => exact List.nil_subset _
  | _, _, _, @Branches.kalogak _ word newline _ _ _ _ _ body =>
      exact List.Subset.trans (Lines.tokens_subset body)
        (List.subset_append_right [word, newline] _)
  | _, _, _, @Branches.perhaps _ word _ _ _ _ _ _ _ _ _ phrase _ body others =>
      have inner := List.subset_cons_of_subset word
        (List.Subset.trans (List.subset_cons_self _ _) phrase.suffix.subset)
      have behind := List.Subset.trans (Lines.suffix body).subset inner
      exact List.append_subset.2 ⟨phrase.tokens_subset_behind [word],
        List.append_subset.2 ⟨List.Subset.trans (Lines.tokens_subset body) inner,
          List.Subset.trans (Branches.tokens_subset others) behind⟩⟩

theorem Lines.tokens_subset {tokens rest : List Token} {stmts : List Stmt}
    (lines : Lines allTargets tokens rest stmts) : Block.tokens stmts ⊆ tokens := by
  match tokens, rest, stmts, lines with
  | _, _, _, .nil => exact List.nil_subset _
  | _, _, _, .blank _ behind =>
      exact List.subset_cons_of_subset _ (Lines.tokens_subset behind)
  | _, _, _, .cons statement behind =>
      exact List.append_subset.2 ⟨Statement.tokens_subset statement,
        List.Subset.trans (Lines.tokens_subset behind) (Statement.suffix statement).subset⟩

end

end Grammar

end BilingualScript
