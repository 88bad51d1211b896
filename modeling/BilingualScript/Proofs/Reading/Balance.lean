import BilingualScript.Proofs.Reading.Grammar

/-!
# Balance

In a sentence each word `kalo` is followed by its word `udahan`.  So a newline ends a statement of
the sentence itself just where as many words `udahan` as words `kalo` stand in front of it, and
there the sentence can be taken apart.
-/

namespace BilingualScript

/-- How many more words `kalo` than words `udahan` there are. -/
def surplus (tokens : List Token) : Int :=
  (tokens.map Token.kind).count .kalo - (tokens.map Token.kind).count .udahan

@[simp] theorem surplus_nil : surplus [] = 0 := rfl

@[simp] theorem surplus_append (first second : List Token) :
    surplus (first ++ second) = surplus first + surplus second := by
  simp only [surplus, List.map_append, List.count_append]
  omega

theorem surplus_cons (token : Token) (rest : List Token) :
    surplus (token :: rest) = surplus [token] + surplus rest :=
  surplus_append [token] rest

theorem surplus_of_kalo {token : Token} (kind : token.kind = .kalo) : surplus [token] = 1 := by
  simp [surplus, kind]

theorem surplus_of_udahan {token : Token} (kind : token.kind = .udahan) :
    surplus [token] = -1 := by
  simp [surplus, kind]

theorem surplus_of_other {token : Token} (kalo : token.kind ≠ .kalo)
    (udahan : token.kind ≠ .udahan) : surplus [token] = 0 := by
  simp [surplus, kalo, udahan]

def Balanced (tokens : List Token) : Prop :=
  surplus tokens = 0 ∧ ∀ start behind, tokens = start ++ behind → 0 ≤ surplus start

theorem balanced_nil : Balanced [] := by
  refine ⟨rfl, fun start behind parts => ?_⟩
  obtain ⟨rfl, _⟩ := List.append_eq_nil_iff.1 parts.symm
  exact Int.le_refl 0

theorem Balanced.append {first second : List Token} (balanced : Balanced first)
    (balanced' : Balanced second) : Balanced (first ++ second) := by
  refine ⟨by rw [surplus_append, balanced.1, balanced'.1]; rfl, fun start behind parts => ?_⟩
  obtain ⟨more, rfl, _⟩ | ⟨more, same, _⟩ := List.append_eq_append_iff.1 parts
  · have := balanced'.2 more behind (by assumption)
    rw [surplus_append, balanced.1]
    omega
  · exact balanced.2 start more same

theorem balanced_singleton {token : Token} (kalo : token.kind ≠ .kalo)
    (udahan : token.kind ≠ .udahan) : Balanced [token] := by
  have none := surplus_of_other kalo udahan
  refine ⟨none, fun start behind parts => ?_⟩
  cases start with
  | nil => exact Int.le_refl 0
  | cons head start =>
      obtain ⟨rfl, rest⟩ := List.cons.inj parts
      obtain ⟨rfl, _⟩ := List.append_eq_nil_iff.1 rest.symm
      exact Int.le_of_eq none.symm

theorem Balanced.cons {token : Token} {rest : List Token} (kalo : token.kind ≠ .kalo)
    (udahan : token.kind ≠ .udahan) (balanced : Balanced rest) : Balanced (token :: rest) :=
  (balanced_singleton kalo udahan).append balanced

theorem balanced_of_forall {tokens : List Token}
    (neither : ∀ token ∈ tokens, token.kind ≠ .kalo ∧ token.kind ≠ .udahan) :
    Balanced tokens := by
  induction tokens with
  | nil => exact balanced_nil
  | cons token rest ih =>
      obtain ⟨head, tail⟩ := List.forall_mem_cons.1 neither
      exact (ih tail).cons head.1 head.2

theorem Balanced.surplus_pos {inner start behind : List Token} {kalo udahan : Token}
    (balanced : Balanced inner) (opens : kalo.kind = .kalo)
    (parts : kalo :: (inner ++ [udahan]) = start ++ behind) (nonempty : start ≠ [])
    (proper : behind ≠ []) : 0 < surplus start := by
  obtain ⟨_, start, rfl⟩ := List.exists_cons_of_ne_nil nonempty
  obtain ⟨rfl, tail⟩ := List.cons.inj parts
  rw [surplus_cons, surplus_of_kalo opens]
  obtain ⟨more, rfl, rest⟩ | ⟨more, same, _⟩ := List.append_eq_append_iff.1 tail
  · have none : more = [] := by
      cases more with
      | nil => rfl
      | cons _ more =>
          obtain ⟨_, rest⟩ := List.cons.inj rest
          exact absurd (List.append_eq_nil_iff.1 rest.symm).2 proper
    rw [none, List.append_nil, balanced.1]
    decide
  · have := balanced.2 start more same
    omega

theorem Balanced.enclosed {inner : List Token} {kalo udahan : Token} (balanced : Balanced inner)
    (opens : kalo.kind = .kalo) (closes : udahan.kind = .udahan) :
    Balanced (kalo :: (inner ++ [udahan])) := by
  have whole : surplus (kalo :: (inner ++ [udahan])) = 0 := by
    rw [surplus_cons, surplus_append, surplus_of_kalo opens, surplus_of_udahan closes, balanced.1]
    rfl
  refine ⟨whole, fun start behind parts => ?_⟩
  by_cases nonempty : start = []
  · subst nonempty
    exact Int.le_refl 0
  by_cases proper : behind = []
  · subst proper
    rw [List.append_nil] at parts
    rw [← parts]
    exact Int.le_of_eq whole.symm
  exact Int.le_of_lt (balanced.surplus_pos opens parts nonempty proper)

namespace Grammar

variable {allTargets : Bool}

/-! ## What a phrase takes -/

theorem Chain.operator_kind (level : Chain) :
    ∀ kind ∈ level.operators, kind ≠ .newline ∧ kind ≠ .kalo ∧ kind ≠ .udahan := by
  cases level <;> decide

/-- A phrase takes tokens of its own, and takes them in front of others as well. -/
theorem Phrase.frame {form : Form} {tokens rest : List Token} {expr : Expr}
    (phrase : Phrase allTargets form tokens rest expr) :
    ∃ front, tokens = front ++ rest ∧
      (∀ token ∈ front, token.kind ≠ .newline ∧ token.kind ≠ .kalo ∧ token.kind ≠ .udahan) ∧
      ∀ other, Phrase allTargets form (front ++ other) other expr := by
  induction phrase with
  | @ril token _ kind => exact ⟨[token], rfl, by simp [kind], fun _ => .ril kind⟩
  | @impossible token _ kind => exact ⟨[token], rfl, by simp [kind], fun _ => .impossible kind⟩
  | @hampa token _ kind => exact ⟨[token], rfl, by simp [kind], fun _ => .hampa kind⟩
  | @literal token _ kind =>
      exact ⟨[token], rfl, by rcases kind with kind | kind <;> simp [kind], fun _ => .literal kind⟩
  | @name token _ kind => exact ⟨[token], rfl, by simp [kind], fun _ => .name kind⟩
  | @grouping opening closing _ _ _ kind _ kind' ih =>
      obtain ⟨front, rfl, kinds, framed⟩ := ih
      refine ⟨opening :: (front ++ [closing]), by simp, ?_, fun other => ?_⟩
      · simp only [List.forall_mem_cons, List.forall_mem_append]
        exact ⟨by simp [kind], kinds, by simp [kind']⟩
      · simpa using Phrase.grouping kind (framed (closing :: other)) kind'
  | primary _ ih =>
      obtain ⟨front, same, kinds, framed⟩ := ih
      exact ⟨front, same, kinds, fun other => .primary (framed other)⟩
  | @unary operator _ _ _ operates _ ih =>
      obtain ⟨front, rfl, kinds, framed⟩ := ih
      refine ⟨operator :: front, rfl, List.forall_mem_cons.2 ⟨?_, kinds⟩, fun other =>
        .unary operates (framed other)⟩
      rcases operates with kind | kind <;> simp [kind]
  | operands _ _ ih ih' =>
      obtain ⟨front, rfl, kinds, framed⟩ := ih
      obtain ⟨front', rfl, kinds', framed'⟩ := ih'
      refine ⟨front ++ front', by simp, List.forall_mem_append.2 ⟨kinds, kinds'⟩, fun other => ?_⟩
      rw [List.append_assoc]
      exact .operands (framed _) (framed' other)
  | last => exact ⟨[], rfl, by simp, fun _ => .last⟩
  | @further level operator _ _ _ _ _ _ operates _ _ ih ih' =>
      obtain ⟨front, rfl, kinds, framed⟩ := ih
      obtain ⟨front', rfl, kinds', framed'⟩ := ih'
      refine ⟨operator :: (front ++ front'), by simp, List.forall_mem_cons.2 ⟨?_,
        List.forall_mem_append.2 ⟨kinds, kinds'⟩⟩, fun other => ?_⟩
      · exact level.operator_kind _ operates
      · rw [List.cons_append, List.append_assoc]
        exact .further operates (framed _) (framed' other)
  | equality _ ih =>
      obtain ⟨front, same, kinds, framed⟩ := ih
      exact ⟨front, same, kinds, fun other => .equality (framed other)⟩
  | @assignment itu _ _ _ _ _ _ kind _ names ih ih' =>
      obtain ⟨front, rfl, kinds, framed⟩ := ih
      obtain ⟨front', rfl, kinds', framed'⟩ := ih'
      refine ⟨front ++ itu :: front', by simp, List.forall_mem_append.2 ⟨kinds,
        List.forall_mem_cons.2 ⟨by simp [kind], kinds'⟩⟩, fun other => ?_⟩
      rw [List.append_assoc, List.cons_append]
      exact .assignment (framed _) kind (framed' other) names

theorem Phrase.frame_balanced {form : Form} {tokens rest : List Token} {expr : Expr}
    (phrase : Phrase allTargets form tokens rest expr) :
    ∃ front, tokens = front ++ rest ∧ Balanced front ∧
      (∀ token ∈ front, token.kind ≠ .newline) ∧
      ∀ other, Phrase allTargets form (front ++ other) other expr := by
  obtain ⟨front, same, kinds, framed⟩ := phrase.frame
  exact ⟨front, same, balanced_of_forall fun token mem => (kinds token mem).2,
    fun token mem => (kinds token mem).1, framed⟩

/-! ## What statements take -/

/-- Newlines inside a statement stand where there is a surplus. -/
def NewlinesInside (front : List Token) : Prop :=
  ∀ start newline behind, front = start ++ newline :: behind → newline.kind = .newline →
    0 < surplus start

theorem newlinesInside_of_none {front : List Token}
    (none : ∀ token ∈ front, token.kind ≠ .newline) : NewlinesInside front := by
  rintro start newline behind rfl kind
  exact absurd kind (none newline (by simp))

/-- A statement up to its end takes tokens of its own, with newlines inside if statements only. -/
structure Framed (allTargets : Bool) (stmt : Stmt) (front : List Token) : Prop where
  framed : ∀ ending rest, End ending rest → Statement allTargets (front ++ ending) rest stmt
  balanced : Balanced front
  inside : NewlinesInside front

theorem framed_of_phrase {stmt : Stmt} {middle ending rest : List Token} {value : Expr}
    (words : List Token)
    (phrase : Phrase allTargets .assignment middle ending value) (ends : End ending rest)
    (kinds : ∀ token ∈ words, token.kind ≠ .newline ∧ token.kind ≠ .kalo ∧ token.kind ≠ .udahan)
    (framed : ∀ tokens ending rest, Phrase allTargets .assignment tokens ending value →
      End ending rest → Statement allTargets (words ++ tokens) rest stmt) :
    ∃ front ending, words ++ middle = front ++ ending ∧ End ending rest ∧
      Framed allTargets stmt front := by
  obtain ⟨front, rfl, kinds', framed'⟩ := phrase.frame
  have all := List.forall_mem_append.2 ⟨kinds, kinds'⟩
  refine ⟨words ++ front, ending, (List.append_assoc _ _ _).symm, ends, fun ending rest ends => ?_,
    balanced_of_forall fun token mem => (all token mem).2,
    newlinesInside_of_none fun token mem => (all token mem).1⟩
  rw [List.append_assoc]
  exact framed _ _ _ (framed' ending) ends

mutual

theorem Statement.frame {tokens rest : List Token} {stmt : Stmt}
    (statement : Statement allTargets tokens rest stmt) :
    ∃ front ending, tokens = front ++ ending ∧ End ending rest ∧ Framed allTargets stmt front := by
  match tokens, rest, stmt, statement with
  | _, _, _, .expression phrase ends =>
      exact framed_of_phrase [] phrase ends (by simp) fun _ _ _ => .expression
  | _, _, _, @Statement.spill _ word _ _ _ _ kind phrase ends =>
      exact framed_of_phrase [word] phrase ends (by simp [kind]) fun _ _ _ => .spill kind
  | _, _, _, @Statement.declare _ word name ending _ kind named ends =>
      refine ⟨[word, name], ending, rfl, ends, fun _ _ => .declare kind named, ?_, ?_⟩
      · exact balanced_of_forall (by simp [kind, named])
      · exact newlinesInside_of_none (by simp [kind, named])
  | _, _, _, @Statement.declareAs _ word name itu _ _ _ _ kind named itu_kind phrase ends =>
      exact framed_of_phrase [word, name, itu] phrase ends
        (by simp [kind, named, itu_kind]) fun _ _ _ => .declareAs kind named itu_kind
  | _, _, _, @Statement.kalo _ word newline udahan _ _ _ closing _ _ _ _ kind phrase newline_kind
      body others udahan_kind ends =>
      obtain ⟨front, rfl, balanced, _, framed⟩ := phrase.frame_balanced
      obtain ⟨others_front, rfl, others_balanced, others_framed⟩ :=
        Branches.frame others (List.cons_ne_nil _ _)
      obtain ⟨body_front, rfl, body_balanced, body_framed⟩ :=
        Lines.frame body (by simp)
      have inner : Balanced (front ++ newline :: (body_front ++ others_front)) :=
        balanced.append ((body_balanced.append others_balanced).cons (by simp [newline_kind])
          (by simp [newline_kind]))
      refine ⟨word :: ((front ++ newline :: (body_front ++ others_front)) ++ [udahan]), closing,
        by simp, ends, fun ending rest ends => ?_, inner.enclosed kind udahan_kind, ?_⟩
      · have whole := Statement.kalo kind (framed _) newline_kind (body_framed _)
          (others_framed (udahan :: ending)) udahan_kind ends
        simpa using whole
      · rintro start other behind parts other_kind
        refine inner.surplus_pos kind parts ?_ (List.cons_ne_nil _ _)
        rintro rfl
        obtain ⟨rfl, _⟩ := List.cons.inj parts
        rw [kind] at other_kind
        cases other_kind

theorem Branches.frame {tokens rest : List Token} {otherwise : Otherwise}
    (branches : Branches allTargets tokens rest otherwise) (nonempty : rest ≠ []) :
    ∃ front, tokens = front ++ rest ∧ Balanced front ∧
      ∀ other, Branches allTargets (front ++ other) other otherwise := by
  match tokens, rest, otherwise, branches with
  | _, _, _, .nothing => exact ⟨[], rfl, balanced_nil, fun _ => .nothing⟩
  | _, _, _, @Branches.kalogak _ word newline _ _ _ kind newline_kind body =>
      obtain ⟨front, rfl, balanced, framed⟩ := Lines.frame body nonempty
      refine ⟨word :: newline :: front, rfl, ?_, fun other =>
        .kalogak kind newline_kind (framed other)⟩
      exact (balanced.cons (by simp [newline_kind]) (by simp [newline_kind])).cons (by simp [kind])
        (by simp [kind])
  | _, rest, _, @Branches.perhaps _ word newline _ _ _ _ _ _ _ kind phrase newline_kind body
      others =>
      obtain ⟨front, rfl, balanced, _, framed⟩ := phrase.frame_balanced
      obtain ⟨others_front, rfl, others_balanced, others_framed⟩ := Branches.frame others nonempty
      obtain ⟨body_front, rfl, body_balanced, body_framed⟩ :=
        Lines.frame body (by simp [nonempty])
      refine ⟨word :: (front ++ newline :: (body_front ++ others_front)), by simp, ?_,
        fun other => ?_⟩
      · exact (balanced.append ((body_balanced.append others_balanced).cons
          (by simp [newline_kind]) (by simp [newline_kind]))).cons (by simp [kind]) (by simp [kind])
      · have whole := Branches.perhaps kind (framed _) newline_kind (body_framed _)
          (others_framed other)
        simpa using whole

theorem Lines.frame {tokens rest : List Token} {stmts : List Stmt}
    (lines : Lines allTargets tokens rest stmts) (nonempty : rest ≠ []) :
    ∃ front, tokens = front ++ rest ∧ Balanced front ∧
      ∀ other, Lines allTargets (front ++ other) other stmts := by
  match tokens, rest, stmts, lines with
  | _, _, _, .nil => exact ⟨[], rfl, balanced_nil, fun _ => .nil⟩
  | _, _, _, @Lines.blank _ newline _ _ _ kind behind =>
      obtain ⟨front, rfl, balanced, framed⟩ := Lines.frame behind nonempty
      exact ⟨newline :: front, rfl, balanced.cons (by simp [kind]) (by simp [kind]), fun other =>
        .blank kind (framed other)⟩
  | _, _, _, .cons statement behind =>
      obtain ⟨front, ending, rfl, ends, framed⟩ := Statement.frame statement
      obtain ⟨behind_front, same, balanced, behind_framed⟩ := Lines.frame behind nonempty
      cases ends with
      | stop => exact absurd (List.append_eq_nil_iff.1 same.symm).2 nonempty
      | @newline newline _ kind =>
          refine ⟨front ++ newline :: behind_front, by simp [same], ?_, fun other => ?_⟩
          · exact framed.balanced.append (balanced.cons (by simp [kind]) (by simp [kind]))
          · rw [List.append_assoc, List.cons_append]
            exact .cons (framed.framed _ _ (.newline kind)) (behind_framed other)

end

/-! ## Taking sentences apart -/

theorem lines_cases {tokens : List Token} {stmts : List Stmt}
    (lines : Lines allTargets tokens [] stmts) :
    (tokens = [] ∧ stmts = []) ∨
      (∃ newline rest, tokens = newline :: rest ∧ newline.kind = .newline ∧
        Lines allTargets rest [] stmts) ∨
      ∃ front ending middle stmt rest, tokens = front ++ ending ∧ End ending middle ∧
        Framed allTargets stmt front ∧ Lines allTargets middle [] rest ∧ stmts = stmt :: rest := by
  cases lines with
  | nil => exact .inl ⟨rfl, rfl⟩
  | blank kind behind => exact .inr (.inl ⟨_, _, rfl, kind, behind⟩)
  | cons statement behind =>
      obtain ⟨front, ending, same, ends, framed⟩ := statement.frame
      exact .inr (.inr ⟨front, ending, _, _, _, same, ends, framed, behind, rfl⟩)

theorem Lines.surplus_eq_zero {tokens : List Token} {stmts : List Stmt}
    (lines : Lines allTargets tokens [] stmts) : surplus tokens = 0 := by
  induction length : tokens.length using Nat.strongRecOn generalizing tokens stmts with
  | ind length ih =>
      subst length
      rcases lines_cases lines with ⟨rfl, _⟩ | blank | statement
      · rfl
      · obtain ⟨newline, rest, rfl, kind, lines⟩ := blank
        rw [surplus_cons, ih _ (Nat.lt_succ_self _) lines rfl,
          surplus_of_other (by simp [kind]) (by simp [kind])]
        rfl
      · obtain ⟨front, ending, middle, _, _, rfl, ends, framed, after, _⟩ := statement
        rw [surplus_append, framed.balanced.1, Int.zero_add]
        cases ends with
        | stop => rfl
        | @newline newline _ kind =>
            have shorter : middle.length < (front ++ newline :: middle).length := by
              rw [List.length_append, List.length_cons]
              omega
            rw [surplus_cons, ih _ shorter after rfl,
              surplus_of_other (by simp [kind]) (by simp [kind])]
            rfl

theorem newline_cases {start behind front ending middle : List Token} {newline : Token}
    (parts : start ++ newline :: behind = front ++ ending) (ends : End ending middle) :
    (∃ inner, front = start ++ newline :: inner) ∨ (start = front ∧ middle = behind) ∨
      ∃ other more, start = front ++ other :: more ∧ other.kind = .newline ∧
        middle = more ++ newline :: behind := by
  cases ends with
  | stop =>
      rw [List.append_nil] at parts
      exact .inl ⟨behind, parts.symm⟩
  | @newline other _ kind =>
      obtain ⟨inner, same, rest⟩ | ⟨more, same, rest⟩ := List.append_eq_append_iff.1 parts
      · cases inner with
        | nil => exact .inr (.inl ⟨by simpa using same.symm, (List.cons.inj rest).2.symm⟩)
        | cons _ inner =>
            obtain ⟨rfl, _⟩ := List.cons.inj rest
            exact .inl ⟨inner, same⟩
      · cases more with
        | nil => exact .inr (.inl ⟨by simpa using same, (List.cons.inj rest).2⟩)
        | cons _ more =>
            obtain ⟨rfl, behind⟩ := List.cons.inj rest
            exact .inr (.inr ⟨_, more, same, kind, behind⟩)

/-- Where there is no surplus in front of a newline, the newline takes a sentence apart. -/
theorem Lines.split {start behind : List Token} {newline : Token} {stmts : List Stmt}
    (lines : Lines allTargets (start ++ newline :: behind) [] stmts)
    (kind : newline.kind = .newline) (level : surplus start ≤ 0) :
    ∃ first second, stmts = first ++ second ∧ Lines allTargets start [] first ∧
      Lines allTargets behind [] second ∧ surplus start = 0 := by
  induction length : start.length using Nat.strongRecOn generalizing start stmts with
  | ind length ih =>
      subst length
      rcases lines_cases lines with ⟨empty, _⟩ | blank | statement
      · exact absurd (List.append_eq_nil_iff.1 empty).2 (List.cons_ne_nil _ _)
      · obtain ⟨other, rest, parts, other_kind, lines⟩ := blank
        cases start with
        | nil =>
            obtain ⟨_, rfl⟩ := List.cons.inj parts
            exact ⟨[], stmts, rfl, .nil, lines, rfl⟩
        | cons head start =>
            obtain ⟨rfl, rfl⟩ := List.cons.inj parts
            have none : surplus [head] = 0 :=
              surplus_of_other (by simp [other_kind]) (by simp [other_kind])
            rw [surplus_cons, none, Int.zero_add] at level ⊢
            obtain ⟨first, second, same, before, behind, zero⟩ :=
              ih _ (Nat.lt_succ_self _) lines level rfl
            exact ⟨first, second, same, .blank other_kind before, behind, zero⟩
      · obtain ⟨front, ending, middle, stmt, rest, parts, ends, framed, after, rfl⟩ := statement
        rcases newline_cases parts ends with inside | ⟨rfl, rfl⟩ | later
        · obtain ⟨inner, same⟩ := inside
          exact absurd (framed.inside _ _ _ same kind) (Int.not_lt.2 level)
        · have alone := framed.framed _ _ .stop
          rw [List.append_nil] at alone
          exact ⟨[stmt], rest, rfl, .cons alone .nil, after, framed.balanced.1⟩
        · obtain ⟨other, more, rfl, other_kind, rfl⟩ := later
          have none : surplus [other] = 0 :=
            surplus_of_other (by simp [other_kind]) (by simp [other_kind])
          rw [surplus_append, surplus_cons, framed.balanced.1, none, Int.zero_add, Int.zero_add]
            at level ⊢
          have shorter : more.length < (front ++ other :: more).length := by
            rw [List.length_append, List.length_cons]
            omega
          obtain ⟨first, second, rfl, before, behind, zero⟩ := ih _ shorter after level rfl
          exact ⟨stmt :: first, second, rfl,
            .cons (framed.framed _ _ (.newline other_kind)) before, behind, zero⟩

end Grammar

end BilingualScript
