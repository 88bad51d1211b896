import BilingualScript.Proofs.Reading.Balance

/-!
# How far if statements extend

In front of a place in a sentence there are more words `kalo` than words `udahan` just where an if
statement of the sentence itself has begun there and has not yet come to its end.
-/

namespace BilingualScript.Grammar

variable {allTargets : Bool}

/-- The first and the last word of an if statement that is not inside another one. -/
inductive Outermost (allTargets : Bool) : List Token → Token → Token → Prop
  | here {kalo newline udahan tokens inner behind closing rest condition body otherwise} :
      kalo.kind = .kalo → Phrase allTargets .assignment tokens (newline :: inner) condition →
      newline.kind = .newline → Lines allTargets inner behind body →
      Branches allTargets behind (udahan :: closing) otherwise → udahan.kind = .udahan →
      End closing rest → Outermost allTargets (kalo :: tokens) kalo udahan
  | blank {newline rest kalo udahan} : newline.kind = .newline →
      Outermost allTargets rest kalo udahan → Outermost allTargets (newline :: rest) kalo udahan
  | behind {tokens rest stmt kalo udahan} : Statement allTargets tokens rest stmt →
      Outermost allTargets rest kalo udahan → Outermost allTargets tokens kalo udahan

structure Enclosed (tokens : List Token) (kalo udahan : Token) : Prop where
  opens : kalo.kind = .kalo
  closes : udahan.kind = .udahan
  parts : ∃ inner, tokens = kalo :: (inner ++ [udahan]) ∧ Balanced inner

theorem Enclosed.balanced {tokens : List Token} {kalo udahan : Token}
    (enclosed : Enclosed tokens kalo udahan) : Balanced tokens := by
  obtain ⟨opens, closes, inner, rfl, balanced⟩ := enclosed
  exact balanced.enclosed opens closes

theorem Enclosed.split {start behind : List Token} {kalo udahan : Token}
    (enclosed : Enclosed (start ++ behind) kalo udahan) (surplusIn : 0 < surplus start) :
    kalo ∈ start ∧ udahan ∈ behind := by
  have whole := enclosed.balanced.1
  obtain ⟨_, _, inner, parts, _⟩ := enclosed
  constructor
  · cases start with
    | nil => exact absurd surplusIn (Int.lt_irrefl 0)
    | cons first start => simp [(List.cons.inj parts).1]
  · rcases List.eq_nil_or_concat behind with rfl | ⟨behind, last, rfl⟩
    · rw [List.append_nil] at whole
      exact absurd whole (Int.ne_of_gt surplusIn)
    · rw [List.concat_eq_append, ← List.append_assoc, ← List.cons_append] at parts
      simp [List.append_inj_right' parts rfl]

theorem frame_kalo {kalo newline udahan : Token} {tokens inner behind closing : List Token}
    {condition : Expr} {body : List Stmt} {otherwise : Otherwise} (opens : kalo.kind = .kalo)
    (phrase : Phrase allTargets .assignment tokens (newline :: inner) condition)
    (kind : newline.kind = .newline) (lines : Lines allTargets inner behind body)
    (branches : Branches allTargets behind (udahan :: closing) otherwise)
    (closes : udahan.kind = .udahan) :
    ∃ front, kalo :: tokens = front ++ closing ∧ Enclosed front kalo udahan := by
  obtain ⟨front, rfl, balanced, _⟩ := phrase.frame_balanced
  obtain ⟨others, rfl, balanced', _⟩ := branches.frame (List.cons_ne_nil _ _)
  obtain ⟨body, rfl, balanced'', _⟩ := lines.frame (by simp)
  have inner : Balanced (front ++ newline :: (body ++ others)) :=
    balanced.append ((balanced''.append balanced').cons (by simp [kind]) (by simp [kind]))
  exact ⟨kalo :: ((front ++ newline :: (body ++ others)) ++ [udahan]), by simp,
    opens, closes, _, rfl, inner⟩

def Plain (tokens : List Token) : Prop :=
  ∀ token ∈ tokens, token.kind ≠ .kalo ∧ token.kind ≠ .udahan

theorem Statement.extent {tokens rest : List Token} {stmt : Stmt}
    (statement : Statement allTargets tokens rest stmt) :
    ∃ front ending, tokens = front ++ ending ∧ End ending rest ∧
      (Plain front ∨ ∃ kalo udahan, Enclosed front kalo udahan ∧
        Outermost allTargets tokens kalo udahan) := by
  cases statement with
  | expression phrase ends =>
      obtain ⟨front, rfl, kinds, _⟩ := phrase.frame
      exact ⟨front, _, rfl, ends, .inl fun token mem => (kinds token mem).2⟩
  | @spill word _ _ _ _ kind phrase ends =>
      obtain ⟨front, rfl, kinds, _⟩ := phrase.frame
      refine ⟨word :: front, _, rfl, ends, .inl (List.forall_mem_cons.2 ⟨by simp [kind], ?_⟩)⟩
      exact fun token mem => (kinds token mem).2
  | @declare word name _ _ kind named ends =>
      exact ⟨[word, name], _, rfl, ends, .inl (by simp [Plain, kind, named])⟩
  | @declareAs word name itu _ _ _ _ kind named assigns phrase ends =>
      obtain ⟨front, rfl, kinds, _⟩ := phrase.frame
      refine ⟨word :: name :: itu :: front, _, rfl, ends, .inl ?_⟩
      simp only [Plain, List.forall_mem_cons]
      exact ⟨by simp [kind], by simp [named], by simp [assigns],
        fun token mem => (kinds token mem).2⟩
  | kalo opens phrase kind lines branches closes ends =>
      obtain ⟨front, same, enclosed⟩ := frame_kalo opens phrase kind lines branches closes
      exact ⟨front, _, same, ends, .inr ⟨_, _, enclosed,
        .here opens phrase kind lines branches closes ends⟩⟩

theorem balanced_of_extent {tokens front : List Token}
    (extent : Plain front ∨ ∃ kalo udahan, Enclosed front kalo udahan ∧
      Outermost allTargets tokens kalo udahan) : Balanced front := by
  rcases extent with plain | ⟨kalo, udahan, enclosed, _⟩
  · exact balanced_of_forall plain
  · exact enclosed.balanced

theorem place_cases {start behind front ending rest : List Token}
    (parts : start ++ behind = front ++ ending) (ends : End ending rest) :
    (∃ more, front = start ++ more ∧ behind = more ++ ending) ∨
      ∃ newline more, newline.kind = .newline ∧ start = front ++ newline :: more ∧
        rest = more ++ behind := by
  obtain ⟨more, same, same'⟩ | ⟨more, same, same'⟩ := List.append_eq_append_iff.1 parts
  · exact .inl ⟨more, same, same'⟩
  · cases more with
    | nil => exact .inl ⟨[], by simpa using same.symm, by simpa using same'.symm⟩
    | cons newline more =>
        subst same'
        cases ends with
        | newline kind => exact .inr ⟨newline, more, kind, same, rfl⟩

theorem End.newline_of_ne_nil {tokens rest : List Token} (ends : End tokens rest)
    (nonempty : rest ≠ []) :
    ∃ newline : Token, newline.kind = .newline ∧ tokens = newline :: rest := by
  cases ends with
  | newline kind => exact ⟨_, kind, rfl⟩
  | stop => exact absurd rfl nonempty

theorem surplus_of_newline {newline : Token} (kind : newline.kind = .newline) :
    surplus [newline] = 0 :=
  surplus_of_other (by simp [kind]) (by simp [kind])

/-- Where there is a surplus, an outermost if statement is open. -/
theorem Lines.outermost {tokens : List Token} {stmts : List Stmt}
    (lines : Lines allTargets tokens [] stmts) {start behind : List Token}
    (parts : tokens = start ++ behind) (surplusIn : 0 < surplus start) :
    ∃ kalo udahan, Outermost allTargets tokens kalo udahan ∧ kalo ∈ start ∧ udahan ∈ behind := by
  match tokens, stmts, lines with
  | _, _, .nil =>
      obtain ⟨rfl, _⟩ := List.append_eq_nil_iff.1 parts.symm
      exact absurd surplusIn (Int.lt_irrefl 0)
  | _, _, .blank kind lines =>
      cases start with
      | nil => exact absurd surplusIn (Int.lt_irrefl 0)
      | cons newline start =>
          obtain ⟨rfl, rfl⟩ := List.cons.inj parts
          rw [surplus_cons, surplus_of_newline kind, Int.zero_add] at surplusIn
          obtain ⟨kalo, udahan, outermost, opened, unclosed⟩ := Lines.outermost lines rfl surplusIn
          exact ⟨kalo, udahan, .blank kind outermost, List.mem_cons_of_mem _ opened, unclosed⟩
  | _, _, .cons statement lines =>
      obtain ⟨front, ending, same, ends, extent⟩ := statement.extent
      -- the place lies in the first statement or behind the newline that ends it
      rcases place_cases (parts.symm.trans same) ends with ⟨more, rfl, rfl⟩ | later
      · rcases extent with plain | ⟨kalo, udahan, enclosed, outermost⟩
        · have none := balanced_of_forall fun token mem => plain token (List.mem_append_left _ mem)
          exact absurd none.1 (Int.ne_of_gt surplusIn)
        · obtain ⟨opened, unclosed⟩ := enclosed.split surplusIn
          exact ⟨kalo, udahan, outermost, opened, List.mem_append_left _ unclosed⟩
      · obtain ⟨newline, more, kind, rfl, rest⟩ := later
        rw [surplus_append, surplus_cons, surplus_of_newline kind, (balanced_of_extent extent).1,
          Int.zero_add, Int.zero_add] at surplusIn
        obtain ⟨kalo, udahan, outermost, opened, unclosed⟩ := Lines.outermost lines rest surplusIn
        exact ⟨kalo, udahan, .behind statement outermost, by simp [opened], unclosed⟩

theorem Outermost.kinds {tokens : List Token} {kalo udahan : Token}
    (outermost : Outermost allTargets tokens kalo udahan) :
    kalo.kind = .kalo ∧ udahan.kind = .udahan := by
  induction outermost with
  | here opens _ _ _ _ closes _ => exact ⟨opens, closes⟩
  | blank _ _ ih | behind _ _ ih => exact ih

theorem Outermost.parts {tokens : List Token} {kalo udahan : Token}
    (outermost : Outermost allTargets tokens kalo udahan) :
    ∃ start inner closing, tokens = start ++ kalo :: (inner ++ udahan :: closing) ∧
      Balanced start ∧ Balanced inner := by
  induction outermost with
  | here opens phrase kind lines branches closes _ =>
      obtain ⟨front, same, _, _, inner, rfl, balanced⟩ :=
        frame_kalo opens phrase kind lines branches closes
      exact ⟨[], inner, _, by simpa using same, balanced_nil, balanced⟩
  | @blank newline _ _ _ kind _ ih =>
      obtain ⟨start, inner, closing, rfl, balanced, balanced'⟩ := ih
      exact ⟨newline :: start, inner, closing, rfl,
        balanced.cons (by simp [kind]) (by simp [kind]), balanced'⟩
  | behind statement _ ih =>
      obtain ⟨start, inner, closing, rfl, balanced, balanced'⟩ := ih
      obtain ⟨front, ending, rfl, ends, extent⟩ := statement.extent
      obtain ⟨newline, kind, rfl⟩ := ends.newline_of_ne_nil (by simp)
      exact ⟨front ++ newline :: start, inner, closing, by simp,
        (balanced_of_extent extent).append (balanced.cons (by simp [kind]) (by simp [kind])),
        balanced'⟩

theorem Outermost.surplus_pos {start behind : List Token} {kalo udahan : Token}
    (outermost : Outermost allTargets (start ++ behind) kalo udahan) (opened : kalo ∉ behind)
    (unclosed : udahan ∉ start) : 0 < surplus start := by
  obtain ⟨front, inner, closing, parts, balanced, balanced'⟩ := outermost.parts
  have inside {more : List Token} (within : more <+: inner) :
      0 < surplus (front ++ kalo :: more) := by
    obtain ⟨others, rfl⟩ := within
    have := balanced'.2 more others rfl
    rw [surplus_append, balanced.1, surplus_cons, surplus_of_kalo outermost.kinds.1]
    omega
  obtain ⟨more, rfl, same⟩ | ⟨more, rfl, same⟩ := List.append_eq_append_iff.1 parts
  · simp [same] at opened
  · cases more with
    | nil =>
        rw [List.nil_append] at same
        simp [← same] at opened
    | cons first more =>
        rw [List.cons_append] at same
        obtain ⟨rfl, tails⟩ := List.cons.inj same
        obtain ⟨others, rfl, closes⟩ | ⟨others, rfl, _⟩ := List.append_eq_append_iff.1 tails
        · cases others with
          | nil => exact inside (by simp)
          | cons last others => simp [(List.cons.inj closes).1] at unclosed
        · exact inside (List.prefix_append _ _)

end BilingualScript.Grammar
