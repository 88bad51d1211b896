import BilingualScript.Proofs.Token.Standing

/-!
# Tokens on the two sides of a place

Positions are ordered as the places in a text are.  At a newline and at the end of a text, the
tokens that stand in front of it are those of the text up to there, and perhaps the string in which
it lies.
-/

namespace BilingualScript

namespace Position

def Precedes (first second : Position) : Prop :=
  first.line < second.line ∨ first.line = second.line ∧ first.column < second.column

instance (first second : Position) : Decidable (first.Precedes second) :=
  inferInstanceAs (Decidable (_ ∨ _))

variable {first second third : Position}

theorem Precedes.trans (before : first.Precedes second) (after : second.Precedes third) :
    first.Precedes third := by
  unfold Precedes at *
  omega

theorem Precedes.asymm (before : first.Precedes second) : ¬second.Precedes first := by
  unfold Precedes at *
  omega

theorem not_precedes_self (position : Position) : ¬position.Precedes position :=
  fun before => before.asymm before

theorem precedes_next (position : Position) (char : Char) :
    position.Precedes (position.next char) := by
  unfold next
  split
  · exact .inl (Int.lt_succ _)
  · exact .inr ⟨rfl, Int.lt_succ _⟩

theorem precedes_after (position : Position) {text : List Char} (nonempty : text ≠ []) :
    position.Precedes (position.after text) := by
  induction text generalizing position with
  | nil => exact absurd rfl nonempty
  | cons char text ih =>
      have next := position.precedes_next char
      by_cases none : text = []
      · rw [none]
        exact next
      · exact next.trans (ih _ none)

theorem precedes_behind (front : List Char) {text : List Char} (nonempty : text ≠ []) :
    (behind front).Precedes (behind (front ++ text)) := by
  rw [← start_after, ← start_after, after_append]
  exact precedes_after _ nonempty

end Position

namespace Lexed

open Segment

theorem precedes_of_mem_items {text : List Char} {token : Token}
    (mem : token ∈ (ofChars text).tokens.items) : token.position.Precedes (.behind text) := by
  obtain ⟨⟨front, rest, rfl, position⟩, lexeme⟩ := starts_of_mem_items mem
  rw [position]
  exact Position.precedes_behind front (by simp [lexeme.ne_nil])

theorem position_of_mem {text : List Char} {segments : List Segment} {token : Token}
    (mem : token ∈ (placedBehind text segments).filterMap token?) :
    ∃ more, token.position = .behind (text ++ more) := by
  obtain ⟨⟨position, ⟨role, content⟩⟩, mem, found⟩ := List.mem_filterMap.1 mem
  obtain ⟨first, _, _, rfl⟩ := parts_of_mem_placedBehind mem
  cases role with
  | token kind =>
      obtain rfl := Option.some.inj found
      exact ⟨_, rfl⟩
  | _ => cases found

theorem precedes_of_mem {front text : List Char} {segments : List Segment} {token : Token}
    (holds : front ++ ['\n'] <+: text)
    (mem : token ∈ (placedBehind text segments).filterMap token?) :
    (Position.behind front).Precedes token.position := by
  obtain ⟨more, position⟩ := position_of_mem mem
  obtain ⟨others, rfl⟩ := holds
  rw [position, List.append_assoc, List.append_assoc]
  exact Position.precedes_behind front (by simp)

/-- The tokens of a text without mistakes, on the two sides of a newline or of its end. -/
theorem items_around {front rest : List Char} (clean : (ofChars (front ++ rest)).faults = [])
    (edge : rest = [] ∨ rest.head? = some '\n') :
    ∃ start behind, (ofChars (front ++ rest)).tokens.items = start ++ behind ∧
      (start = (ofChars front).tokens.items ∨
        ∃ string, string.kind = .string ∧ start = (ofChars front).tokens.items ++ [string]) ∧
      (∀ token ∈ start, token.position.Precedes (.behind front)) ∧
      ∀ token ∈ behind, (Position.behind front).Precedes token.position ∨
        token.kind = .newline ∧ token.position = .behind front := by
  rcases edge with rfl | head
  · rw [List.append_nil]
    exact ⟨_, [], (List.append_nil _).symm, .inl rfl, fun _ => precedes_of_mem_items,
      List.forall_mem_nil _⟩
  obtain ⟨behind, rfl⟩ := List.head?_eq_some_iff.1 head
  rcases cut_break front behind with cuts | ⟨before, quote, text, isQuote, missing, cuts, cuts'⟩
  · refine ⟨_, _, items_of_cut_break cuts, .inl rfl, fun _ => precedes_of_mem_items, ?_⟩
    refine List.forall_mem_cons.2 ⟨.inr ⟨rfl, rfl⟩, fun token mem => .inl (.inl ?_)⟩
    obtain ⟨other, inside, rfl⟩ := List.mem_map.1 mem
    have pos := (starts_of_mem_items inside).1.line_pos
    simp only [Position.behind, Token.moved]
    omega
  -- the newline lies in quotes, and the tokens behind them stand behind it
  · have text_eq : before.flatMap Segment.text ++ quote :: text = front := by
      have whole := (segmentation_cut front).flatMap_text
      simpa [cuts] using whole
    obtain ⟨closed, after, whole, role, holds⟩ := cut_quoted_break isQuote missing behind
    have closes : closed.role ≠ .unterminated := by
      rw [clean_iff, cuts', whole] at clean
      exact (clean closed (by simp)).2
    obtain ⟨_, content⟩ := closed
    obtain rfl := role.resolve_right closes
    have items := items_of_cut_inside cuts cuts'
    rw [whole, placedBehind, List.filterMap_cons] at items
    refine ⟨_, _, items.trans (List.append_cons ..), .inr ⟨_, rfl, rfl⟩, ?_,
      fun token mem => .inl ?_⟩
    · refine List.forall_mem_append.2 ⟨fun _ => precedes_of_mem_items, ?_⟩
      rw [List.forall_mem_singleton, ← text_eq]
      exact Position.precedes_behind _ (List.cons_ne_nil _ _)
    · refine precedes_of_mem ?_ mem
      rw [← text_eq, List.append_assoc, List.prefix_append_right_inj]
      exact holds

end Lexed

end BilingualScript
