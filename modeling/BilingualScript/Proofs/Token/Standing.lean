import BilingualScript.Proofs.Token.Break

/-!
# Where tokens stand

The lexeme of a token is a part of the text, and the position of the token is that of its first
character.  The same holds for the one character of each mistake.
-/

namespace BilingualScript

def Position.Starts (position : Position) (part text : List Char) : Prop :=
  ∃ front rest, text = front ++ (part ++ rest) ∧ position = .behind front

theorem Position.Starts.line_pos {position : Position} {part text : List Char}
    (starts : position.Starts part text) : 0 < position.line := by
  obtain ⟨front, rest, _, rfl⟩ := starts
  simp only [behind]
  omega

theorem Position.Starts.line_le {position : Position} {part text : List Char}
    (starts : position.Starts part text) : position.line ≤ text.count '\n' + 1 := by
  obtain ⟨front, rest, rfl, rfl⟩ := starts
  simp only [behind, List.count_append]
  omega

/-! ## Segments -/

theorem Segment.parts_of_mem_placedBehind {before : List Char} {segments : List Segment}
    {position : Position} {segment : Segment}
    (mem : (position, segment) ∈ placedBehind before segments) :
    ∃ first last, segments = first ++ segment :: last ∧
      position = .behind (before ++ first.flatMap Segment.text) := by
  induction segments generalizing before with
  | nil => cases mem
  | cons head rest ih =>
      rcases List.mem_cons.1 mem with same | mem
      · obtain ⟨rfl, rfl⟩ := Prod.mk.inj same
        exact ⟨[], rest, rfl, by simp⟩
      · obtain ⟨first, last, rfl, rfl⟩ := ih mem
        exact ⟨head :: first, last, rfl, by simp⟩

theorem Segmentation.leads_of_mem {text : List Char} {segments : List Segment}
    (segmentation : Segmentation text segments) :
    ∀ segment ∈ segments, ∃ rest, Segment.Leads segment rest := by
  induction segmentation with
  | nil => simp
  | cons leads _ ih => exact List.forall_mem_cons.2 ⟨⟨_, leads⟩, ih⟩

theorem Segment.starts_of_mem {text : List Char} {position : Position} {segment : Segment}
    (mem : (position, segment) ∈ placedBehind [] (cut text)) :
    position.Starts segment.text text ∧ ∃ rest, Leads segment rest := by
  obtain ⟨first, last, parts, rfl⟩ := parts_of_mem_placedBehind mem
  have whole := (segmentation_cut text).flatMap_text
  have leads := (segmentation_cut text).leads_of_mem segment (by simp [parts])
  rw [parts, List.flatMap_append, List.flatMap_cons] at whole
  exact ⟨⟨_, _, whole.symm, rfl⟩, leads⟩

/-! ## Tokens and mistakes -/

namespace Lexed

variable {text : List Char}

theorem starts_of_mem_items {token : Token} (mem : token ∈ (ofChars text).tokens.items) :
    token.position.Starts token.lexeme.toList text ∧ Lexeme token.kind token.lexeme.toList := by
  rw [items_eq] at mem
  obtain ⟨⟨position, ⟨role, content⟩⟩, mem, found⟩ := List.mem_filterMap.1 mem
  obtain ⟨starts, rest, leads⟩ := Segment.starts_of_mem mem
  cases leads with
  | token lexeme _ =>
      obtain rfl := Option.some.inj found
      simpa using ⟨starts, lexeme⟩
  | blank | comment | unexpected | unterminated => cases found

theorem starts_of_mem_faults {fault : LexicalFault} (mem : fault ∈ (ofChars text).faults) :
    ∃ char, fault.position.Starts [char] text ∧ char ≠ '\n' ∧ char ≠ '\r' := by
  rw [faults_eq] at mem
  obtain ⟨⟨position, ⟨role, content⟩⟩, mem, found⟩ := List.mem_filterMap.1 mem
  obtain ⟨starts, rest, leads⟩ := Segment.starts_of_mem mem
  cases leads with
  | @unexpected char _ _ noReturn _ _ strange =>
      obtain rfl := Option.some.inj found
      refine ⟨char, starts, ?_, noReturn⟩
      rintro rfl
      exact strange .newline [] (.sign (by decide))
  | @unterminated quote content isQuote _ =>
      obtain rfl := Option.some.inj found
      obtain ⟨front, rest, rfl, same⟩ := starts
      refine ⟨quote, ⟨front, content ++ rest, by simp, same⟩, ?_⟩
      rcases isQuote with rfl | rfl <;> decide
  | token | blank | comment => cases found

end Lexed

end BilingualScript
