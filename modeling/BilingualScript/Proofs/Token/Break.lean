import BilingualScript.Proofs.Segment.Break
import BilingualScript.Proofs.Token.Lexing

/-!
# Tokens on the two sides of a newline

The tokens of a text are those in front of a newline, that newline and those behind it, moved down
by some lines, unless the newline lies inside quotes.
-/

namespace BilingualScript

def Token.moved (lines : Int) (token : Token) : Token :=
  { token with position := ⟨token.position.line + lines, token.position.column⟩ }

def LexicalFault.moved (lines : Int) (fault : LexicalFault) : LexicalFault :=
  { fault with position := ⟨fault.position.line + lines, fault.position.column⟩ }

namespace Token

variable (lines : Int) (token : Token)

@[simp] theorem kind_moved : (token.moved lines).kind = token.kind := rfl

@[simp] theorem lexeme_moved : (token.moved lines).lexeme = token.lexeme := rfl

@[simp] theorem literal_moved : (token.moved lines).literal = token.literal := rfl

@[simp] theorem moved_moved (back : Int) :
    (token.moved lines).moved back = token.moved (lines + back) := by
  simp [moved, Int.add_assoc]

@[simp] theorem moved_zero : token.moved 0 = token := by simp [moved]

end Token

namespace Position

theorem behind_break (front text : List Char) :
    behind (front ++ '\n' :: text) =
      ⟨(behind text).line + (front.count '\n' + 1 : Nat), (behind text).column⟩ := by
  have column : (front ++ '\n' :: text).reverse.takeWhile (· != '\n') =
      text.reverse.takeWhile (· != '\n') := by
    simpa using Segment.takeWhile_break (by decide) text.reverse front.reverse
  simp only [behind, column, List.count_append, List.count_cons_self, mk.injEq, and_true]
  omega

end Position

namespace Segment

theorem placedBehind_append (text : List Char) (first second : List Segment) :
    placedBehind text (first ++ second) =
      placedBehind text first ++ placedBehind (text ++ first.flatMap Segment.text) second := by
  induction first generalizing text with
  | nil => simp [placedBehind]
  | cons segment first ih => simp [placedBehind, ih]

end Segment

theorem Segmentation.flatMap_text {text : List Char} {segments : List Segment}
    (segmentation : Segmentation text segments) : segments.flatMap Segment.text = text := by
  induction segmentation with
  | nil => rfl
  | cons _ _ ih => rw [List.flatMap_cons, ih]

namespace Lexed

open Segment

theorem filterMap_break {α : Type} {read : Position × Segment → Option α} {moved : Int → α → α}
    (moves : ∀ lines position segment,
      read (⟨position.line + lines, position.column⟩, segment) =
        (read (position, segment)).map (moved lines))
    (front text : List Char) (segments : List Segment) :
    (placedBehind (front ++ '\n' :: text) segments).filterMap read =
      ((placedBehind text segments).filterMap read).map (moved (front.count '\n' + 1 : Nat)) := by
  induction segments generalizing text with
  | nil => rfl
  | cons segment segments ih =>
      have next := ih (text ++ segment.text)
      simp only [placedBehind, List.filterMap_cons, Position.behind_break, moves,
        List.append_assoc, List.cons_append, next]
      cases read (Position.behind text, segment) <;> rfl

theorem token?_moved (lines : Int) (position : Position) (segment : Segment) :
    token? (⟨position.line + lines, position.column⟩, segment) =
      (token? (position, segment)).map (Token.moved lines) := by
  obtain ⟨role, text⟩ := segment
  cases role <;> rfl

theorem fault?_moved (lines : Int) (position : Position) (segment : Segment) :
    fault? (⟨position.line + lines, position.column⟩, segment) =
      (fault? (position, segment)).map (LexicalFault.moved lines) := by
  obtain ⟨role, text⟩ := segment
  cases role <;> rfl

theorem items_of_cut_break {front behind : List Char}
    (cuts : cut (front ++ '\n' :: behind) = cut front ++ newline :: cut behind) :
    (ofChars (front ++ '\n' :: behind)).tokens.items =
      (ofChars front).tokens.items ++ ⟨.newline, "\n", .hampa, .behind front⟩ ::
        (ofChars behind).tokens.items.map (Token.moved (front.count '\n' + 1 : Nat)) := by
  have texts : front ++ newline.text = front ++ '\n' :: [] := rfl
  rw [items_eq, items_eq, items_eq, cuts, placedBehind_append,
    (segmentation_cut front).flatMap_text, List.filterMap_append, List.nil_append,
    placedBehind, texts, List.filterMap_cons, filterMap_break token?_moved]
  rfl

theorem faults_of_cut_break {front behind : List Char}
    (cuts : cut (front ++ '\n' :: behind) = cut front ++ newline :: cut behind) :
    (ofChars (front ++ '\n' :: behind)).faults =
      (ofChars front).faults ++
        (ofChars behind).faults.map (LexicalFault.moved (front.count '\n' + 1 : Nat)) := by
  have texts : front ++ newline.text = front ++ '\n' :: [] := rfl
  rw [faults_eq, faults_eq, faults_eq, cuts, placedBehind_append,
    (segmentation_cut front).flatMap_text, List.filterMap_append, List.nil_append,
    placedBehind, texts, List.filterMap_cons, filterMap_break fault?_moved]
  rfl

theorem items_of_cut_inside {front behind text : List Char} {before : List Segment} {quote : Char}
    (cuts : cut front = before ++ [⟨.unterminated, quote :: text⟩])
    (cuts' : cut (front ++ '\n' :: behind) = before ++ cut (quote :: (text ++ '\n' :: behind))) :
    (ofChars (front ++ '\n' :: behind)).tokens.items = (ofChars front).tokens.items ++
      (placedBehind (before.flatMap Segment.text)
        (cut (quote :: (text ++ '\n' :: behind)))).filterMap token? := by
  rw [items_eq, items_eq, cuts, cuts', placedBehind_append, placedBehind_append,
    List.filterMap_append, List.filterMap_append]
  simp [placedBehind, token?]

theorem faults_eq_nil_iff (text : List Char) (segments : List Segment) :
    (placedBehind text segments).filterMap fault? = [] ↔
      ∀ segment ∈ segments, segment.role ≠ .unexpected ∧ segment.role ≠ .unterminated := by
  induction segments generalizing text with
  | nil => simp [placedBehind]
  | cons segment segments ih =>
      obtain ⟨role, content⟩ := segment
      rw [placedBehind, List.filterMap_cons, List.forall_mem_cons, ← ih (text ++ content)]
      cases role <;> simp [fault?]

theorem clean_iff (text : List Char) :
    (ofChars text).faults = [] ↔
      ∀ segment ∈ cut text, segment.role ≠ .unexpected ∧ segment.role ≠ .unterminated := by
  rw [faults_eq, faults_eq_nil_iff]

/-- The tokens and the mistakes of a text that a newline takes apart. -/
theorem ofChars_break (front behind : List Char) :
    (ofChars (front ++ '\n' :: behind)).tokens.items =
        (ofChars front).tokens.items ++ ⟨.newline, "\n", .hampa, .behind front⟩ ::
          (ofChars behind).tokens.items.map (Token.moved (front.count '\n' + 1 : Nat)) ∧
      ((ofChars (front ++ '\n' :: behind)).faults = [] ↔
        (ofChars front).faults = [] ∧ (ofChars behind).faults = []) ∨
    (ofChars front).faults ≠ [] ∧
      ∃ after, (ofChars (front ++ '\n' :: behind)).tokens.items =
          (ofChars front).tokens.items ++ after ∧
        (behind = [] → after = []) ∧
        ((ofChars (front ++ '\n' :: behind)).faults = [] → ∃ string rest, after = string :: rest ∧
          string.kind = .string ∧ '\n' ∈ string.lexeme.toList) := by
  rcases cut_break front behind with cuts | ⟨before, quote, text, isQuote, missing, cuts, cuts'⟩
  · refine .inl ⟨items_of_cut_break cuts, ?_⟩
    rw [clean_iff, clean_iff, clean_iff, cuts, List.forall_mem_append, List.forall_mem_cons]
    exact and_congr_right fun _ => and_iff_right (by decide)
  · refine .inr ⟨fun clean => ?_, ?_⟩
    · rw [clean_iff, cuts] at clean
      exact (clean _ (List.mem_append_right _ List.mem_cons_self)).2 rfl
    refine ⟨_, items_of_cut_inside cuts cuts', ?_, fun clean => ?_⟩
    · rintro rfl
      have newline : '\n' ≠ quote := by rcases isQuote with rfl | rfl <;> decide
      rw [cut_open isQuote (by simpa [missing] using newline.symm)]
      rfl
    · obtain ⟨closed, after, whole, role, holds⟩ := cut_quoted_break isQuote missing behind
      rw [clean_iff, cuts', whole] at clean
      have closes := (clean closed (List.mem_append_right _ List.mem_cons_self)).2
      obtain ⟨_, content⟩ := closed
      obtain rfl := role.resolve_right closes
      rw [whole]
      exact ⟨_, _, rfl, rfl, by simpa using holds.subset (by simp)⟩

theorem ofChars_break_of_clean {front : List Char} (clean : (ofChars front).faults = [])
    (behind : List Char) :
    (ofChars (front ++ '\n' :: behind)).tokens.items =
        (ofChars front).tokens.items ++ ⟨.newline, "\n", .hampa, .behind front⟩ ::
          (ofChars behind).tokens.items.map (Token.moved (front.count '\n' + 1 : Nat)) ∧
      ((ofChars (front ++ '\n' :: behind)).faults = [] ↔ (ofChars behind).faults = []) := by
  rcases ofChars_break front behind with ⟨items, cleans⟩ | ⟨mistakes, _⟩
  · rw [cleans, and_iff_right clean]
    exact ⟨items, Iff.rfl⟩
  · exact absurd clean mistakes

end Lexed

end BilingualScript
