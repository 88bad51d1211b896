import BilingualScript.Proofs.Segment.Segmentation

/-!
# Breaks

A newline in a text is a segment of its own, and then the text is cut as the texts on its two sides
are, or else it lies inside quotes that have been opened in front of it.
-/

namespace BilingualScript.Segment

def newline : Segment := ⟨.token .newline, ['\n']⟩

theorem takeWhile_break {p : Char → Bool} (stops : p '\n' = false) (front behind : List Char) :
    (front ++ '\n' :: behind).takeWhile p = front.takeWhile p := by
  induction front with
  | nil => simp [stops]
  | cons char front ih =>
      rw [List.cons_append, List.takeWhile_cons, List.takeWhile_cons, ih]

theorem dropWhile_break {p : Char → Bool} (stops : p '\n' = false) (front behind : List Char) :
    (front ++ '\n' :: behind).dropWhile p = front.dropWhile p ++ '\n' :: behind := by
  induction front with
  | nil => simp [stops]
  | cons char front ih =>
      rw [List.cons_append, List.dropWhile_cons, List.dropWhile_cons, ih]
      split <;> rfl

theorem fraction_break (front behind : List Char) :
    fraction (front ++ '\n' :: behind) = fraction front := by
  match front with
  | [] => rfl
  | [char] =>
      by_cases point : char = '.'
      · subst point
        rfl
      · simp [fraction, point]
  | first :: digit :: front =>
      by_cases point : first = '.'
      · subst point
        simp only [List.cons_append, fraction, takeWhile_break (p := Char.isDigit) (by decide)]
      · simp [fraction, point]

theorem span_append {p : Char → Bool} {front more : List Char} {char : Char}
    (stops : front.dropWhile p = char :: more) (behind : List Char) :
    (front ++ behind).takeWhile p = front.takeWhile p ∧
      (front ++ behind).dropWhile p = char :: (more ++ behind) := by
  induction front with
  | nil => cases stops
  | cons first front ih =>
      rw [List.dropWhile_cons] at stops
      rw [List.cons_append, List.takeWhile_cons, List.takeWhile_cons, List.dropWhile_cons]
      split at stops
      · next holds =>
        obtain ⟨same, same'⟩ := ih stops
        rw [same, same', holds]
        exact ⟨rfl, rfl⟩
      · next fails =>
        obtain ⟨rfl, rfl⟩ := List.cons.inj stops
        rw [if_neg fails, if_neg fails, if_neg fails]
        exact ⟨rfl, rfl⟩

theorem quoted_append {quote : Char} {front : List Char}
    (closed : (quoted quote front).role ≠ .unterminated) (behind : List Char) :
    quoted quote (front ++ behind) = quoted quote front := by
  unfold quoted at closed ⊢
  cases shape : front.dropWhile (· != quote) with
  | nil =>
      rw [shape] at closed
      exact absurd rfl closed
  | cons char more =>
      obtain ⟨same, same'⟩ := span_append shape behind
      rw [same', same]

/-- The segment at the start of a text does not depend on what stands behind a newline, unless it
starts with a quote that is not closed in front of that. -/
theorem first_break (char : Char) (front behind : List Char)
    (closed : (first char front).role ≠ .unterminated) :
    first char (front ++ '\n' :: behind) = first char front := by
  have equals : ((front ++ '\n' :: behind).head? = some '=') = (front.head? = some '=') := by
    cases front with
    | nil => simp
    | cons _ _ => rfl
  have comment : (front ++ '\n' :: behind).takeWhile (· != '\n') = front.takeWhile (· != '\n') :=
    takeWhile_break (by decide) front behind
  have word : (front ++ '\n' :: behind).takeWhile continuesWord = front.takeWhile continuesWord :=
    takeWhile_break (by decide) front behind
  have number : numeralTail (front ++ '\n' :: behind) = numeralTail front := by
    unfold numeralTail
    rw [takeWhile_break (by decide), dropWhile_break (by decide), fraction_break]
  by_cases quote : char = '"' ∨ char = '\''
  · rw [first_of_isQuote quote] at closed ⊢
    rw [first_of_isQuote quote]
    exact quoted_append closed _
  · have noQuote : isQuote char = false := by simpa [isQuote] using quote
    simp only [first, equals, comment, word, number, noQuote, Bool.false_eq_true, if_false]

theorem cut_quoted_break {quote : Char} (isQuote : quote = '"' ∨ quote = '\'') {front : List Char}
    (missing : quote ∉ front) (behind : List Char) :
    ∃ closed after, cut (quote :: (front ++ '\n' :: behind)) = closed :: after ∧
      (closed.role = .token .string ∨ closed.role = .unterminated) ∧
      quote :: (front ++ ['\n']) <+: closed.text := by
  obtain ⟨after, parts, _⟩ := leads_first quote (front ++ '\n' :: behind)
  refine ⟨_, _, cut_of_first parts, ?_⟩
  have all : ∀ char ∈ front, (char != quote) = true := by
    intro char mem
    simpa using fun same : char = quote => missing (same ▸ mem)
  have newline : ('\n' != quote) = true := by rcases isQuote with rfl | rfl <;> decide
  rw [first_of_isQuote isQuote]
  unfold quoted
  split
  · exact ⟨.inr rfl, by simp [List.prefix_append_right_inj]⟩
  · refine ⟨.inl rfl, ?_⟩
    rw [List.takeWhile_append_of_pos all, List.takeWhile_cons, if_pos newline]
    simp [List.prefix_append_right_inj]

theorem cut_open {quote : Char} (isQuote : quote = '"' ∨ quote = '\'') {rest : List Char}
    (missing : quote ∉ rest) :
    cut (quote :: rest) = [⟨.unterminated, quote :: rest⟩] := by
  have segmentation : Segmentation (quote :: rest) [⟨.unterminated, quote :: rest⟩] := by
    have last := Segmentation.cons (.unterminated isQuote missing) .nil
    rwa [List.append_nil] at last
  exact segmentation.eq_cut.symm

theorem first_of_unterminated {char : Char} {rest : List Char}
    (role : (first char rest).role = .unterminated) :
    (char = '"' ∨ char = '\'') ∧ char ∉ rest := by
  obtain ⟨after, parts, leads⟩ := leads_first char rest
  generalize first char rest = segment at *
  cases leads with
  | unterminated quote missing =>
      rw [List.append_nil] at parts
      obtain ⟨rfl, rfl⟩ := List.cons.inj parts
      exact ⟨quote, missing⟩
  | token | blank | comment | unexpected => cases role

/-- A newline is a segment of its own between those of the texts on its two sides, or quotes that
are open in front of it go on behind it. -/
theorem cut_break (front behind : List Char) :
    cut (front ++ '\n' :: behind) = cut front ++ newline :: cut behind ∨
      ∃ before quote text, (quote = '"' ∨ quote = '\'') ∧ quote ∉ text ∧
        cut front = before ++ [⟨.unterminated, quote :: text⟩] ∧
        cut (front ++ '\n' :: behind) = before ++ cut (quote :: (text ++ '\n' :: behind)) := by
  induction length : front.length using Nat.strongRecOn generalizing front with
  | ind length ih =>
      subst length
      cases front with
      | nil =>
          have parts : (first '\n' behind).text ++ behind = '\n' :: behind := rfl
          exact .inl (cut_of_first parts)
      | cons char rest =>
          by_cases role : (first char rest).role = .unterminated
          · obtain ⟨quote, missing⟩ := first_of_unterminated role
            exact .inr ⟨[], char, rest, quote, missing, cut_open quote missing, rfl⟩
          · obtain ⟨after, parts, leads⟩ := leads_first char rest
            have same := first_break char rest behind role
            have whole : (first char (rest ++ '\n' :: behind)).text ++ (after ++ '\n' :: behind) =
                char :: (rest ++ '\n' :: behind) := by
              rw [same, ← List.append_assoc, parts]
              rfl
            have shorter : after.length < (char :: rest).length := by
              have := List.length_pos_iff.2 leads.ne_nil
              rw [← parts, List.length_append]
              omega
            rw [List.cons_append, cut_of_first whole, cut_of_first parts, same]
            rcases ih _ shorter after rfl with cuts | inside
            · exact .inl (by rw [cuts]; rfl)
            · obtain ⟨before, quote, text, isQuote, missing, cuts, cuts'⟩ := inside
              exact .inr ⟨first char rest :: before, quote, text, isQuote, missing,
                by rw [cuts]; rfl, by rw [cuts']; rfl⟩

theorem cut_break_of_closed {front : List Char}
    (closed : ∀ segment ∈ cut front, segment.role ≠ .unterminated) (behind : List Char) :
    cut (front ++ '\n' :: behind) = cut front ++ newline :: cut behind := by
  rcases cut_break front behind with cuts | ⟨before, quote, text, _, _, cuts, _⟩
  · exact cuts
  · exact absurd rfl (closed ⟨.unterminated, quote :: text⟩ (by simp [cuts]))

end BilingualScript.Segment
