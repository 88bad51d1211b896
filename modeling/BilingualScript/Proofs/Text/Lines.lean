import BilingualScript.Text.Lines

/-!
# The line around a place

The lines of a text are counted from one and have no newlines in them.  A place in a text is what
stands in front of it and what stands behind it.  Its line is the end of the one and the start of
the other, up to the next newlines.
-/

namespace BilingualScript.Text

theorem lines_newline (text : List Char) : lines ('\n' :: text) = [] :: lines text := by
  simp [lines, List.splitOn, List.splitOnP_cons_eq_if_modifyHead]

theorem lines_cons {char : Char} (other : char ≠ '\n') (text : List Char) :
    lines (char :: text) = (lines text).modifyHead (List.cons char) := by
  simp [lines, List.splitOn, List.splitOnP_cons_eq_if_modifyHead, other]

theorem lines_break (front behind : List Char) :
    lines (front ++ '\n' :: behind) = lines front ++ lines behind := by
  induction front with
  | nil => exact lines_newline behind
  | cons char front ih =>
      by_cases newline : char = '\n'
      · subst newline
        rw [List.cons_append, lines_newline, lines_newline, ih, List.cons_append]
      · rw [List.cons_append, lines_cons newline, lines_cons newline, ih]
        obtain ⟨first, others, same⟩ := List.exists_cons_of_ne_nil (lines_ne_nil front)
        rw [same]
        rfl

theorem length_lines (text : List Char) : (lines text).length = text.count '\n' + 1 := by
  induction text with
  | nil => rfl
  | cons char text ih =>
      by_cases newline : char = '\n'
      · simp [newline, lines_newline, ih]
      · simp [lines_cons newline, newline, ih]

theorem lines_pair {first second : List Char} (unbroken : '\n' ∉ first)
    (unbroken' : '\n' ∉ second) : lines (first ++ '\n' :: second) = [first, second] := by
  rw [lines_break, lines, lines, List.splitOn_eq_singleton unbroken,
    List.splitOn_eq_singleton unbroken', List.singleton_append]

theorem newline_notMem_of_mem_lines {text line : List Char} (mem : line ∈ lines text) :
    '\n' ∉ line := by
  induction text generalizing line with
  | nil =>
      obtain rfl := List.mem_singleton.1 mem
      exact List.not_mem_nil
  | cons char text ih =>
      by_cases newline : char = '\n'
      · rw [newline, lines_newline, List.mem_cons] at mem
        rcases mem with rfl | mem
        · exact List.not_mem_nil
        · exact ih mem
      · obtain ⟨first, others, same⟩ := List.exists_cons_of_ne_nil (lines_ne_nil text)
        rw [lines_cons newline, same, List.modifyHead_cons, List.mem_cons] at mem
        rw [same] at ih
        rcases mem with rfl | mem
        · exact List.not_mem_cons_of_ne_of_not_mem (Ne.symm newline) (ih List.mem_cons_self)
        · exact ih (List.mem_cons_of_mem _ mem)

/-- A line of a text, with its number.  Lines are counted from one. -/
def HasLine (text : List Char) (number : Int) (line : List Char) : Prop :=
  ∃ index : Nat, number = index + 1 ∧ (lines text)[index]? = some line

theorem HasLine.unbroken {text : List Char} {number : Int} {line : List Char}
    (has : HasLine text number line) : '\n' ∉ line := by
  obtain ⟨index, _, found⟩ := has
  exact newline_notMem_of_mem_lines (List.mem_of_getElem? found)

theorem head?_lines (text : List Char) :
    (lines text)[0]? = some (text.takeWhile (· != '\n')) := by
  induction text with
  | nil => rfl
  | cons char text ih =>
      by_cases newline : char = '\n'
      · simp [newline, lines_newline]
      · rw [lines_cons newline, List.takeWhile_cons, if_pos (by simpa using newline)]
        obtain ⟨first, others, same⟩ := List.exists_cons_of_ne_nil (lines_ne_nil text)
        rw [same] at ih ⊢
        simpa using ih

def lastLine (text : List Char) : List Char := (text.reverse.takeWhile (· != '\n')).reverse

theorem ne_newline_of_mem_lastLine (text : List Char) :
    ∀ char ∈ lastLine text, (char != '\n') = true := by
  intro char mem
  exact List.all_eq_true.1 List.all_takeWhile char (List.mem_reverse.1 mem)

theorem lastLine_cases (text : List Char) :
    text = lastLine text ∨ ∃ before, text = before ++ '\n' :: lastLine text := by
  have parts : text.reverse.takeWhile (· != '\n') ++ text.reverse.dropWhile (· != '\n') =
      text.reverse := List.takeWhile_append_dropWhile
  cases behind : text.reverse.dropWhile (· != '\n') with
  | nil =>
      rw [behind, List.append_nil] at parts
      exact .inl (by rw [lastLine, parts, List.reverse_reverse])
  | cons char more =>
      have stop := List.head?_dropWhile_not (· != '\n') text.reverse
      rw [behind] at stop parts
      obtain rfl : char = '\n' := by simpa using stop
      have whole := congrArg List.reverse parts
      exact .inr ⟨more.reverse, by simpa [lastLine] using whole.symm⟩

def lineAround (front behind : List Char) : List Char :=
  lastLine front ++ behind.takeWhile (· != '\n')

theorem getElem?_lines (front behind : List Char) :
    (lines (front ++ behind))[front.count '\n']? = some (lineAround front behind) := by
  have around (last : List Char) (noNewline : ∀ char ∈ last, (char != '\n') = true) :
      (lines (last ++ behind))[0]? = some (last ++ behind.takeWhile (· != '\n')) := by
    rw [head?_lines, List.takeWhile_append_of_pos noNewline]
  have last := around _ (ne_newline_of_mem_lastLine front)
  have none : (lastLine front).count '\n' = 0 := by
    rw [List.count_eq_zero]
    intro mem
    simpa using ne_newline_of_mem_lastLine front _ mem
  rcases lastLine_cases front with whole | ⟨before, whole⟩
  · rw [← whole] at none last
    rw [none, lineAround, ← whole]
    exact last
  · have index : front.count '\n' = (lines before).length + 0 := by
      conv => lhs; rw [whole]
      rw [List.count_append, List.count_cons_self, none, length_lines]
    have text : front ++ behind = before ++ '\n' :: (lastLine front ++ behind) := by
      conv => lhs; rw [whole]
      simp
    rw [text, lines_break, index, List.getElem?_append_right (by omega)]
    simpa [lineAround] using last

end BilingualScript.Text
