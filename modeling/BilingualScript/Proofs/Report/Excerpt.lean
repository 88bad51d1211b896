import BilingualScript.Proofs.Segment.Break
import BilingualScript.Proofs.Segment.Place
import BilingualScript.Proofs.Text.Lines
import BilingualScript.Report.Basic

/-!
# What excerpts show

An excerpt at the start of a part of a text shows the whole line on which the part starts, marks
what of the part lies on that line, and has its marker under that.
-/

namespace BilingualScript

/-! ## Trailing characters -/

namespace Text

variable {unwanted : Char → Bool} {chars : List Char}

theorem dropTrailing_append_trailing (unwanted : Char → Bool) (chars : List Char) :
    ∃ trailing, chars = dropTrailing unwanted chars ++ trailing ∧
      ∀ char ∈ trailing, unwanted char = true := by
  refine ⟨(chars.reverse.takeWhile unwanted).reverse, ?_, fun char mem => ?_⟩
  · rw [dropTrailing, ← List.reverse_append, List.takeWhile_append_dropWhile, List.reverse_reverse]
  · exact List.all_eq_true.1 List.all_takeWhile char (List.mem_reverse.1 mem)

theorem length_dropTrailing_le (unwanted : Char → Bool) (chars : List Char) :
    (dropTrailing unwanted chars).length ≤ chars.length := by
  obtain ⟨trailing, same, _⟩ := dropTrailing_append_trailing unwanted chars
  have lengths := congrArg List.length same
  rw [List.length_append] at lengths
  omega

theorem dropTrailing_ne_nil {char : Char} (mem : char ∈ chars) (wanted : unwanted char = false) :
    dropTrailing unwanted chars ≠ [] := by
  intro none
  obtain ⟨trailing, same, all⟩ := dropTrailing_append_trailing unwanted chars
  rw [none, List.nil_append] at same
  rw [all char (same ▸ mem)] at wanted
  cases wanted

theorem dropTrailing_append {behind : List Char} (kept : dropTrailing unwanted behind ≠ [])
    (front : List Char) :
    dropTrailing unwanted (front ++ behind) = front ++ dropTrailing unwanted behind := by
  have some : behind.reverse.dropWhile unwanted ≠ [] := by simpa [dropTrailing] using kept
  simp [dropTrailing, List.dropWhile_append, some]

theorem dropTrailing_append_of_getLast? {front : List Char} {last : Char}
    (ends : front.getLast? = some last) (wanted : unwanted last = false) (behind : List Char) :
    dropTrailing unwanted (front ++ behind) = front ++ dropTrailing unwanted behind := by
  obtain ⟨init, rfl⟩ := List.getLast?_eq_some_iff.1 ends
  by_cases kept : dropTrailing unwanted behind = []
  · have none : behind.reverse.dropWhile unwanted = [] := by simpa [dropTrailing] using kept
    simp [dropTrailing, List.dropWhile_append, none, wanted]
  · exact dropTrailing_append kept _

theorem isBlankLine_dropTrailing (line : List Char) :
    isBlankLine (dropTrailing (· == '\r') line) = isBlankLine line := by
  obtain ⟨trailing, same, all⟩ := dropTrailing_append_trailing (· == '\r') line
  have blank : trailing.all isBlank = true := by
    rw [List.all_eq_true]
    intro char mem
    obtain rfl : char = '\r' := by simpa using all char mem
    decide
  conv => rhs; rw [same]
  simp [isBlankLine, List.all_append, blank]

end Text

open Text

/-! ## Parts of a text -/

/-- A part of a text, with what is behind it, at which reports point: the end of the text, a
newline, or a part that starts and ends with something to be seen. -/
inductive Pointable : List Char → List Char → Prop
  | stop : Pointable [] []
  | newline {rest} : Pointable ['\n'] rest
  | visible {first part rest} : first ≠ '\n' → first ≠ '\r' → part.head? = some first →
      part.getLast? ≠ some '\r' → Pointable part rest

/-- What of a part lies on the line on which it starts, without carriage returns at its end. -/
def onFirstLine (part : List Char) : List Char :=
  dropTrailing (· == '\r') (part.takeWhile (· != '\n'))

/-- An excerpt shows the line around a place and marks what of a part lies on it.  Without emphasis
it is that line and, on a line of its own, the marker. -/
structure Excerpt.Shows (front part rest : List Char) (excerpt : Excerpt) : Prop where
  line : excerpt.line = dropTrailing (· == '\r') (lineAround front (part ++ rest))
  marked : excerpt.marked = onFirstLine part
  before : excerpt.marked ≠ [] → excerpt.before.length = excerpt.column
  column : (excerpt.column : Int) + 1 = (Position.behind front).column
  width : excerpt.width = max 1 excerpt.marked.length
  text : excerpt.render .plain = "  " ++ .ofList excerpt.line ++ "\n" ++
    "  " ++ .ofList (List.replicate excerpt.column ' ') ++
      .ofList ('^' :: List.replicate (excerpt.width - 1) '~')

namespace Excerpt

theorem render_plain (excerpt : Excerpt) :
    excerpt.render .plain = "  " ++ .ofList excerpt.line ++ "\n" ++
      "  " ++ .ofList (List.replicate excerpt.column ' ') ++
        .ofList ('^' :: List.replicate (excerpt.width - 1) '~') := by
  simp [render, line, marker, String.ofList_append, String.append_assoc]

theorem ofLine_of_marked {before marked after : List Char} {length : Nat} (some : marked ≠ [])
    (fits : marked.length ≤ length ∧ after = [] ∨ marked.length = length) :
    ofLine (before ++ (marked ++ after)) (1 + before.length) length =
      ⟨before, marked, after, before.length, marked.length⟩ := by
  have pos := List.length_pos_iff.2 some
  have start : ((1 + before.length : Int) - 1).toNat = before.length := by omega
  have inside : before.length < (before ++ (marked ++ after)).length := by
    simp only [List.length_append]
    omega
  have width : min (max (length : Int) 1).toNat
      ((before ++ (marked ++ after)).length - before.length) = marked.length := by
    simp only [List.length_append]
    rcases fits with ⟨le, rfl⟩ | rfl
    · simp only [List.length_nil]
      omega
    · omega
  simp only [ofLine, start, if_pos inside, width, mk.injEq, and_true]
  refine ⟨List.take_left, ?_, ?_⟩
  · rw [List.drop_left, List.take_left]
  · rw [← List.append_assoc, ← List.length_append, List.drop_left]

theorem ofLine_of_past {line : List Char} {column : Nat} (past : line.length ≤ column)
    (length : Int) : ofLine line (1 + column) length = ⟨line, [], [], column, 1⟩ := by
  have start : ((1 + column : Int) - 1).toNat = column := by omega
  simp only [ofLine, start, if_neg (Nat.not_lt.2 past), mk.injEq, and_true]
  refine ⟨List.take_of_length_le past, ?_, ?_⟩
  · rw [List.drop_of_length_le past, List.take_nil]
  · exact List.drop_of_length_le (by omega)

/-! ## Excerpts at places of a text -/

theorem lineAt?_behind (front behind : List Char) :
    lineAt? (lines (front ++ behind)) (Position.behind front).line =
      some (dropTrailing (· == '\r') (lineAround front behind)) := by
  have pos : 0 < (Position.behind front).line := by
    simp only [Position.behind]
    omega
  have index : (Position.behind front).line.toNat - 1 = front.count '\n' := by
    simp only [Position.behind]
    omega
  rw [lineAt?, if_pos pos, index, getElem?_lines]
  rfl

theorem column_behind (front : List Char) :
    (Position.behind front).column = 1 + (lastLine front).length := by
  simp [Position.behind, lastLine]

theorem shows_of_nothing {front part rest : List Char} (nothing : onFirstLine part = [])
    (ends : lineAround front (part ++ rest) = lastLine front) (length : Int) :
    (ofLine (dropTrailing (· == '\r') (lineAround front (part ++ rest)))
      (Position.behind front).column length).Shows front part rest := by
  rw [column_behind, ofLine_of_past (by rw [ends]; exact length_dropTrailing_le _ _)]
  refine ⟨by simp [line], nothing.symm, fun some => absurd rfl some, ?_, rfl, render_plain _⟩
  rw [column_behind, Int.add_comm]

theorem shows_of_something {front part rest : List Char} (some : onFirstLine part ≠ [])
    (after : List Char)
    (shown : dropTrailing (· == '\r') (lineAround front (part ++ rest)) =
      lastLine front ++ (onFirstLine part ++ after))
    (fits : (onFirstLine part).length ≤ part.length ∧ after = [] ∨
      (onFirstLine part).length = part.length) :
    (ofLine (dropTrailing (· == '\r') (lineAround front (part ++ rest)))
      (Position.behind front).column part.length).Shows front part rest := by
  have pos := List.length_pos_iff.2 some
  rw [shown, column_behind, ofLine_of_marked some fits]
  refine ⟨by simp [line, shown], rfl, fun _ => rfl, ?_, ?_, render_plain _⟩
  · rw [column_behind, Int.add_comm]
  · exact (Nat.max_eq_right pos).symm

theorem shows_of_visible {front part rest : List Char} {first : Char} (noNewline : first ≠ '\n')
    (noReturn : first ≠ '\r') (head : part.head? = some first)
    (last : part.getLast? ≠ some '\r') :
    (ofLine (dropTrailing (· == '\r') (lineAround front (part ++ rest)))
      (Position.behind front).column part.length).Shows front part rest := by
  have mem := List.mem_of_mem_head? head
  have ends := List.getLast?_eq_some_getLast (List.ne_nil_of_mem mem)
  generalize part.getLast _ = char at ends
  have wanted : (char == '\r') = false := by simpa [ends] using last
  have visible : onFirstLine part ≠ [] := by
    obtain ⟨more, rfl⟩ := List.head?_eq_some_iff.1 head
    have shown : first ∈ (first :: more).takeWhile (· != '\n') := by simp [noNewline]
    exact dropTrailing_ne_nil shown (by simpa using noReturn)
  by_cases lies : '\n' ∈ part
  · -- the part goes on behind the line
    obtain ⟨before, after, parts⟩ := List.append_of_mem lies
    have line : (part ++ rest).takeWhile (· != '\n') = part.takeWhile (· != '\n') := by
      rw [parts, List.append_assoc, List.cons_append, Segment.takeWhile_break (by decide),
        Segment.takeWhile_break (by decide)]
    refine shows_of_something visible [] ?_ (.inl ⟨?_, rfl⟩)
    · rw [lineAround, line, List.append_nil]
      exact dropTrailing_append visible _
    · exact Nat.le_trans (length_dropTrailing_le _ _) (List.takeWhile_prefix _).length_le
  · have others : ∀ char ∈ part, (char != '\n') = true := by
      intro char mem
      simpa using fun same : char = '\n' => lies (same ▸ mem)
    have line (rest : List Char) :
        (part ++ rest).takeWhile (· != '\n') = part ++ rest.takeWhile (· != '\n') :=
      List.takeWhile_append_of_pos others
    have whole : onFirstLine part = part := by
      have alone := line []
      simp only [List.append_nil, List.takeWhile_nil] at alone
      rw [onFirstLine, alone]
      simpa [dropTrailing] using dropTrailing_append_of_getLast? ends wanted []
    refine shows_of_something visible (dropTrailing (· == '\r')
      (rest.takeWhile (· != '\n'))) ?_ (.inr (by rw [whole]))
    have ends' : (lastLine front ++ part).getLast? = some char := by
      rw [List.getLast?_append, ends]
      rfl
    rw [lineAround, line, whole, ← List.append_assoc, ← List.append_assoc,
      dropTrailing_append_of_getLast? ends' wanted]

theorem shows_of_pointable {part rest : List Char} (pointable : Pointable part rest)
    (front : List Char) :
    (ofLine (dropTrailing (· == '\r') (lineAround front (part ++ rest)))
      (Position.behind front).column part.length).Shows front part rest := by
  cases pointable with
  | stop => exact shows_of_nothing rfl (by simp [lineAround]) _
  | newline => exact shows_of_nothing rfl (by simp [lineAround]) _
  | visible noNewline noReturn head last => exact shows_of_visible noNewline noReturn head last

theorem at?_behind (front behind : List Char) (length : Int) :
    at? (lines (front ++ behind)) (.behind front) length =
      if isBlankLine (lineAround front behind) then none
      else some (ofLine (dropTrailing (· == '\r') (lineAround front behind))
        (Position.behind front).column length) := by
  rw [at?, lineAt?_behind]
  simp only [isBlankLine_dropTrailing]

end Excerpt

end BilingualScript
