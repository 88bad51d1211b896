import BilingualScript.Proofs.Report.Excerpt

/-!
# Excerpts at any position

An excerpt may be asked for at a line that the text does not have, at a column in front of the line
or behind it, and for a part of any length.  What it shows is the whole line, and its marker is kept
inside the line, unless it stands alone behind it.
-/

namespace BilingualScript

open Text

theorem Text.Style.newline_notMem_alarm (style : Style) {text : String}
    (unbroken : '\n' ∉ text.toList) : '\n' ∉ (style.alarm text).toList := by
  cases style with
  | plain => exact unbroken
  | terminal =>
      have opening : '\n' ∉ (String.join (["1", "31"].map select)).toList := by decide
      have closing : '\n' ∉ (select "0").toList := by decide
      rw [alarm, between, String.toList_append, String.toList_append]
      exact List.not_mem_append (List.not_mem_append opening unbroken) closing

namespace Excerpt

/-! ## Lines that are shown -/

theorem lineAt?_eq_none_iff (lines : List (List Char)) (number : Int) :
    lineAt? lines number = none ↔ ¬ (1 ≤ number ∧ number ≤ lines.length) := by
  unfold lineAt?
  split
  · rw [Option.map_eq_none_iff, List.getElem?_eq_none_iff]
    omega
  · exact iff_of_true rfl (by omega)

theorem lineAt?_eq_some_iff {text : List Char} {number : Int} {shown : List Char} :
    lineAt? (lines text) number = some shown ↔
      ∃ line, HasLine text number line ∧ dropTrailing (· == '\r') line = shown := by
  unfold lineAt? HasLine
  split
  · rw [Option.map_eq_some_iff]
    constructor
    · rintro ⟨line, found, rfl⟩
      exact ⟨line, ⟨number.toNat - 1, by omega, found⟩, rfl⟩
    · rintro ⟨line, ⟨index, same, found⟩, rfl⟩
      have index : number.toNat - 1 = index := by omega
      exact ⟨line, index ▸ found, rfl⟩
  · constructor
    · intro found
      cases found
    · rintro ⟨line, ⟨index, same, _⟩, _⟩
      omega

theorem at?_eq_none_iff (lines : List (List Char)) (position : Position) (length : Int) :
    at? lines position length = none ↔ lineAt? lines position.line = none ∨
      ∃ line, lineAt? lines position.line = some line ∧ isBlankLine line = true := by
  unfold at?
  cases lineAt? lines position.line with
  | none => simp
  | some line => simp

theorem at?_eq_some_iff {lines : List (List Char)} {position : Position} {length : Int}
    {excerpt : Excerpt} :
    at? lines position length = some excerpt ↔
      ∃ line, lineAt? lines position.line = some line ∧ isBlankLine line = false ∧
        ofLine line position.column length = excerpt := by
  unfold at?
  cases lineAt? lines position.line with
  | none => simp
  | some line => simp

/-! ## Parts that are marked -/

/-- A column in front of a line stands for its first one, and a length below one stands for one. -/
theorem ofLine_clamped (line : List Char) (column length : Int) :
    ofLine line column length =
      ofLine line (1 + ((max (column - 1) 0).toNat : Int)) ((max length 1).toNat : Int) := by
  have start : (1 + ((max (column - 1) 0).toNat : Int) - 1).toNat = (column - 1).toNat := by omega
  have wanted : (max ((max length 1).toNat : Int) 1).toNat = (max length 1).toNat := by omega
  simp only [ofLine, start, wanted]

/-- An excerpt shows a whole line and marks what the line has of a part, which is given by the place
where it starts, counted from zero, and by its length.  If the line ends in front of that place, the
marker stands alone behind it. -/
structure Marks (line : List Char) (start length : Nat) (excerpt : Excerpt) : Prop where
  whole : excerpt.before ++ excerpt.marked ++ excerpt.after = line
  column : excerpt.column = start
  width_pos : 1 ≤ excerpt.width
  width_le : excerpt.width ≤ length
  inside : start + excerpt.width ≤ line.length ∨ excerpt.width = 1 ∧ line.length ≤ start
  filled : excerpt.width = length ∨ line.length ≤ start + excerpt.width
  under : excerpt.before.length = start ∧ excerpt.marked.length = excerpt.width ∨
    excerpt.marked = [] ∧ line.length ≤ start

theorem marks_of_inside {line : List Char} {start length : Nat} (pos : 1 ≤ length)
    (inside : start < line.length) :
    (ofLine line (1 + (start : Int)) (length : Int)).Marks line start length := by
  obtain ⟨before, behind, rfl, rfl⟩ :
      ∃ before behind, line = before ++ behind ∧ before.length = start :=
    ⟨line.take start, line.drop start, (List.take_append_drop _ _).symm,
      List.length_take_of_le (Nat.le_of_lt inside)⟩
  have width : (behind.take length).length = min length behind.length := List.length_take
  rw [List.length_append] at inside
  have some : behind.take length ≠ [] := List.length_pos_iff.1 (by omega)
  have fits : (behind.take length).length ≤ length ∧ behind.drop length = [] ∨
      (behind.take length).length = length := by
    rcases Nat.le_total behind.length length with short | long
    · exact .inl ⟨List.length_take_le _ _, List.drop_of_length_le short⟩
    · exact .inr (List.length_take_of_le long)
  have parts : ofLine (before ++ (behind.take length ++ behind.drop length))
      (1 + (before.length : Int)) length = _ := ofLine_of_marked some fits
  rw [List.take_append_drop] at parts
  rw [parts]
  refine ⟨?_, rfl, ?_, ?_, .inl ?_, ?_, .inl ⟨rfl, rfl⟩⟩
  · rw [List.append_assoc, List.take_append_drop]
  all_goals simp only [List.length_append]; omega

theorem marks_of_past {line : List Char} {start length : Nat} (pos : 1 ≤ length)
    (past : line.length ≤ start) :
    (ofLine line (1 + (start : Int)) (length : Int)).Marks line start length := by
  rw [ofLine_of_past past]
  exact ⟨by simp, rfl, Nat.le_refl 1, pos, .inr ⟨rfl, past⟩, .inr (Nat.le_add_right_of_le past),
    .inr ⟨rfl, past⟩⟩

theorem ofLine_marks (line : List Char) (column length : Int) :
    (ofLine line column length).Marks line (max (column - 1) 0).toNat (max length 1).toNat := by
  have pos : 1 ≤ (max length 1).toNat := by omega
  rw [ofLine_clamped]
  rcases Nat.lt_or_ge (max (column - 1) 0).toNat line.length with inside | past
  · exact marks_of_inside pos inside
  · exact marks_of_past pos past

/-! ## Lines of an excerpt -/

def upperLine (style : Style) (excerpt : Excerpt) : List Char :=
  ' ' :: ' ' :: excerpt.before ++ (style.alarm (.ofList excerpt.marked)).toList ++ excerpt.after

def lowerLine (style : Style) (excerpt : Excerpt) : List Char :=
  List.replicate (2 + excerpt.column) ' ' ++ (style.alarm (.ofList excerpt.marker)).toList

theorem toList_render (style : Style) (excerpt : Excerpt) :
    (excerpt.render style).toList = excerpt.upperLine style ++ '\n' :: excerpt.lowerLine style := by
  simp [render, upperLine, lowerLine, Nat.add_comm 2, List.replicate_succ]

/-- An excerpt that marks a part of a line is two lines.  Without emphasis these are the whole line
and the marker under the part; emphasis is put around the part and around the marker only. -/
structure Displays (line : List Char) (start length : Nat) (excerpt : Excerpt) : Prop
    extends Marks line start length excerpt where
  plain : lines (excerpt.render .plain).toList =
    [' ' :: ' ' :: line,
      List.replicate (2 + start) ' ' ++ '^' :: List.replicate (excerpt.width - 1) '~']
  styled (style : Style) :
    lines (excerpt.render style).toList = [excerpt.upperLine style, excerpt.lowerLine style]

variable {excerpt : Excerpt} {line : List Char} {start length : Nat}

theorem Marks.lines_render (marks : excerpt.Marks line start length) (unbroken : '\n' ∉ line)
    (style : Style) :
    lines (excerpt.render style).toList = [excerpt.upperLine style, excerpt.lowerLine style] := by
  rw [← marks.whole, List.mem_append, List.mem_append, not_or, not_or] at unbroken
  obtain ⟨⟨before, marked⟩, after⟩ := unbroken
  have emphasised : '\n' ∉ (style.alarm (.ofList excerpt.marked)).toList :=
    style.newline_notMem_alarm (by rwa [String.toList_ofList])
  have marker : '\n' ∉ (style.alarm (.ofList excerpt.marker)).toList :=
    style.newline_notMem_alarm (by simp [Excerpt.marker])
  have space (count : Nat) : '\n' ∉ List.replicate count ' ' := by simp
  rw [toList_render]
  refine lines_pair ?_ (List.not_mem_append (space _) marker)
  exact List.not_mem_append
    (List.not_mem_append (List.not_mem_append (space 2) before) emphasised) after

theorem Marks.displays (marks : excerpt.Marks line start length) (unbroken : '\n' ∉ line) :
    excerpt.Displays line start length := by
  have styled := marks.lines_render unbroken
  refine ⟨marks, ?_, styled⟩
  rw [styled, upperLine, lowerLine, Style.alarm_plain, Style.alarm_plain, String.toList_ofList,
    String.toList_ofList, marks.column, ← marks.whole]
  rfl

end Excerpt

/-- At any position and for any length there is no excerpt exactly if the text has no such line or
the line is blank.  Otherwise the excerpt displays the line and marks a part of it that starts at
the column and has the length, as far as the line reaches. -/
theorem Diagnostics.excerpt_clamped (diagnostics : Diagnostics) (source : String)
    (position : Position) (length : Int) :
    (Excerpt.at? (diagnostics.register source).lines position length = none ↔
      ¬ (1 ≤ position.line ∧ position.line ≤ (Text.lines source.toList).length) ∨
        ∃ line, HasLine source.toList position.line line ∧
          isBlankLine (dropTrailing (· == '\r') line) = true) ∧
    ∀ excerpt, Excerpt.at? (diagnostics.register source).lines position length = some excerpt →
      ∃ line, HasLine source.toList position.line line ∧
        excerpt.Displays (dropTrailing (· == '\r') line) (max (position.column - 1) 0).toNat
          (max length 1).toNat := by
  simp only [register, Excerpt.at?_eq_none_iff, Excerpt.lineAt?_eq_none_iff,
    Excerpt.at?_eq_some_iff, Excerpt.lineAt?_eq_some_iff]
  constructor
  · refine or_congr_right ⟨?_, ?_⟩
    · rintro ⟨_, ⟨line, has, rfl⟩, blank⟩
      exact ⟨line, has, blank⟩
    · rintro ⟨line, has, blank⟩
      exact ⟨_, ⟨line, has, rfl⟩, blank⟩
  · rintro excerpt ⟨_, ⟨line, has, rfl⟩, _, rfl⟩
    obtain ⟨trailing, same, _⟩ := dropTrailing_append_trailing (· == '\r') line
    have unbroken : '\n' ∉ dropTrailing (· == '\r') line := fun mem =>
      has.unbroken (same ▸ List.mem_append_left trailing mem)
    exact ⟨line, has, (Excerpt.ofLine_marks _ position.column length).displays unbroken⟩

example : (Excerpt.at? (lines "literally x itu 1\nspill x + \"a\"\r".toList) ⟨2, 9⟩ 90).map
    (Excerpt.render .plain) = some "  spill x + \"a\"\n          ^~~~~" := by
  decide

end BilingualScript
