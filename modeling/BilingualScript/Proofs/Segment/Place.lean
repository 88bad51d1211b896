import BilingualScript.Proofs.Segment.Segmentation

/-!
# Places

Where a segment stands, read off the text in front of it: the line is one more than the number
of newlines there, the column one more than the number of characters behind the last of them.
-/

namespace BilingualScript

namespace Position

def behind (text : List Char) : Position :=
  ⟨1 + text.count '\n', 1 + (text.reverse.takeWhile (· != '\n')).length⟩

theorem behind_concat (text : List Char) (char : Char) :
    behind (text ++ [char]) = (behind text).next char := by
  by_cases newline : char = '\n'
  · subst newline
    simp [behind, next]
    omega
  · simp [behind, next, newline]
    omega

theorem start_after (text : List Char) : start.after text = behind text := by
  rw [← text.reverse_reverse]
  induction text.reverse with
  | nil => rfl
  | cons char before ih =>
      rw [List.reverse_cons, after_append, ih, behind_concat]
      rfl

end Position

namespace Segment

def placedBehind (text : List Char) : List Segment → List (Position × Segment)
  | [] => []
  | segment :: rest => (.behind text, segment) :: placedBehind (text ++ segment.text) rest

theorem place_behind (text : List Char) (segments : List Segment) :
    place (.behind text) segments = placedBehind text segments := by
  induction segments generalizing text with
  | nil => rfl
  | cons segment rest ih =>
      have next : (Position.behind text).after segment.text = .behind (text ++ segment.text) := by
        rw [← Position.start_after, ← Position.after_append, Position.start_after]
      rw [place, placedBehind, next, ih]

end Segment

end BilingualScript
