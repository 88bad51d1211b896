import BilingualScript.Program.Dump
import Mathlib.Data.List.TakeWhile

/-!
# Outlines

An outline is an atom, or parts in parentheses with a space between them.  Where atoms have none of
the characters that delimit them, or stand in quotes, an outline can be told from a text that starts
with it, and so can outlines with a separator between them.
-/

namespace BilingualScript

inductive Outline where
  | atom (text : List Char)
  | list (parts : List Outline)

namespace Outline

mutual

def write : Outline → List Char
  | .atom text => text
  | .list parts => parenthesized (writeAll parts)

def writeAll : List Outline → List (List Char)
  | [] => []
  | outline :: rest => outline.write :: writeAll rest

end

/-! ## Atoms -/

def delimiters : List Char := [' ', '\n', '(', ')', '"']

inductive IsAtom : List Char → Prop
  | plain {text} : text ≠ [] → (∀ char ∈ text, char ∉ delimiters) → IsAtom text
  | quoted {body} : '"' ∉ body → IsAtom ('"' :: (body ++ ['"']))

def Stops (tail : List Char) : Prop := ∀ char ∈ tail.head?, char ∈ [' ', '\n', ')']

theorem Stops.delimits {tail : List Char} (stops : Stops tail) :
    ∀ char ∈ tail.head?, char ∈ delimiters := by
  intro char mem
  have here := stops char mem
  simp only [List.mem_cons, List.not_mem_nil, or_false] at here
  rcases here with rfl | rfl | rfl <;> decide

theorem append_inj_of_wanted (wanted : Char → Prop) [DecidablePred wanted]
    {front front' tail tail' : List Char} (all : ∀ char ∈ front, wanted char)
    (all' : ∀ char ∈ front', wanted char) (stops : ∀ char ∈ tail.head?, ¬ wanted char)
    (stops' : ∀ char ∈ tail'.head?, ¬ wanted char) (same : front ++ tail = front' ++ tail') :
    front = front' ∧ tail = tail' := by
  have cut {front tail : List Char} (all : ∀ char ∈ front, wanted char)
      (stops : ∀ char ∈ tail.head?, ¬ wanted char) :
      (front ++ tail).takeWhile (fun char => decide (wanted char)) = front := by
    rw [List.takeWhile_append_of_pos (by simpa using all)]
    cases tail with
    | nil => simp
    | cons char tail => simp [stops char rfl]
  have fronts : front = front' := by rw [← cut all stops, same, cut all' stops']
  subst fronts
  exact ⟨rfl, List.append_cancel_left same⟩

theorem IsAtom.append_inj {text text' tail tail' : List Char} (atom : IsAtom text)
    (atom' : IsAtom text') (stops : Stops tail) (stops' : Stops tail')
    (same : text ++ tail = text' ++ tail') : text = text' ∧ tail = tail' := by
  have apart {text tail behind : List Char} (nonempty : text ≠ [])
      (plain : ∀ char ∈ text, char ∉ delimiters) : text ++ tail ≠ '"' :: behind := by
    intro same
    obtain ⟨first, rest, rfl⟩ := List.exists_cons_of_ne_nil nonempty
    obtain ⟨rfl, _⟩ := List.cons.inj same
    exact plain '"' List.mem_cons_self (by decide)
  cases atom with
  | plain nonempty plain =>
      cases atom' with
      | plain _ plain' =>
          exact append_inj_of_wanted (· ∉ delimiters) plain plain'
            (fun char mem => not_not.2 (stops.delimits char mem))
            (fun char mem => not_not.2 (stops'.delimits char mem)) same
      | quoted => exact absurd same (apart nonempty plain)
  | @quoted body closed =>
      cases atom' with
      | plain nonempty plain => exact absurd same.symm (apart nonempty plain)
      | @quoted body' closed' =>
          have inner : body ++ '"' :: tail = body' ++ '"' :: tail' := by simpa using same
          have stops (tail : List Char) : ∀ char ∈ ('"' :: tail).head?, ¬ char ≠ '"' := by
            rintro _ ⟨⟩
            simp
          obtain ⟨rfl, tails⟩ := append_inj_of_wanted (· ≠ '"')
            (fun char mem => by rintro rfl; exact closed mem)
            (fun char mem => by rintro rfl; exact closed' mem) (stops tail) (stops tail') inner
          exact ⟨rfl, (List.cons.inj tails).2⟩

theorem IsAtom.ne_paren {text tail rest : List Char} (atom : IsAtom text) :
    text ++ tail ≠ '(' :: rest := by
  intro same
  cases atom with
  | plain nonempty plain =>
      obtain ⟨first, others, rfl⟩ := List.exists_cons_of_ne_nil nonempty
      obtain ⟨rfl, _⟩ := List.cons.inj same
      exact plain '(' List.mem_cons_self (by decide)
  | quoted => simp at same

/-! ## Writing -/

mutual

/-- All atoms are such, and no parentheses stand around nothing. -/
def IsProper : Outline → Prop
  | .atom text => IsAtom text
  | .list parts => parts ≠ [] ∧ AllProper parts

def AllProper : List Outline → Prop
  | [] => True
  | outline :: rest => outline.IsProper ∧ AllProper rest

end

theorem parenthesized_append (parts : List (List Char)) (tail : List Char) :
    parenthesized parts ++ tail = '(' :: ([' '].intercalate parts ++ ')' :: tail) := by
  simp [parenthesized]

mutual

/-- An outline can be told from a text that starts with it. -/
theorem write_append_inj {outline outline' : Outline} {tail tail' : List Char}
    (proper : outline.IsProper) (proper' : outline'.IsProper) (stops : Stops tail)
    (stops' : Stops tail') (same : outline.write ++ tail = outline'.write ++ tail') :
    outline = outline' ∧ tail = tail' := by
  match outline, outline' with
  | .atom text, .atom text' =>
      obtain ⟨rfl, tails⟩ := IsAtom.append_inj proper proper' stops stops' same
      exact ⟨rfl, tails⟩
  | .atom text, .list parts =>
      rw [write, write, parenthesized_append] at same
      exact absurd same (IsAtom.ne_paren proper)
  | .list parts, .atom text =>
      rw [write, write, parenthesized_append] at same
      exact absurd same.symm (IsAtom.ne_paren proper')
  | .list parts, .list parts' =>
      rw [write, write, parenthesized_append, parenthesized_append] at same
      have closing (tail : List Char) : Stops (')' :: tail) := by
        rintro _ ⟨⟩
        decide
      obtain ⟨rfl, tails⟩ := writeAll_append_inj ' ' proper.1 proper'.1 proper.2
        proper'.2 (by decide) (closing tail) (closing tail') (by simp) (by simp)
        (List.cons.inj same).2
      exact ⟨rfl, (List.cons.inj tails).2⟩

theorem writeAll_append_inj (separator : Char) {outlines outlines' : List Outline}
    {tail tail' : List Char} (nonempty : outlines ≠ []) (nonempty' : outlines' ≠ [])
    (proper : AllProper outlines) (proper' : AllProper outlines')
    (separates : separator ∈ [' ', '\n', ')'])
    (stops : Stops tail) (stops' : Stops tail') (ends : tail.head? ≠ some separator)
    (ends' : tail'.head? ≠ some separator)
    (same : [separator].intercalate (writeAll outlines) ++ tail =
      [separator].intercalate (writeAll outlines') ++ tail') :
    outlines = outlines' ∧ tail = tail' := by
  have separated (tail : List Char) : Stops (separator :: tail) := by
    rintro _ ⟨⟩
    exact separates
  match outlines, outlines' with
  | [outline], [outline'] =>
      simp only [writeAll, List.intercalate_singleton] at same
      obtain ⟨rfl, tails⟩ := write_append_inj proper.1 proper'.1 stops stops' same
      exact ⟨rfl, tails⟩
  -- where one list ends and the other goes on, a separator stands behind only one of them
  | [outline], outline' :: next' :: rest' =>
      simp only [writeAll, List.intercalate_singleton, List.intercalate_cons_cons,
        List.append_assoc, List.singleton_append] at same
      obtain ⟨_, tails⟩ := write_append_inj proper.1 proper'.1 stops (separated _) same
      exact absurd (by rw [tails]; rfl) ends
  | outline :: next :: rest, [outline'] =>
      simp only [writeAll, List.intercalate_singleton, List.intercalate_cons_cons,
        List.append_assoc, List.singleton_append] at same
      obtain ⟨_, tails⟩ := write_append_inj proper.1 proper'.1 (separated _) stops' same
      exact absurd (by rw [← tails]; rfl) ends'
  | outline :: next :: rest, outline' :: next' :: rest' =>
      simp only [writeAll, List.intercalate_cons_cons, List.append_assoc, List.singleton_append]
        at same
      obtain ⟨rfl, tails⟩ :=
        write_append_inj proper.1 proper'.1 (separated _) (separated _) same
      obtain ⟨same, tails⟩ := writeAll_append_inj separator (List.cons_ne_nil next rest)
        (List.cons_ne_nil next' rest') proper.2 proper'.2 separates stops stops' ends ends'
        (List.cons.inj tails).2
      exact ⟨by rw [same], tails⟩

end

theorem IsProper.write_ne_nil {outline : Outline} (proper : outline.IsProper) :
    outline.write ≠ [] := by
  match outline with
  | .atom text =>
      cases proper with
      | plain nonempty => exact nonempty
      | quoted => exact List.cons_ne_nil _ _
  | .list parts => exact List.cons_ne_nil _ _

theorem intercalate_writeAll_ne_nil (separator : Char) {outlines : List Outline}
    (nonempty : outlines ≠ []) (proper : AllProper outlines) :
    [separator].intercalate (writeAll outlines) ≠ [] := by
  match outlines with
  | [outline] => simpa [writeAll] using proper.1.write_ne_nil
  | outline :: next :: rest => simp [writeAll]

theorem lines_inj {outlines outlines' : List Outline} (proper : AllProper outlines)
    (proper' : AllProper outlines')
    (same : ['\n'].intercalate (writeAll outlines) = ['\n'].intercalate (writeAll outlines')) :
    outlines = outlines' := by
  match outlines, outlines' with
  | [], [] => rfl
  | [], outline :: rest =>
      have nonempty := intercalate_writeAll_ne_nil '\n' (List.cons_ne_nil outline rest) proper'
      exact absurd same.symm nonempty
  | outline :: rest, [] =>
      have nonempty := intercalate_writeAll_ne_nil '\n' (List.cons_ne_nil outline rest) proper
      exact absurd same nonempty
  | outline :: rest, outline' :: rest' =>
      have done : Stops [] := by simp [Stops]
      have lines := writeAll_append_inj '\n' (List.cons_ne_nil outline rest)
        (List.cons_ne_nil outline' rest') proper proper' (by decide) done done (by simp) (by simp)
        (congrArg (· ++ []) same)
      exact lines.1

end Outline

end BilingualScript
