import BilingualScript.Report.Host
import Mathlib.Data.List.TakeWhile

/-!
# What a guard shows

A guard shows an interruption and lets it end there or go on.  What it shows of an error of another
component is taken for a template, so a text with a brace in it is not shown as it is.
-/

namespace BilingualScript

/-! ## Templates without arguments -/

namespace Text.Template

def isBrace (char : Char) : Bool := char == '{' || char == '}'

theorem not_isBrace_iff (char : Char) :
    isBrace char = false ↔ (char != '{' && char != '}') = true := by
  simp [isBrace]

theorem any_isBrace_eq_false_iff (chars : List Char) :
    chars.any isBrace = false ↔
      chars.takeWhile (fun char => char != '{' && char != '}') = chars := by
  rw [List.takeWhile_eq_self_iff, List.any_eq_false]
  simp only [← not_isBrace_iff, Bool.not_eq_true]

theorem exists_of_bind_eq_ok {ε α β : Type} {first : Except ε α} {next : α → Except ε β}
    {result : β} (found : first >>= next = .ok result) :
    ∃ middle, first = .ok middle ∧ next middle = .ok result := by
  cases first with
  | error => cases found
  | ok middle => exact ⟨middle, rfl, found⟩

theorem text_of_no_arguments (inner : Filling) (numbering : Numbering) (place : Place)
    (filled : List Char × Numbering) : place.text inner [] numbering ≠ .ok filled := by
  intro found
  unfold Place.text at found
  obtain ⟨choice, _, found⟩ := exists_of_bind_eq_ok found
  cases found

theorem fillWith_of_plain (inner : Filling) (arguments : List (List Char)) (count : Nat)
    (numbering : Numbering) {chars : List Char} (plain : chars.any isBrace = false) :
    fillWith inner arguments count numbering chars = .ok (chars, numbering) := by
  cases count with
  | zero => rfl
  | succ count => simp [fillWith, (any_isBrace_eq_false_iff chars).1 plain]

/-- Without arguments a text with braces gets shorter, or it is no template. -/
theorem fillWith_cases {inner : Filling} {count : Nat} {numbering : Numbering}
    {chars : List Char} {filled : List Char × Numbering} (enough : chars.length ≤ count)
    (found : fillWith inner [] count numbering chars = .ok filled) :
    chars.any isBrace = false ∧ filled.1 = chars ∨ filled.1.length < chars.length := by
  induction count generalizing numbering chars filled with
  | zero =>
      obtain rfl := List.eq_nil_of_length_eq_zero (Nat.le_zero.1 enough)
      obtain rfl := Except.ok.inj found
      exact .inl ⟨rfl, rfl⟩
  | succ count ih =>
      rw [any_isBrace_eq_false_iff]
      simp only [fillWith] at found
      obtain ⟨behind, whole⟩ :=
        List.takeWhile_prefix (fun char => char != '{' && char != '}') (l := chars)
      generalize chars.takeWhile (fun char => char != '{' && char != '}') = plain at *
      subst whole
      rw [List.drop_left] at found
      rw [List.length_append] at enough
      -- a doubled brace comes out as a single one, and nothing behind it makes up for that
      have doubled {brace : Char} {rest : List Char} (shape : behind = brace :: brace :: rest)
          {later : List Char × Numbering}
          (here : fillWith inner [] count numbering rest = .ok later) :
          (plain ++ brace :: later.1).length < (plain ++ behind).length := by
        subst shape
        have shorter : later.1.length ≤ rest.length := by
          simp only [List.length_cons] at enough
          rcases ih (by omega) here with ⟨_, same⟩ | shorter
          · exact Nat.le_of_eq (congrArg List.length same)
          · exact Nat.le_of_lt shorter
        simp only [List.length_append, List.length_cons]
        omega
      split at found
      · obtain rfl := Except.ok.inj found
        exact .inl ⟨by simp, by simp⟩
      · obtain ⟨later, here, found⟩ := exists_of_bind_eq_ok found
        obtain rfl := Except.ok.inj found
        exact .inr (doubled rfl here)
      · obtain ⟨later, here, found⟩ := exists_of_bind_eq_ok found
        obtain rfl := Except.ok.inj found
        exact .inr (doubled rfl here)
      · cases found
      · obtain ⟨place, _, found⟩ := exists_of_bind_eq_ok found
        obtain ⟨text, here, _⟩ := exists_of_bind_eq_ok found
        exact absurd here (text_of_no_arguments _ _ _ _)
      · cases found

/-- A template without arguments stands for itself exactly if it has no braces. -/
theorem fill_self_iff (template : String) :
    fill template [] = .ok template ↔ template.toList.any isBrace = false := by
  unfold fill
  simp only [List.map_nil]
  constructor
  · intro found
    obtain ⟨filled, here, found⟩ := exists_of_bind_eq_ok found
    have same : String.ofList filled.1 = template := Except.ok.inj found
    rcases fillWith_cases (Nat.le_refl _) here with ⟨plain, _⟩ | shorter
    · exact plain
    · rw [← same] at shorter
      simp at shorter
  · intro plain
    rw [fillWith_of_plain _ _ _ _ plain]
    simp [bind, Except.bind, pure, Except.pure]

end Text.Template

/-! ## Errors of other components -/

theorem ForeignError.any_isBrace_description (error : ForeignError) :
    error.description.toList.any Text.Template.isBrace =
      (error.name ++ error.text).toList.any Text.Template.isBrace := by
  have brackets : "unknown error: '".toList.any Text.Template.isBrace = false := by decide +kernel
  have colon : ": ".toList.any Text.Template.isBrace = false := by decide +kernel
  have quote : "'".toList.any Text.Template.isBrace = false := by decide +kernel
  unfold description
  repeat rw [String.toList_append, List.any_append]
  rw [brackets, colon, quote, Bool.false_or, Bool.or_false, Bool.or_false]

theorem HostError.render_inj {style : Text.Style} {message message' : String} {internal : Bool} :
    render style ⟨message, internal⟩ = render style ⟨message', internal⟩ ↔ message = message' := by
  constructor
  · intro same
    have chars := congrArg String.toList same
    simpa [render, String.toList_inj] using chars
  · rintro rfl
    rfl

namespace Guard

theorem announce_eq_present_iff (guard : Guard) (message : String) (internal : Bool)
    (otherwise : Aftermath) (goesOn : ∀ error, otherwise ≠ .raised error) :
    guard.announce message internal otherwise = guard.present ⟨message, internal⟩ otherwise ↔
      message.toList.any Text.Template.isBrace = false := by
  rw [← Text.Template.fill_self_iff]
  unfold announce HostError.ofTemplate
  rw [List.map_nil]
  cases filled : Text.Template.fill message [] with
  | ok message' =>
      simp only [present, Prod.mk.injEq, and_true, HostError.render_inj]
      exact ⟨congrArg Except.ok, Except.ok.inj⟩
  | error fault =>
      have raised : Aftermath.raised (.ofTemplate fault) ≠
          (guard.present ⟨message, internal⟩ otherwise).2 := by
        unfold present
        cases guard.fatal with
        | true => exact nofun
        | false => exact (goesOn _).symm
      exact ⟨fun same => absurd (congrArg Prod.snd same) raised, nofun⟩

/-- What a guard writes and does if it shows every text as it is. -/
def verbatim (guard : Guard) : Interruption → String × Aftermath
  | .exit => ("", .unchanged)
  | .keyboard => guard.present ⟨"keyboard interrupt", false⟩ .swallowed
  | .stackExhausted => guard.present ⟨"maximum recursion depth exceeded", false⟩ .swallowed
  | .shown error => guard.present error .swallowed
  | .foreign error => guard.present ⟨error.description, true⟩ .unchanged

/-- A guard shows an interruption as it is exactly if it is no error of another component whose
name or text has a brace. -/
theorem handle_eq_verbatim_iff (guard : Guard) (interruption : Interruption) :
    guard.handle interruption = guard.verbatim interruption ↔
      ∀ error, interruption = .foreign error →
        (error.name ++ error.text).toList.any Text.Template.isBrace = false := by
  cases interruption with
  | exit => exact ⟨nofun, fun _ => rfl⟩
  | shown error => exact ⟨nofun, fun _ => rfl⟩
  | keyboard =>
      have shown := (guard.announce_eq_present_iff "keyboard interrupt" false .swallowed nofun).2
        (by decide +kernel)
      exact ⟨nofun, fun _ => shown⟩
  | stackExhausted =>
      have shown := (guard.announce_eq_present_iff "maximum recursion depth exceeded" false
        .swallowed nofun).2 (by decide +kernel)
      exact ⟨nofun, fun _ => shown⟩
  | foreign error =>
      have shown := guard.announce_eq_present_iff error.description true .unchanged nofun
      rw [ForeignError.any_isBrace_description] at shown
      simpa [handle, verbatim] using shown

/-- Braces around a word are taken for a place that asks for an argument of that name. -/
theorem handle_braces_ne_verbatim :
    Guard.handle ⟨.plain, false⟩ (.foreign (.ofValue "\x7bx\x7d")) =
        ("", .raised ⟨"KeyError", "'x'"⟩) ∧
      Guard.verbatim ⟨.plain, false⟩ (.foreign (.ofValue "\x7bx\x7d")) =
        ("[internal] error: unknown error: 'ValueError: \x7bx\x7d'\n", .unchanged) := by
  decide +kernel

end Guard

end BilingualScript
