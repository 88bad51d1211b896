import BilingualScript.Proofs.Reading.Balance
import BilingualScript.Proofs.Reading.Completeness

/-!
# Conditions and their blocks

What stands behind a word that asks for a condition, up to the end of the last block.  Behind that
block there is always room for one blank line more.
-/

namespace BilingualScript.Grammar

theorem Lines.of_nil {rest : List Token} {stmts : List Stmt} (lines : Lines true [] rest stmts) :
    rest = [] ∧ stmts = [] := by
  cases lines with
  | nil => exact ⟨rfl, rfl⟩
  | cons statement =>
      obtain ⟨_, _, impossible, _⟩ := statement.start_kind
      cases impossible

theorem Lines.frame_newline {tokens rest : List Token} {stmts : List Stmt}
    (lines : Lines true tokens rest stmts) :
    ∃ front, tokens = front ++ rest ∧ ∀ newline other, newline.kind = .newline →
      Lines true (front ++ newline :: other) other stmts := by
  match tokens, rest, stmts, lines with
  | _, _, _, .nil => exact ⟨[], rfl, fun _ _ kind => .blank kind .nil⟩
  | _, _, _, @Lines.blank _ newline _ _ _ kind behind =>
      obtain ⟨front, rfl, framed⟩ := Lines.frame_newline behind
      exact ⟨newline :: front, rfl, fun _ _ kind' => .blank kind (framed _ _ kind')⟩
  | _, _, _, .cons statement behind =>
      obtain ⟨front, ending, rfl, ends, framed⟩ := statement.frame
      cases ends with
      | stop =>
          obtain ⟨rfl, rfl⟩ := behind.of_nil
          exact ⟨front, rfl, fun _ _ kind => .cons (framed.framed _ _ (.newline kind)) .nil⟩
      | @newline newline _ kind =>
          obtain ⟨front', rfl, framed'⟩ := Lines.frame_newline behind
          refine ⟨front ++ newline :: front', by simp, fun _ _ kind' => ?_⟩
          rw [List.append_assoc, List.cons_append]
          exact .cons (framed.framed _ _ (.newline kind)) (framed' _ _ kind')

theorem frame_newline_of_branches {tokens behind rest : List Token} {body : List Stmt}
    {otherwise : Otherwise} (lines : Lines true tokens behind body)
    (branches : Branches true behind rest otherwise) :
    ∃ front, tokens = front ++ rest ∧ ∀ newline other, newline.kind = .newline →
      ∃ between, Lines true (front ++ newline :: other) between body ∧
        Branches true between other otherwise := by
  match behind, rest, otherwise, branches with
  | _, _, _, .nothing =>
      obtain ⟨front, same, framed⟩ := lines.frame_newline
      exact ⟨front, same, fun _ other kind => ⟨other, framed _ _ kind, .nothing⟩⟩
  | _, _, _, @Branches.kalogak _ word newline _ _ _ kind newline_kind inner =>
      obtain ⟨front, rfl, _, framed⟩ := lines.frame (List.cons_ne_nil _ _)
      obtain ⟨front', rfl, framed'⟩ := inner.frame_newline
      refine ⟨front ++ word :: newline :: front', by simp, fun _ other kind' => ?_⟩
      have branches := Branches.kalogak kind newline_kind (framed' _ other kind')
      exact ⟨_, by simpa using framed _, branches⟩
  | _, _, _, @Branches.perhaps _ word newline _ _ _ _ _ _ _ kind phrase newline_kind inner
      others =>
      obtain ⟨front, rfl, _, framed⟩ := lines.frame (List.cons_ne_nil _ _)
      obtain ⟨middle, rfl, _, phrase_framed⟩ := phrase.frame
      obtain ⟨front', rfl, framed'⟩ := frame_newline_of_branches inner others
      refine ⟨front ++ word :: (middle ++ newline :: front'), by simp, fun _ other kind' => ?_⟩
      obtain ⟨_, inner, others⟩ := framed' _ other kind'
      have branches := Branches.perhaps kind (phrase_framed _) newline_kind inner others
      exact ⟨_, by simpa using framed _, branches⟩

def Conditional (tokens rest : List Token) (parts : Expr × List Stmt × Otherwise) : Prop :=
  ∃ newline inner behind, Phrase true .assignment tokens (newline :: inner) parts.1 ∧
    newline.kind = .newline ∧ Lines true inner behind parts.2.1 ∧
      Branches true behind rest parts.2.2

section Conditional

variable {tokens rest : List Token} {parts : Expr × List Stmt × Otherwise}

theorem Conditional.frame (conditional : Conditional tokens rest parts) (nonempty : rest ≠ []) :
    ∃ front, tokens = front ++ rest ∧ ∀ other, Conditional (front ++ other) other parts := by
  obtain ⟨newline, inner, behind, phrase, kind, body, others⟩ := conditional
  obtain ⟨front, rfl, _, framed⟩ := phrase.frame
  obtain ⟨others_front, rfl, _, others_framed⟩ := others.frame nonempty
  obtain ⟨body_front, rfl, _, body_framed⟩ := body.frame (by simp [nonempty])
  refine ⟨front ++ newline :: (body_front ++ others_front), by simp, fun other => ?_⟩
  exact ⟨newline, _, _, by simpa using framed _, kind, body_framed _, others_framed other⟩

theorem Conditional.frame_newline (conditional : Conditional tokens rest parts) :
    ∃ front, tokens = front ++ rest ∧ ∀ newline other, newline.kind = .newline →
      Conditional (front ++ newline :: other) other parts := by
  obtain ⟨newline, inner, behind, phrase, kind, body, others⟩ := conditional
  obtain ⟨front, rfl, _, framed⟩ := phrase.frame
  obtain ⟨front', rfl, framed'⟩ := frame_newline_of_branches body others
  refine ⟨front ++ newline :: front', by simp, fun _ _ kind' => ?_⟩
  obtain ⟨_, body, others⟩ := framed' _ _ kind'
  exact ⟨newline, _, _, by simpa using framed _, kind, body, others⟩

theorem Conditional.statement {word udahan : Token} {closing : List Token}
    (conditional : Conditional tokens (udahan :: closing) parts) (kalo : word.kind = .kalo)
    (kind : udahan.kind = .udahan) (ends : End closing rest) :
    Statement true (word :: tokens) rest (.kalo parts.1 parts.2.1 parts.2.2) := by
  obtain ⟨newline, inner, behind, phrase, newline_kind, body, others⟩ := conditional
  exact .kalo kalo phrase newline_kind body others kind ends

end Conditional

end BilingualScript.Grammar
