import BilingualScript.Proofs.Session.Joining

/-!
# Lexing texts one after another

Two texts with a newline between them are lexed apart, whatever strange characters there are in
them, unless the first one leaves quotes open.
-/

namespace BilingualScript

namespace Lexed

open Segment

theorem closed_iff (text : List Char) (segments : List Segment) :
    (∀ fault ∈ (placedBehind text segments).filterMap fault?,
      fault.cause ≠ .unterminatedString) ↔
      ∀ segment ∈ segments, segment.role ≠ .unterminated := by
  induction segments generalizing text with
  | nil => simp [placedBehind]
  | cons segment segments ih =>
      obtain ⟨role, content⟩ := segment
      rw [placedBehind, List.filterMap_cons, List.forall_mem_cons, ← ih (text ++ content)]
      cases role <;> simp [fault?]

theorem cut_break_of_closed {front : List Char}
    (closed : ∀ fault ∈ (ofChars front).faults, fault.cause ≠ .unterminatedString)
    (behind : List Char) :
    cut (front ++ '\n' :: behind) = cut front ++ newline :: cut behind := by
  rw [faults_eq] at closed
  exact Segment.cut_break_of_closed ((closed_iff _ _).1 closed) behind

end Lexed

namespace Diagnostics

variable {diagnostics : Diagnostics} {front behind : List (List Char)} {fault : LexicalFault}

theorem ofLexicalFault_append_left (within : fault.position.line ≤ front.length)
    (same : diagnostics.lines = front ++ behind) :
    diagnostics.ofLexicalFault fault =
      { diagnostics with lines := front }.ofLexicalFault fault := by
  simp only [ofLexicalFault, lexicalReport, report, Excerpt.at?, same,
    Excerpt.lineAt?_append_left within]

theorem ofLexicalFault_append_right (within : 0 < fault.position.line)
    (same : diagnostics.lines = front ++ behind) :
    diagnostics.ofLexicalFault (fault.moved front.length) =
      ({ diagnostics with lines := behind }.ofLexicalFault fault).moved front.length := by
  simp only [ofLexicalFault, lexicalReport, report, Excerpt.at?, same, Report.moved,
    LexicalFault.moved, Excerpt.lineAt?_append_right _ _ within]

end Diagnostics

theorem Session.lexicalReports_joined (diagnostics : Diagnostics) (first second : String) :
    ((Lexed.ofText first).faults ++ (Lexed.ofText second).faults.map
        (LexicalFault.moved (first.toList.count '\n' + 1 : Nat))).map
        (diagnostics.register (first ++ "\n" ++ second)).ofLexicalFault =
      (Lexed.ofText first).faults.map (diagnostics.register first).ofLexicalFault ++
        ((Lexed.ofText second).faults.map (diagnostics.register second).ofLexicalFault).map
          (Report.moved (first.toList.count '\n' + 1 : Nat)) := by
  have lines := lines_register diagnostics first second
  have length : (Text.lines first.toList).length = first.toList.count '\n' + 1 :=
    Text.length_lines _
  rw [List.map_append, List.map_map, List.map_map]
  congr 1
  · refine List.map_congr_left fun fault mem => ?_
    obtain ⟨_, starts, _⟩ := Lexed.starts_of_mem_faults mem
    refine Diagnostics.ofLexicalFault_append_left ?_ lines
    rw [length]
    exact starts.line_le
  · refine List.map_congr_left fun fault mem => ?_
    obtain ⟨_, starts, _⟩ := Lexed.starts_of_mem_faults mem
    rw [← length]
    exact Diagnostics.ofLexicalFault_append_right starts.line_pos lines

/-- Two texts with a newline between them, of which the first leaves no quotes open, have the tokens
and the mistakes of both.  The newline stands where the first text ends, and what belongs to the
second stands farther down by the lines of the first. -/
theorem Lexed.ofText_joined (first second : String)
    (closed : ∀ fault ∈ (ofText first).faults, fault.cause ≠ .unterminatedString) :
    let lines : Int := (1 + first.toList.count '\n' : Nat)
    let source := first ++ "\n" ++ second
    (ofText source).tokens.items =
        (ofText first).tokens.items ++
          ⟨.newline, "\n", .hampa, (ofText first).tokens.stop.position⟩ ::
            (ofText second).tokens.items.map (Token.moved lines) ∧
      (ofText source).tokens.stop = (ofText second).tokens.stop.moved lines ∧
      (ofText source).faults =
        (ofText first).faults ++ (ofText second).faults.map (LexicalFault.moved lines) ∧
      ∀ session : Session, (session.tokens source).reports =
        (session.tokens first).reports ++
          (session.tokens second).reports.map (Report.moved lines) := by
  intro lines source
  have text : source.toList = first.toList ++ '\n' :: second.toList := by simp [source]
  have cuts := cut_break_of_closed closed second.toList
  have faults : (ofText source).faults =
      (ofText first).faults ++ (ofText second).faults.map (LexicalFault.moved lines) := by
    rw [ofText, text, faults_of_cut_break cuts, Nat.add_comm]
    rfl
  refine ⟨?_, ?_, faults, fun session => ?_⟩
  · rw [ofText, text, items_of_cut_break cuts, Nat.add_comm]
    simp only [ofText, ofChars, Token.eof, Position.start_after]
    rfl
  · simp only [ofText, ofChars, Token.eof, Token.moved, Position.start_after, text,
      Position.behind_break, lines, Nat.add_comm]
  · have reports := Session.lexicalReports_joined session.diagnostics first second
    rw [Nat.add_comm] at reports
    exact (congrArg (List.map _) faults).trans reports

/-- A number with a point and a strange character at the end of the first text, and quotes in the
second that it leaves open. -/
theorem Lexed.ofText_joined_of_point :
    (∀ fault ∈ (ofText "<\n1.@").faults, fault.cause ≠ .unterminatedString) ∧
      (ofText ("<\n1.@" ++ "\n" ++ "= \"a\n")).tokens.items =
        [⟨.less, "<", .hampa, ⟨1, 1⟩⟩, ⟨.newline, "\n", .hampa, ⟨1, 2⟩⟩,
          ⟨.number, "1", literal .number ['1'], ⟨2, 1⟩⟩, ⟨.dot, ".", .hampa, ⟨2, 2⟩⟩,
          ⟨.newline, "\n", .hampa, ⟨2, 4⟩⟩, ⟨.equal, "=", .hampa, ⟨3, 1⟩⟩] ∧
      (ofText ("<\n1.@" ++ "\n" ++ "= \"a\n")).faults =
        [⟨.unexpectedCharacter, ⟨2, 3⟩⟩, ⟨.unterminatedString, ⟨3, 3⟩⟩] := by
  have closed : ∀ fault ∈ (ofText "<\n1.@").faults, fault.cause ≠ .unterminatedString := by
    decide +kernel
  obtain ⟨items, _, faults, _⟩ := ofText_joined "<\n1.@" "= \"a\n" closed
  exact ⟨closed, items.trans (by decide +kernel), faults.trans (by decide +kernel)⟩

end BilingualScript
