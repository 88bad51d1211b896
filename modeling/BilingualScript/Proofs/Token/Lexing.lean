import BilingualScript.Proofs.Number.Nearest
import BilingualScript.Proofs.Segment.Place
import BilingualScript.Session

/-!
# Lexing as segmentation

The tokens of a text are the lexemes of its one segmentation, in their order and with their
positions, and the mistakes are its strange characters and open quotes.
-/

namespace BilingualScript

/-! ## Literals -/

namespace Lexed

def digitsValue (text : List Char) : Nat := Nat.ofDigitChars 10 (text.filter (· != '.')) 0

def places (text : List Char) : Nat := (text.dropWhile (· != '.')).tail.length

theorem isDigit_of_mem {digits : List Char} (all : ∀ char ∈ digits, IsDigit char) :
    ∀ char ∈ digits, char.isDigit = true :=
  fun char mem => (isDigit_iff char).2 (all char mem)

theorem ne_point_of_mem {digits : List Char} (all : ∀ char ∈ digits, IsDigit char) :
    ∀ char ∈ digits, (char != '.') = true := by
  intro char mem
  rw [bne_iff_ne]
  rintro rfl
  exact absurd (isDigit_of_mem all _ mem) (by decide)

theorem literal_of_numeral {text : List Char} (numeral : Numeral text) :
    ∃ number, literal .number text = .number number ∧
      number.RoundsTo false (digitsValue text * Number.oneUnits) (10 ^ places text) := by
  refine ⟨_, rfl, ?_⟩
  rw [Number.toNumber_ofParts]
  have rounds (numerator count : Nat) :
      Number.RoundsTo false numerator (10 ^ count) (.ofUnits false numerator (10 ^ count)) :=
    Number.roundsTo_ofUnits false (Nat.pow_pos (by decide))
  cases numeral with
  | whole nonempty digits =>
      have isDigit := isDigit_of_mem digits
      have noPoint := ne_point_of_mem digits
      have behind : text.dropWhile Char.isDigit = [] := by
        rw [← text.append_nil, List.dropWhile_append_of_pos isDigit, List.dropWhile_nil]
      have behindPoint : text.dropWhile (· != '.') = [] := by
        rw [← text.append_nil, List.dropWhile_append_of_pos noPoint, List.dropWhile_nil]
      have before : text.takeWhile Char.isDigit = text := by
        rw [← text.append_nil, List.takeWhile_append_of_pos isDigit, List.takeWhile_nil]
      simpa [behind, before, digitsValue, places, behindPoint, List.filter_eq_self.2 noPoint] using
        rounds _ 0
  | @point whole fraction _ digits _ digits' =>
      have isDigit := isDigit_of_mem digits
      have noPoint := ne_point_of_mem digits
      have point : '.'.isDigit = false := by decide
      simpa [List.takeWhile_append_of_pos isDigit, List.dropWhile_append_of_pos isDigit, point,
        digitsValue, places, List.dropWhile_append_of_pos noPoint, List.filter_eq_self.2 noPoint,
        List.filter_eq_self.2 (ne_point_of_mem digits')] using rounds _ fraction.length

end Lexed

/-- The literal that belongs to a lexeme: a text without its quotes, the number nearest to a
numeral, and nothing for all other kinds. -/
inductive Denotes : Kind → List Char → Value → Prop
  | text {quote body} : Denotes .string (quote :: (body ++ [quote])) (.text (.ofList body))
  | number {text number} :
      Number.RoundsTo false (Lexed.digitsValue text * Number.oneUnits) (10 ^ Lexed.places text)
        number →
      Denotes .number text (.number number)
  | nothing {kind text} : kind ≠ .string → kind ≠ .number → Denotes kind text .hampa

theorem literal_of_plain {kind : Kind} (plain : kind ∉ [.string, .number, .eof])
    (text : List Char) : Denotes kind text (Lexed.literal kind text) := by
  simp only [List.mem_cons, List.not_mem_nil, or_false, not_or] at plain
  have nothing : Lexed.literal kind text = .hampa := by
    unfold Lexed.literal
    split <;> simp_all
  rw [nothing]
  exact .nothing plain.1 plain.2.1

theorem Lexeme.denotes_literal {kind : Kind} {text : List Char} (lexeme : Lexeme kind text) :
    Denotes kind text (Lexed.literal kind text) := by
  cases lexeme with
  | sign sign => exact literal_of_plain (plain_of_mem_signs sign) text
  | number numeral =>
      obtain ⟨number, literal, rounds⟩ := Lexed.literal_of_numeral numeral
      rw [literal]
      exact .number rounds
  | @quoted quote body _ _ =>
      have inner : Lexed.literal .string (quote :: (body ++ [quote])) = .text (.ofList body) := by
        simp [Lexed.literal]
      rw [inner]
      exact .text
  | reserved reserved => exact literal_of_plain (Kind.plain_of_mem_keywords reserved) _
  | identifier => exact literal_of_plain (by decide) _

/-! ## Tokens and mistakes -/

inductive Reads : List (Position × Segment) → List Token → List LexicalFault → Prop
  | nil : Reads [] [] []
  | token {position kind text literal rest tokens faults} : Lexeme kind text →
      Denotes kind text literal → Reads rest tokens faults →
      Reads ((position, ⟨.token kind, text⟩) :: rest)
        (⟨kind, .ofList text, literal, position⟩ :: tokens) faults
  | blank {position text rest tokens faults} : Reads rest tokens faults →
      Reads ((position, ⟨.blank, text⟩) :: rest) tokens faults
  | comment {position text rest tokens faults} : Reads rest tokens faults →
      Reads ((position, ⟨.comment, text⟩) :: rest) tokens faults
  | unexpected {position text rest tokens faults} : Reads rest tokens faults →
      Reads ((position, ⟨.unexpected, text⟩) :: rest) tokens
        (⟨.unexpectedCharacter, position⟩ :: faults)
  | unterminated {position text rest tokens faults} : Reads rest tokens faults →
      Reads ((position, ⟨.unterminated, text⟩) :: rest) tokens
        (⟨.unterminatedString, position⟩ :: faults)

theorem Segmentation.reads {text : List Char} {segments : List Segment}
    (segmentation : Segmentation text segments) (before : List Char) :
    Reads (Segment.placedBehind before segments)
      ((Segment.placedBehind before segments).filterMap Lexed.token?)
      ((Segment.placedBehind before segments).filterMap Lexed.fault?) := by
  induction segmentation generalizing before with
  | nil => exact .nil
  | cons leads _ ih =>
      cases leads with
      | token lexeme _ => exact .token lexeme lexeme.denotes_literal (ih _)
      | blank => exact .blank (ih _)
      | comment => exact .comment (ih _)
      | unexpected => exact .unexpected (ih _)
      | unterminated => exact .unterminated (ih _)

theorem Reads.kind_ne_eof {placed : List (Position × Segment)} {tokens : List Token}
    {faults : List LexicalFault} (reads : Reads placed tokens faults) :
    ∀ token ∈ tokens, token.kind ≠ .eof := by
  induction reads with
  | nil => simp
  | token lexeme _ _ ih =>
      intro token mem
      rcases List.mem_cons.1 mem with rfl | mem
      · exact lexeme.kind_ne_eof
      · exact ih token mem
  | blank _ ih | comment _ ih | unexpected _ ih | unterminated _ ih => exact ih

namespace Lexed

theorem items_eq (text : List Char) :
    (ofChars text).tokens.items =
      (Segment.placedBehind [] (Segment.cut text)).filterMap token? := by
  rw [← Segment.place_behind]
  rfl

theorem faults_eq (text : List Char) :
    (ofChars text).faults = (Segment.placedBehind [] (Segment.cut text)).filterMap fault? := by
  rw [← Segment.place_behind]
  rfl

theorem reads (text : List Char) :
    Reads (Segment.placedBehind [] (Segment.cut text)) (ofChars text).tokens.items
      (ofChars text).faults := by
  rw [items_eq, faults_eq]
  exact (segmentation_cut text).reads []

end Lexed

/-- A text has one segmentation, and lexing it gives the tokens and the mistakes in that, with
the positions at which they start, and one end mark behind the whole text. -/
theorem ofText_reads_segmentation (source : String) :
    ∃ segments, Segmentation source.toList segments ∧
      (∀ other, Segmentation source.toList other → other = segments) ∧
      Reads (Segment.placedBehind [] segments) (Lexed.ofText source).tokens.items
        (Lexed.ofText source).faults ∧
      (∀ token ∈ (Lexed.ofText source).tokens.items, token.kind ≠ .eof) ∧
      (Lexed.ofText source).tokens.stop = .eof (.behind source.toList) ∧
      ∀ session : Session, (session.tokens source).value = (Lexed.ofText source).tokens ∧
        (session.tokens source).reports = (Lexed.ofText source).faults.map fun fault =>
          ⟨.error, fault.position, fault.cause.message,
            Excerpt.at? (Text.lines source.toList) fault.position 1⟩ := by
  have reads := Lexed.reads source.toList
  refine ⟨_, segmentation_cut source.toList, fun other => Segmentation.eq_cut, reads,
    reads.kind_ne_eof, ?_, fun _ => ⟨rfl, rfl⟩⟩
  rw [← Position.start_after]
  rfl

end BilingualScript
