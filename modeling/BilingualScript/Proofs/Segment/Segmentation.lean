import BilingualScript.Proofs.Segment.Lexeme

/-!
# Segmentations

A segmentation takes a text apart from left to right, at each point by the longest lexeme that
stands there; blanks and comments lie between lexemes, and what is neither is a mistake.  Each
text has one segmentation, which `Segment.cut` finds.
-/

namespace BilingualScript

namespace Segment

inductive Leads : Segment → List Char → Prop
  | token {kind text rest} : Lexeme kind text →
      (∀ other longer, Lexeme other longer → longer <+: text ++ rest →
        longer.length ≤ text.length) →
      Leads ⟨.token kind, text⟩ rest
  | blank {char rest} : char = ' ' ∨ char = '\r' ∨ char = '\t' → Leads ⟨.blank, [char]⟩ rest
  | comment {text rest} : '\n' ∉ text → rest = [] ∨ rest.head? = some '\n' →
      Leads ⟨.comment, '#' :: text⟩ rest
  | unexpected {char rest} : char ≠ ' ' → char ≠ '\r' → char ≠ '\t' → char ≠ '#' →
      (∀ kind text, ¬ Lexeme kind (char :: text)) → Leads ⟨.unexpected, [char]⟩ rest
  | unterminated {quote text} : quote = '"' ∨ quote = '\'' → quote ∉ text →
      Leads ⟨.unterminated, quote :: text⟩ []

end Segment

/-- Segments that make up a text. -/
inductive Segmentation : List Char → List Segment → Prop
  | nil : Segmentation [] []
  | cons {segment rest segments} : Segment.Leads segment rest → Segmentation rest segments →
      Segmentation (segment.text ++ rest) (segment :: segments)

theorem Word.ne_nil {text : List Char} (word : Word text) : text ≠ [] := by
  cases word
  simp

theorem Lexeme.ne_nil {kind : Kind} {text : List Char} (lexeme : Lexeme kind text) : text ≠ [] := by
  cases lexeme with
  | sign sign =>
      rintro rfl
      exact absurd sign (by simp [signs])
  | number numeral => cases numeral <;> simp [*]
  | quoted => simp
  | reserved reserved => exact (Kind.reserved_spec reserved).1.ne_nil
  | identifier shape => exact shape.ne_nil

namespace Segment

/-! ## The first segment -/

theorem first_of_isSpace {char : Char} (space : char = ' ' ∨ char = '\r' ∨ char = '\t')
    (rest : List Char) : first char rest = ⟨.blank, [char]⟩ := by
  rcases space with rfl | rfl | rfl <;> simp [first, single?, extensible?, isSpace]

theorem first_of_hash (rest : List Char) :
    first '#' rest = ⟨.comment, '#' :: rest.takeWhile (· != '\n')⟩ := by
  simp [first, single?, extensible?]

theorem first_of_isQuote {char : Char} (quote : char = '"' ∨ char = '\'') (rest : List Char) :
    first char rest = quoted char rest := by
  rcases quote with rfl | rfl <;> simp [first, single?, extensible?, isSpace, isQuote]

theorem class_cases (char : Char) :
    (∃ kind, single? char = some kind) ∨
    (∃ alone extended, extensible? char = some (alone, extended)) ∨
    char = '#' ∨ (char = ' ' ∨ char = '\r' ∨ char = '\t') ∨ (char = '"' ∨ char = '\'') ∨
    IsDigit char ∨ IsLetter char ∨
    (∀ rest, first char rest = ⟨.unexpected, [char]⟩) := by
  rcases single : single? char with - | kind
  · rcases extensible : extensible? char with - | ⟨alone, extended⟩
    · by_cases comment : char = '#'
      · simp [comment]
      by_cases space : isSpace char = true
      · simp only [isSpace, Bool.or_eq_true, beq_iff_eq, or_assoc] at space
        simp [space]
      by_cases quote : isQuote char = true
      · simp only [isQuote, Bool.or_eq_true, beq_iff_eq] at quote
        simp [quote]
      by_cases digit : char.isDigit = true
      · simp [(isDigit_iff char).1 digit]
      by_cases letter : startsWord char = true
      · simp [(startsWord_iff char).1 letter]
      simp [first, single, extensible, comment, space, quote, digit, letter]
    · exact .inr (.inl ⟨alone, extended, rfl⟩)
  · exact .inl ⟨kind, rfl⟩

theorem leads_of_token {char : Char} {rest behind text : List Char} {kind : Kind}
    (found : first char rest = ⟨.token kind, text⟩) (lexeme : Lexeme kind text)
    (parts : text ++ behind = char :: rest) :
    (first char rest).text ++ behind = char :: rest ∧ Leads (first char rest) behind := by
  rw [found]
  refine ⟨parts, .token lexeme ?_⟩
  intro other longer otherLexeme front
  rw [parts] at front
  obtain ⟨_, -, length, -⟩ := otherLexeme.longest front
  simpa [found] using length

theorem lexeme_word {char : Char} (letter : IsLetter char) (rest : List Char) :
    Lexeme (.ofWord (.ofList (char :: rest.takeWhile continuesWord)))
      (char :: rest.takeWhile continuesWord) := by
  generalize named : String.ofList (char :: rest.takeWhile continuesWord) = word
  have chars : char :: rest.takeWhile continuesWord = word.toList := by simp [← named]
  have shape : Word word.toList := by
    rw [← chars]
    refine .mk letter fun other mem => (continuesWord_iff other).1 ?_
    exact List.all_eq_true.1 List.all_takeWhile other mem
  rw [chars]
  by_cases free : ∀ kind, (word, kind) ∉ Kind.keywords
  · rw [Kind.ofWord_of_free free]
    exact .identifier shape free
  · simp only [Classical.not_forall, Classical.not_not] at free
    obtain ⟨kind, reserved⟩ := free
    rw [(Kind.reserved_spec reserved).2]
    exact .reserved reserved

theorem numeral_numeralTail {char : Char} (digit : IsDigit char) (rest : List Char) :
    Numeral (char :: numeralTail rest) := by
  have digits : ∀ other ∈ char :: rest.takeWhile Char.isDigit, IsDigit other := by
    intro other mem
    rcases List.mem_cons.1 mem with rfl | mem
    · exact digit
    · exact (isDigit_iff other).1 (List.all_eq_true.1 List.all_takeWhile other mem)
  unfold numeralTail
  generalize rest.dropWhile Char.isDigit = behind
  unfold fraction
  split
  · next next more =>
    split
    · next isDigit =>
      have : char :: (rest.takeWhile Char.isDigit ++ '.' :: next :: more.takeWhile Char.isDigit) =
          (char :: rest.takeWhile Char.isDigit) ++ '.' :: (next :: more.takeWhile Char.isDigit) :=
        rfl
      rw [this]
      refine .point (by simp) digits (by simp) ?_
      intro other mem
      rcases List.mem_cons.1 mem with rfl | mem
      · exact (isDigit_iff _).1 isDigit
      · exact (isDigit_iff other).1 (List.all_eq_true.1 List.all_takeWhile other mem)
    · simpa using Numeral.whole (by simp) digits
  · simpa using Numeral.whole (by simp) digits

theorem numeralTail_append (rest : List Char) : ∃ behind, numeralTail rest ++ behind = rest := by
  unfold numeralTail
  generalize shape : rest.dropWhile Char.isDigit = behind
  have whole : rest.takeWhile Char.isDigit ++ rest.dropWhile Char.isDigit = rest :=
    List.takeWhile_append_dropWhile
  rw [shape] at whole
  unfold fraction
  split
  · next next more =>
    split
    · refine ⟨more.dropWhile Char.isDigit, ?_⟩
      simp [List.append_assoc, List.takeWhile_append_dropWhile, whole]
    · exact ⟨_, by simpa using whole⟩
  · exact ⟨_, by simpa using whole⟩

theorem eq_of_dropWhile_eq_cons {quote other : Char} {rest behind : List Char}
    (shape : rest.dropWhile (· != quote) = other :: behind) : other = quote := by
  have stop := List.head?_dropWhile_not (· != quote) rest
  rw [shape] at stop
  simpa using stop

theorem not_mem_takeWhile (quote : Char) (rest : List Char) :
    quote ∉ rest.takeWhile (· != quote) := by
  intro mem
  simpa using List.all_eq_true.1 List.all_takeWhile _ mem

theorem leads_quoted {quote : Char} (isQuote : quote = '"' ∨ quote = '\'') (rest : List Char) :
    ∃ behind, (first quote rest).text ++ behind = quote :: rest ∧
      Leads (first quote rest) behind := by
  have found := first_of_isQuote isQuote rest
  have parts : rest.takeWhile (· != quote) ++ rest.dropWhile (· != quote) = rest :=
    List.takeWhile_append_dropWhile
  cases shape : rest.dropWhile (· != quote) with
  | nil =>
      rw [shape, List.append_nil] at parts
      have missing : quote ∉ rest := by
        rw [← parts]
        exact not_mem_takeWhile quote rest
      refine ⟨[], ?_⟩
      simp only [found, quoted, shape]
      exact ⟨by simp, .unterminated isQuote missing⟩
  | cons other behind =>
      obtain rfl := eq_of_dropWhile_eq_cons shape
      refine ⟨behind, leads_of_token (by simp only [found, quoted, shape])
        (.quoted isQuote (not_mem_takeWhile other rest)) ?_⟩
      rw [shape] at parts
      simp [parts]

theorem leads_first (char : Char) (rest : List Char) :
    ∃ behind, (first char rest).text ++ behind = char :: rest ∧
      Leads (first char rest) behind := by
  rcases class_cases char with ⟨kind, single⟩ | ⟨alone, extended, extensible⟩ | rfl | space |
    quote | digit | letter | strange
  · exact ⟨rest, leads_of_token (first_of_single single rest)
      (.sign (mem_signs_iff.2 (.inl ⟨char, rfl, single⟩))) rfl⟩
  · have lexeme (text : List Char) (kind : Kind)
        (which : text = [char] ∧ kind = alone ∨ text = [char, '='] ∧ kind = extended) :
        Lexeme kind text :=
      .sign (mem_signs_iff.2 (.inr ⟨char, alone, extended, extensible, which⟩))
    by_cases equals : rest.head? = some '='
    · obtain ⟨behind, rfl⟩ := List.head?_eq_some_iff.1 equals
      exact ⟨behind, leads_of_token (by simp [first_of_extensible extensible])
        (lexeme _ _ (.inr ⟨rfl, rfl⟩)) rfl⟩
    · exact ⟨rest, leads_of_token (by simp [first_of_extensible extensible, equals])
        (lexeme _ _ (.inl ⟨rfl, rfl⟩)) rfl⟩
  · rw [first_of_hash]
    refine ⟨rest.dropWhile (· != '\n'), by simp, .comment ?_ ?_⟩
    · exact not_mem_takeWhile '\n' rest
    · cases behind : rest.dropWhile (· != '\n') with
      | nil => exact .inl rfl
      | cons other more => simp [eq_of_dropWhile_eq_cons behind]
  · rw [first_of_isSpace space]
    exact ⟨rest, rfl, .blank space⟩
  · exact leads_quoted quote rest
  · obtain ⟨behind, parts⟩ := numeralTail_append rest
    exact ⟨behind, leads_of_token (first_of_isDigit digit rest)
      (.number (numeral_numeralTail digit rest)) (by simp [parts])⟩
  · exact ⟨rest.dropWhile continuesWord, leads_of_token (first_of_isLetter letter rest)
      (lexeme_word letter rest) (by simp)⟩
  · rw [strange]
    have other : ∀ segment, first char rest = segment → segment.role = .unexpected := by
      rintro _ rfl
      rw [strange]
    refine ⟨rest, rfl, .unexpected ?_ ?_ ?_ ?_ ?_⟩
    · rintro rfl
      simpa using other _ (first_of_isSpace (by simp) rest)
    · rintro rfl
      simpa using other _ (first_of_isSpace (by simp) rest)
    · rintro rfl
      simpa using other _ (first_of_isSpace (by simp) rest)
    · rintro rfl
      simpa using other _ (first_of_hash rest)
    · intro kind text lexeme
      obtain ⟨found, role, -⟩ := lexeme.longest List.prefix_rfl
      simp [strange] at role

/-- Only the first segment of a text may stand in front of what is behind it. -/
theorem Leads.eq_first {segment : Segment} {behind : List Char} (leads : Leads segment behind) :
    ∃ char rest, segment.text ++ behind = char :: rest ∧ segment = first char rest := by
  cases leads with
  | @token kind text _ lexeme longest =>
      obtain ⟨char, tail, rfl⟩ := List.exists_cons_of_ne_nil lexeme.ne_nil
      refine ⟨char, tail ++ behind, rfl, ?_⟩
      obtain ⟨found, role, length, sameKind⟩ :=
        lexeme.longest (List.prefix_append (char :: tail) behind)
      obtain ⟨after, parts, leads⟩ := leads_first char (tail ++ behind)
      generalize first char (tail ++ behind) = segment at *
      obtain ⟨_, text⟩ := segment
      obtain rfl := role
      cases leads with
      | token other _ =>
          have front : text <+: char :: tail ++ behind := ⟨after, parts⟩
          have same : (char :: tail).length = text.length :=
            Nat.le_antisymm length (longest _ _ other front)
          obtain rfl := sameKind same
          have texts : char :: tail = text :=
            (List.prefix_of_prefix_length_le (List.prefix_append _ behind) front
              length).eq_of_length same
          rw [texts]
  | @blank char _ space => exact ⟨char, behind, rfl, (first_of_isSpace space behind).symm⟩
  | @comment text _ noNewline stops =>
      refine ⟨'#', text ++ behind, rfl, ?_⟩
      have all : ∀ other ∈ text, (other != '\n') = true := by
        intro other mem
        simpa using fun same : other = '\n' => noNewline (same ▸ mem)
      have none : behind.takeWhile (· != '\n') = [] := by
        rcases stops with rfl | head
        · rfl
        · obtain ⟨tail, rfl⟩ := List.head?_eq_some_iff.1 head
          rfl
      rw [first_of_hash, List.takeWhile_append_of_pos all, none, List.append_nil]
  | @unexpected char _ noSpace noReturn noTab noHash strange =>
      refine ⟨char, behind, rfl, ?_⟩
      rcases class_cases char with ⟨kind, single⟩ | ⟨alone, extended, extensible⟩ | hash | space |
        quote | digit | letter | alike
      · exact absurd (.sign (mem_signs_iff.2 (.inl ⟨char, rfl, single⟩))) (strange kind [])
      · exact absurd (.sign (mem_signs_iff.2
          (.inr ⟨char, alone, extended, extensible, .inl ⟨rfl, rfl⟩⟩))) (strange alone [])
      · exact absurd hash noHash
      · simp [noSpace, noReturn, noTab] at space
      · exact absurd (.quoted quote (by simp)) (strange .string ([] ++ [char]))
      · exact absurd (.number (.whole (by simp) (by simpa using digit))) (strange .number [])
      · exact absurd (lexeme_word letter []) (strange _ [])
      · exact (alike behind).symm
  | @unterminated quote text isQuote missing =>
      refine ⟨quote, text, by simp, ?_⟩
      have all : ∀ other ∈ text, (other != quote) = true := by
        intro other mem
        simpa using fun same : other = quote => missing (same ▸ mem)
      have none : text.dropWhile (· != quote) = [] := by
        rw [← text.append_nil, List.dropWhile_append_of_pos all, List.dropWhile_nil]
      rw [first_of_isQuote isQuote, quoted, none]

/-! ## All segments -/

@[simp] theorem cut_nil : cut [] = [] := rfl

theorem cutAfter_eq_cut_drop (skipped : Nat) (text : List Char) :
    cutAfter skipped text = cut (text.drop skipped) := by
  induction skipped generalizing text with
  | zero => rfl
  | succ skipped ih =>
      cases text with
      | nil => rfl
      | cons char rest => exact ih rest

theorem Leads.ne_nil {segment : Segment} {behind : List Char} (leads : Leads segment behind) :
    segment.text ≠ [] := by
  cases leads with
  | token lexeme _ => exact lexeme.ne_nil
  | _ => simp

theorem cut_of_first {char : Char} {rest behind : List Char}
    (parts : (first char rest).text ++ behind = char :: rest) :
    cut (char :: rest) = first char rest :: cut behind := by
  have whole : cut (char :: rest) =
      first char rest :: cutAfter ((first char rest).text.length - 1) rest := rfl
  rw [whole, cutAfter_eq_cut_drop]
  obtain ⟨_, _, leads⟩ := leads_first char rest
  obtain ⟨other, more, text⟩ := List.exists_cons_of_ne_nil leads.ne_nil
  rw [text] at parts ⊢
  obtain ⟨-, rfl⟩ := List.cons_eq_cons.1 parts
  simp

end Segment

theorem segmentation_cut (text : List Char) : Segmentation text (Segment.cut text) := by
  induction length : text.length using Nat.strongRecOn generalizing text with
  | ind length ih =>
      subst length
      cases text with
      | nil => exact .nil
      | cons char rest =>
          obtain ⟨behind, parts, leads⟩ := Segment.leads_first char rest
          rw [Segment.cut_of_first parts, ← parts]
          refine .cons leads (ih _ ?_ behind rfl)
          have nonempty := List.length_pos_iff.2 leads.ne_nil
          have lengths := congrArg List.length parts
          simp only [List.length_append] at lengths
          omega

theorem Segmentation.eq_cut {text : List Char} {segments : List Segment}
    (segmentation : Segmentation text segments) : segments = Segment.cut text := by
  induction segmentation with
  | nil => rfl
  | @cons segment rest segments leads _ ih =>
      obtain ⟨char, tail, parts, rfl⟩ := leads.eq_first
      rw [parts, Segment.cut_of_first parts, ih]

end BilingualScript
