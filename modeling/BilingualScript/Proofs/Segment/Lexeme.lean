import BilingualScript.Token.Segment

/-!
# Lexemes

What a lexeme of each kind looks like, said without a way to find one.  The segment that is cut
off a text is at least as long as every lexeme with which the text starts, and one that is as
long is of the same kind.
-/

namespace BilingualScript

/-! ## Shapes -/

def IsDigit (char : Char) : Prop := '0' ≤ char ∧ char ≤ '9'

def IsLetter (char : Char) : Prop :=
  'a' ≤ char ∧ char ≤ 'z' ∨ 'A' ≤ char ∧ char ≤ 'Z' ∨ char = '_'

inductive Numeral : List Char → Prop
  | whole {digits} : digits ≠ [] → (∀ char ∈ digits, IsDigit char) → Numeral digits
  | point {whole fraction} : whole ≠ [] → (∀ char ∈ whole, IsDigit char) → fraction ≠ [] →
      (∀ char ∈ fraction, IsDigit char) → Numeral (whole ++ '.' :: fraction)

inductive Word : List Char → Prop
  | mk {first rest} : IsLetter first → (∀ char ∈ rest, IsLetter char ∨ IsDigit char) →
      Word (first :: rest)

def signs : List (List Char × Kind) :=
  [(['('], .leftParen), ([')'], .rightParen), ([','], .comma), (['.'], .dot), (['-'], .minus),
   (['+'], .plus), (['/'], .slash), (['*'], .star), (['%'], .percent), (['\n'], .newline),
   (['!'], .bang), (['!', '='], .bangEqual), (['='], .equal), (['=', '='], .equalEqual),
   (['>'], .greater), (['>', '='], .greaterEqual), (['<'], .less), (['<', '='], .lessEqual)]

/-- The texts that are tokens of a kind. -/
inductive Lexeme : Kind → List Char → Prop
  | sign {text kind} : (text, kind) ∈ signs → Lexeme kind text
  | number {text} : Numeral text → Lexeme .number text
  | quoted {quote body} : quote = '"' ∨ quote = '\'' → quote ∉ body →
      Lexeme .string (quote :: (body ++ [quote]))
  | reserved {word kind} : (word, kind) ∈ Kind.keywords → Lexeme kind word.toList
  | identifier {word} : Word word.toList → (∀ kind, (word, kind) ∉ Kind.keywords) →
      Lexeme .identifier word.toList

/-! ## Classes of characters -/

theorem isDigit_iff (char : Char) : char.isDigit = true ↔ IsDigit char := by
  simp [Char.isDigit, IsDigit, Char.le_def]

theorem startsWord_iff (char : Char) : Segment.startsWord char = true ↔ IsLetter char := by
  have upper : char.isUpper = decide (65 ≤ char.val ∧ char.val ≤ 90) := rfl
  have lower : char.isLower = (decide (97 ≤ char.val) && decide (char.val ≤ 122)) := rfl
  have letter : char.isAlpha = (char.isUpper || char.isLower) := rfl
  simp [Segment.startsWord, IsLetter, letter, upper, lower, Char.le_def]
  grind

theorem continuesWord_iff (char : Char) :
    Segment.continuesWord char = true ↔ IsLetter char ∨ IsDigit char := by
  simp [Segment.continuesWord, startsWord_iff, isDigit_iff]

namespace Segment

theorem classes_of_continuesWord {char : Char} (continues : continuesWord char = true) :
    single? char = none ∧ extensible? char = none ∧ char ≠ '#' ∧ isSpace char = false ∧
      isQuote char = false := by
  refine ⟨?_, ?_, ?_, ?_, ?_⟩
  · unfold single?
    split <;> first | rfl | (exact absurd continues (by decide))
  · unfold extensible?
    split <;> first | rfl | (exact absurd continues (by decide))
  · rintro rfl
    exact absurd continues (by decide)
  · rw [Bool.eq_false_iff]
    intro space
    simp only [isSpace, Bool.or_eq_true, beq_iff_eq] at space
    rcases space with (rfl | rfl) | rfl <;> exact absurd continues (by decide)
  · rw [Bool.eq_false_iff]
    intro quote
    simp only [isQuote, Bool.or_eq_true, beq_iff_eq] at quote
    rcases quote with rfl | rfl <;> exact absurd continues (by decide)

theorem first_of_isDigit {char : Char} (digit : IsDigit char) (rest : List Char) :
    first char rest = ⟨.token .number, char :: numeralTail rest⟩ := by
  have isDigit := (isDigit_iff char).2 digit
  obtain ⟨single, extensible, comment, space, quote⟩ :=
    classes_of_continuesWord ((continuesWord_iff char).2 (.inr digit))
  simp [first, single, extensible, comment, space, quote, isDigit]

theorem not_isDigit_of_isLetter {char : Char} (letter : IsLetter char) : ¬ IsDigit char := by
  rintro ⟨_, last⟩
  simp only [IsLetter, Char.le_def] at letter last
  rcases letter with ⟨a, _⟩ | ⟨a, _⟩ | rfl
  · exact absurd (UInt32.le_trans a last) (by decide)
  · exact absurd (UInt32.le_trans a last) (by decide)
  · exact absurd last (by decide)

theorem first_of_isLetter {char : Char} (letter : IsLetter char) (rest : List Char) :
    first char rest =
      ⟨.token (.ofWord (.ofList (char :: rest.takeWhile continuesWord))),
        char :: rest.takeWhile continuesWord⟩ := by
  have starts := (startsWord_iff char).2 letter
  have noDigit : char.isDigit = false := by
    simpa using mt (isDigit_iff char).1 (not_isDigit_of_isLetter letter)
  obtain ⟨single, extensible, comment, space, quote⟩ :=
    classes_of_continuesWord ((continuesWord_iff char).2 (.inl letter))
  simp [first, single, extensible, comment, space, quote, noDigit, starts]

end Segment

def isWord : List Char → Bool
  | [] => false
  | first :: rest => Segment.startsWord first && rest.all Segment.continuesWord

theorem isWord_iff (text : List Char) : isWord text = true ↔ Word text := by
  cases text with
  | nil => exact ⟨nofun, nofun⟩
  | cons first rest =>
      simp only [isWord, Bool.and_eq_true, List.all_eq_true, startsWord_iff, continuesWord_iff]
      constructor
      · rintro ⟨letter, rest⟩
        exact .mk letter rest
      · rintro ⟨letter, rest⟩
        exact ⟨letter, rest⟩

instance (text : List Char) : Decidable (Word text) := decidable_of_iff _ (isWord_iff text)

theorem Kind.reserved_spec {word : String} {kind : Kind} (reserved : (word, kind) ∈ keywords) :
    Word word.toList ∧ ofWord word = kind := by
  have all : ∀ pair ∈ keywords, Word pair.1.toList ∧ ofWord pair.1 = pair.2 := by
    decide +kernel
  exact all _ reserved

/-! ## Kinds -/

theorem plain_of_mem_signs {text : List Char} {kind : Kind} (sign : (text, kind) ∈ signs) :
    kind ∉ [.string, .number, .eof] := by
  have all : ∀ pair ∈ signs, pair.2 ∉ [.string, .number, .eof] := by decide
  exact all _ sign

theorem Kind.plain_of_mem_keywords {word : String} {kind : Kind}
    (reserved : (word, kind) ∈ keywords) : kind ∉ [.string, .number, .eof] := by
  have all : ∀ pair ∈ keywords, pair.2 ∉ [.string, .number, .eof] := by decide
  exact all _ reserved

theorem Lexeme.kind_ne_eof {kind : Kind} {text : List Char} (lexeme : Lexeme kind text) :
    kind ≠ .eof := by
  rintro rfl
  cases lexeme with
  | sign sign => exact plain_of_mem_signs sign (by simp)
  | reserved reserved => exact Kind.plain_of_mem_keywords reserved (by simp)

/-! ## Longest match -/

theorem isPrefix_takeWhile {α : Type} {wanted : α → Bool} {front list : List α}
    (all : ∀ a ∈ front, wanted a = true) (isPrefix : front <+: list) :
    front <+: list.takeWhile wanted := by
  obtain ⟨rest, rfl⟩ := isPrefix
  rw [List.takeWhile_append_of_pos all]
  exact List.prefix_append _ _

theorem Kind.ofWord_of_free {word : String} (free : ∀ kind, (word, kind) ∉ keywords) :
    ofWord word = .identifier := by
  have missing : keywords.lookup word = none := by
    rw [List.lookup_eq_none_iff]
    rintro ⟨other, kind⟩ mem
    rw [bne_iff_ne]
    rintro rfl
    exact free kind mem
  simp [ofWord, missing]

namespace Segment

theorem first_of_single {char : Char} {kind : Kind} (single : single? char = some kind)
    (rest : List Char) : first char rest = ⟨.token kind, [char]⟩ := by
  simp [first, single]

theorem single?_eq_none_of_extensible {char : Char} {kinds : Kind × Kind}
    (extensible : extensible? char = some kinds) : single? char = none := by
  unfold extensible? at extensible
  split at extensible <;> first | rfl | contradiction

theorem first_of_extensible {char : Char} {alone extended : Kind}
    (extensible : extensible? char = some (alone, extended)) (rest : List Char) :
    first char rest =
      if rest.head? = some '=' then ⟨.token extended, [char, '=']⟩
      else ⟨.token alone, [char]⟩ := by
  simp [first, single?_eq_none_of_extensible extensible, extensible]

end Segment

theorem mem_signs_iff {text : List Char} {kind : Kind} :
    (text, kind) ∈ signs ↔
      (∃ char, text = [char] ∧ Segment.single? char = some kind) ∨
      ∃ char alone extended, Segment.extensible? char = some (alone, extended) ∧
        (text = [char] ∧ kind = alone ∨ text = [char, '='] ∧ kind = extended) := by
  constructor
  · intro sign
    simp only [signs, List.mem_cons, Prod.mk.injEq, List.not_mem_nil, or_false] at sign
    rcases sign with h | h | h | h | h | h | h | h | h | h | h | h | h | h | h | h | h | h <;>
      obtain ⟨rfl, rfl⟩ := h
    all_goals first
      | exact .inl ⟨_, rfl, rfl⟩
      | exact .inr ⟨_, _, _, rfl, .inl ⟨rfl, rfl⟩⟩
      | exact .inr ⟨_, _, _, rfl, .inr ⟨rfl, rfl⟩⟩
  · rintro (⟨char, rfl, single⟩ | ⟨char, alone, extended, extensible, which⟩)
    · unfold Segment.single? at single
      split at single <;> first | contradiction | (cases single; decide)
    · unfold Segment.extensible? at extensible
      split at extensible <;> first
        | contradiction
        | (cases extensible
           rcases which with ⟨rfl, rfl⟩ | ⟨rfl, rfl⟩ <;> decide)

theorem Lexeme.longest_word {kind : Kind} {text rest : List Char} {char : Char}
    (word : Word text) (named : Kind.ofWord (.ofList text) = kind)
    (front : text <+: char :: rest) :
    ∃ found, (Segment.first char rest).role = .token found ∧
      text.length ≤ (Segment.first char rest).text.length ∧
      (text.length = (Segment.first char rest).text.length → found = kind) := by
  obtain @⟨first, tail, letter, continued⟩ := word
  obtain ⟨rfl, tailFront⟩ := List.cons_prefix_cons.1 front
  rw [Segment.first_of_isLetter letter]
  have within : tail <+: rest.takeWhile Segment.continuesWord :=
    isPrefix_takeWhile (fun char mem => (continuesWord_iff char).2 (continued char mem)) tailFront
  refine ⟨_, rfl, ?_, ?_⟩
  · simpa using within.length_le
  · intro same
    have tails : tail = rest.takeWhile Segment.continuesWord :=
      within.eq_of_length (by simpa using same)
    rw [← tails, named]

theorem Lexeme.longest_numeral {text rest : List Char} {char : Char} (numeral : Numeral text)
    (front : text <+: char :: rest) :
    (Segment.first char rest).role = .token .number ∧
      text.length ≤ (Segment.first char rest).text.length := by
  cases numeral with
  | whole nonempty digits =>
      obtain ⟨first, tail, rfl⟩ := List.exists_cons_of_ne_nil nonempty
      obtain ⟨rfl, tailFront⟩ := List.cons_prefix_cons.1 front
      rw [Segment.first_of_isDigit (digits first (by simp))]
      have within : tail <+: rest.takeWhile Char.isDigit :=
        isPrefix_takeWhile (fun char mem => (isDigit_iff char).2 (digits char (by simp [mem])))
          tailFront
      refine ⟨rfl, ?_⟩
      have := within.length_le
      simp [Segment.numeralTail]
      omega
  | @point whole fraction nonempty digits nonempty' digits' =>
      obtain ⟨first, tail, rfl⟩ := List.exists_cons_of_ne_nil nonempty
      obtain ⟨digit, more, rfl⟩ := List.exists_cons_of_ne_nil nonempty'
      obtain ⟨rfl, behind, rfl⟩ := List.cons_prefix_cons.1 front
      rw [Segment.first_of_isDigit (digits first (by simp))]
      have isDigit : ∀ char ∈ tail, char.isDigit = true :=
        fun char mem => (isDigit_iff char).2 (digits char (by simp [mem]))
      have isDigit' : ∀ char ∈ digit :: more, char.isDigit = true :=
        fun char mem => (isDigit_iff char).2 (digits' char mem)
      refine ⟨rfl, ?_⟩
      have point : '.'.isDigit = false := by decide
      rw [List.append_eq, List.append_assoc]
      simp only [Segment.numeralTail, List.takeWhile_append_of_pos isDigit,
        List.dropWhile_append_of_pos isDigit, List.cons_append, List.takeWhile_cons,
        List.dropWhile_cons, point, Segment.fraction, Bool.false_eq_true, if_false, if_true,
        isDigit' digit (by simp),
        List.takeWhile_append_of_pos (fun char mem => isDigit' char (List.mem_cons_of_mem _ mem))]
      simp

theorem Lexeme.longest_quoted {quote char : Char} {body rest : List Char}
    (isQuote : quote = '"' ∨ quote = '\'') (closed : quote ∉ body)
    (front : quote :: (body ++ [quote]) <+: char :: rest) :
    Segment.first char rest = ⟨.token .string, quote :: (body ++ [quote])⟩ := by
  obtain ⟨rfl, behind, rfl⟩ := List.cons_prefix_cons.1 front
  have others : ∀ other ∈ body, (other != quote) = true := by
    intro other mem
    simpa using fun same : other = quote => closed (same ▸ mem)
  have cut : Segment.first quote (body ++ [quote] ++ behind) =
      Segment.quoted quote (body ++ [quote] ++ behind) := by
    rcases isQuote with rfl | rfl <;>
      simp [Segment.first, Segment.single?, Segment.extensible?, Segment.isSpace, Segment.isQuote]
  rw [cut, List.append_assoc]
  simp [Segment.quoted, List.takeWhile_append_of_pos others, List.dropWhile_append_of_pos others]

/-- A lexeme at the start of a text is no longer than the segment cut off there, which is a
token; if it is as long, it is of the same kind. -/
theorem Lexeme.longest {kind : Kind} {text rest : List Char} {char : Char}
    (lexeme : Lexeme kind text) (front : text <+: char :: rest) :
    ∃ found, (Segment.first char rest).role = .token found ∧
      text.length ≤ (Segment.first char rest).text.length ∧
      (text.length = (Segment.first char rest).text.length → found = kind) := by
  cases lexeme with
  | sign sign =>
      rcases mem_signs_iff.1 sign with ⟨first, rfl, single⟩ | ⟨first, alone, extended, found, which⟩
      · obtain ⟨rfl, -⟩ := List.cons_prefix_cons.1 front
        rw [Segment.first_of_single single]
        exact ⟨_, rfl, Nat.le_refl _, fun _ => rfl⟩
      · rcases which with ⟨rfl, rfl⟩ | ⟨rfl, rfl⟩
        · obtain ⟨rfl, -⟩ := List.cons_prefix_cons.1 front
          rw [Segment.first_of_extensible found]
          split
          · exact ⟨_, rfl, by simp, by simp⟩
          · exact ⟨_, rfl, Nat.le_refl _, fun _ => rfl⟩
        · obtain ⟨rfl, behind, rfl⟩ := List.cons_prefix_cons.1 front
          rw [Segment.first_of_extensible found]
          exact ⟨_, rfl, Nat.le_refl _, fun _ => rfl⟩
  | number numeral =>
      obtain ⟨role, length⟩ := longest_numeral numeral front
      exact ⟨_, role, length, fun _ => rfl⟩
  | quoted isQuote closed =>
      rw [longest_quoted isQuote closed front]
      exact ⟨_, rfl, Nat.le_refl _, fun _ => rfl⟩
  | reserved reserved =>
      obtain ⟨word, named⟩ := Kind.reserved_spec reserved
      exact longest_word word (by simpa using named) front
  | identifier word free =>
      refine longest_word word ?_ front
      simpa using Kind.ofWord_of_free free

end BilingualScript
