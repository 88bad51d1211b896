import BilingualScript.Proofs.Reading.Relabelling
import BilingualScript.Proofs.Token.Standing

/-!
# Layout

Lexemes with gaps between them, of blanks and of comments where a line ends, have the tokens of
which they are the lexemes, whatever the gaps are.  So nothing but places in a program depends on
how it is laid out.
-/

namespace BilingualScript

/-! ## Separators -/

/-- Characters that are in no lexeme but in quotes. -/
def separators : List Char := [' ', '\t', '\r', '#']

def quotes : List Char := ['"', '\'']

theorem not_continuesWord_of_mem {char : Char} (mem : char ∈ separators ++ quotes) :
    Segment.continuesWord char = false := by
  have all : (separators ++ quotes).all fun char => !Segment.continuesWord char := by decide
  simpa using List.all_eq_true.1 all char mem

theorem Numeral.not_mem {text : List Char} (numeral : Numeral text) {char : Char}
    (mem : char ∈ separators ++ quotes) : char ∉ text := by
  have noDigit : ¬ IsDigit char := by
    intro digit
    have word := (continuesWord_iff char).2 (.inr digit)
    rw [not_continuesWord_of_mem mem] at word
    cases word
  have noPoint : char ≠ '.' := by
    rintro rfl
    exact absurd mem (by decide)
  cases numeral with
  | whole _ digits => exact fun inside => noDigit (digits char inside)
  | point _ digits _ digits' =>
      intro inside
      rcases List.mem_append.1 inside with inside | inside
      · exact noDigit (digits char inside)
      · rcases List.mem_cons.1 inside with point | inside
        · exact noPoint point
        · exact noDigit (digits' char inside)

theorem Word.not_mem {text : List Char} (word : Word text) {char : Char}
    (mem : char ∈ separators ++ quotes) : char ∉ text := by
  have other := not_continuesWord_of_mem mem
  obtain ⟨letter, continued⟩ := word
  intro inside
  have continues : Segment.continuesWord char = true := by
    rw [continuesWord_iff]
    rcases List.mem_cons.1 inside with rfl | inside
    · exact .inl letter
    · exact continued char inside
  rw [other] at continues
  cases continues

theorem Lexeme.quoted_of_mem {kind : Kind} {text : List Char} (lexeme : Lexeme kind text)
    {char : Char} (mem : char ∈ separators ++ quotes) (inside : char ∈ text) :
    ∃ quote body, (quote = '"' ∨ quote = '\'') ∧ quote ∉ body ∧
      text = quote :: (body ++ [quote]) := by
  cases lexeme with
  | sign sign =>
      have all : signs.all fun pair => (separators ++ quotes).all (· ∉ pair.1) := by decide
      have others := List.all_eq_true.1 (List.all_eq_true.1 all _ sign) char mem
      exact absurd inside (of_decide_eq_true others)
  | number numeral => exact absurd inside (numeral.not_mem mem)
  | quoted isQuote closed => exact ⟨_, _, isQuote, closed, rfl⟩
  | reserved reserved => exact absurd inside ((Kind.reserved_spec reserved).1.not_mem mem)
  | identifier word => exact absurd inside (word.not_mem mem)

/-- No lexeme goes on behind another one into a text that begins with a separator. -/
theorem Lexeme.leads {kind : Kind} {text rest : List Char} (lexeme : Lexeme kind text)
    (apart : ∀ char ∈ rest.head?, char ∈ separators) :
    Segment.Leads ⟨.token kind, text⟩ rest := by
  refine .token lexeme fun other longer otherLexeme front => Nat.not_lt.1 fun shorter => ?_
  obtain ⟨more, rfl⟩ : text <+: longer :=
    List.prefix_of_prefix_length_le (List.prefix_append _ rest) front (Nat.le_of_lt shorter)
  obtain ⟨char, more, rfl⟩ : ∃ char others, more = char :: others :=
    List.exists_cons_of_ne_nil (by rintro rfl; simp at shorter)
  obtain ⟨behind, rfl⟩ := (List.prefix_append_right_inj text).1 front
  -- the longer one holds the separator, so both of them open with the same quote
  obtain ⟨quote, body, isQuote, closed, shape⟩ := otherLexeme.quoted_of_mem
    (List.mem_append_left _ (apart char rfl)) (by simp)
  have opens : quote ∈ text := by
    cases text with
    | nil => exact absurd rfl lexeme.ne_nil
    | cons first tail => simp [(List.cons.inj shape).1]
  obtain ⟨quote', body', isQuote', closed', rfl⟩ := lexeme.quoted_of_mem
    (by rcases isQuote with rfl | rfl <;> decide) opens
  obtain ⟨rfl, shape⟩ := List.cons.inj shape
  -- at which the scan can cut off only one of them
  have first := Lexeme.longest_quoted isQuote' closed' (List.prefix_append _ (char :: more))
  rw [shape, Lexeme.longest_quoted isQuote closed List.prefix_rfl] at first
  have same : body = body' := by simpa using first
  simp [same] at shape

theorem Lexeme.eq_break {text : List Char} (lexeme : Lexeme .newline text) : text = ['\n'] := by
  cases lexeme with
  | sign sign =>
      have all : ∀ pair ∈ signs, pair.2 = .newline → pair.1 = ['\n'] := by decide
      exact all _ sign rfl
  | reserved reserved =>
      have all : ∀ pair ∈ Kind.keywords, pair.2 ≠ .newline := by decide
      exact absurd rfl (all _ reserved)

/-! ## Gaps -/

/-- Blanks, and perhaps a comment behind them where a line ends. -/
inductive IsGap (lineEnds : Prop) : List Char → Prop
  | nil : IsGap lineEnds []
  | comment {text} : lineEnds → '\n' ∉ text → IsGap lineEnds ('#' :: text)
  | blank {char gap} : char = ' ' ∨ char = '\r' ∨ char = '\t' → IsGap lineEnds gap →
      IsGap lineEnds (char :: gap)

theorem IsGap.cons_iff {lineEnds : Prop} {char : Char} {gap : List Char} :
    IsGap lineEnds (char :: gap) ↔
      char = '#' ∧ lineEnds ∧ '\n' ∉ gap ∨
        (char = ' ' ∨ char = '\r' ∨ char = '\t') ∧ IsGap lineEnds gap := by
  constructor
  · rintro (_ | ⟨holds, noNewline⟩ | ⟨isBlank, isGap⟩)
    · exact .inl ⟨rfl, holds, noNewline⟩
    · exact .inr ⟨isBlank, isGap⟩
  · rintro (⟨rfl, holds, noNewline⟩ | ⟨isBlank, isGap⟩)
    · exact .comment holds noNewline
    · exact .blank isBlank isGap

instance IsGap.decidable (lineEnds : Prop) [Decidable lineEnds] :
    (gap : List Char) → Decidable (IsGap lineEnds gap)
  | [] => .isTrue .nil
  | _ :: gap =>
    have := decidable lineEnds gap
    decidable_of_iff _ cons_iff.symm

theorem IsGap.separates {lineEnds : Prop} {gap : List Char} (isGap : IsGap lineEnds gap) :
    ∀ char ∈ gap.head?, char ∈ separators := by
  cases isGap with
  | nil => simp
  | comment => simp [separators]
  | blank isBlank =>
      rcases isBlank with rfl | rfl | rfl <;> simp [separators]

def Segment.IsSkipped (segment : Segment) : Prop :=
  segment.role = .blank ∨ segment.role = .comment

theorem IsGap.segmentation {lineEnds : Prop} {gap rest : List Char} {segments : List Segment}
    (isGap : IsGap lineEnds gap) (stops : lineEnds → rest = [] ∨ rest.head? = some '\n')
    (behind : Segmentation rest segments) :
    ∃ skipped, Segmentation (gap ++ rest) (skipped ++ segments) ∧
      ∀ segment ∈ skipped, segment.IsSkipped := by
  induction isGap with
  | nil => exact ⟨[], behind, nofun⟩
  | @comment text holds noNewline =>
      exact ⟨[⟨.comment, '#' :: text⟩], .cons (.comment noNewline (stops holds)) behind,
        List.forall_mem_singleton.2 (.inr rfl)⟩
  | @blank char gap isBlank _ ih =>
      obtain ⟨skipped, cuts, skips⟩ := ih
      exact ⟨⟨.blank, [char]⟩ :: skipped, .cons (.blank isBlank) cuts,
        List.forall_mem_cons.2 ⟨.inl rfl, skips⟩⟩

/-! ## Layouts -/

/-- The lexemes of tokens, each with the text in front of it, and the text behind the last. -/
def laidOut : List (List Char × Token) → List Char → List Char
  | [], ending => ending
  | (gap, token) :: layout, ending => gap ++ (token.lexeme.toList ++ laidOut layout ending)

/-- There are gaps between the lexemes, with comments in front of newlines and at the end only. -/
structure IsLayout (layout : List (List Char × Token)) (ending : List Char) : Prop where
  gaps : ∀ place ∈ layout, IsGap (place.2.kind = .newline) place.1
  apart : ∀ place ∈ layout.tail, place.1 ≠ []
  ending : IsGap True ending

namespace IsLayout

instance (layout : List (List Char × Token)) (ending : List Char) :
    Decidable (IsLayout layout ending) :=
  decidable_of_iff ((∀ place ∈ layout, IsGap (place.2.kind = .newline) place.1) ∧
      (∀ place ∈ layout.tail, place.1 ≠ []) ∧ IsGap True ending)
    ⟨fun ⟨gaps, apart, ending⟩ => ⟨gaps, apart, ending⟩,
      fun ⟨gaps, apart, ending⟩ => ⟨gaps, apart, ending⟩⟩

variable {layout : List (List Char × Token)} {ending gap : List Char} {token : Token}

theorem tail (isLayout : IsLayout ((gap, token) :: layout) ending) : IsLayout layout ending where
  gaps place mem := isLayout.gaps place (List.mem_cons_of_mem _ mem)
  apart place mem := isLayout.apart place (List.mem_of_mem_tail mem)
  ending := isLayout.ending

theorem separates (isLayout : IsLayout ((gap, token) :: layout) ending) :
    ∀ char ∈ (laidOut layout ending).head?, char ∈ separators := by
  cases layout with
  | nil => exact isLayout.ending.separates
  | cons place layout =>
      obtain ⟨next, other⟩ := place
      have nonempty := isLayout.apart (next, other) List.mem_cons_self
      have separates := (isLayout.gaps (next, other) (by simp)).separates
      obtain ⟨char, gap, rfl⟩ := List.exists_cons_of_ne_nil nonempty
      exact separates

end IsLayout

namespace Token

def unplaced (token : Token) : Token := { token with position := .start }

theorem relabels_unplaced : Relabels unplaced := ⟨fun _ => rfl, fun _ => rfl⟩

end Token

namespace Lexed

open Segment

theorem map_unplaced (text : List Char) (segments : List Segment) :
    ((placedBehind text segments).filterMap token?).map Token.unplaced =
      segments.filterMap fun segment => token? (.start, segment) := by
  induction segments generalizing text with
  | nil => rfl
  | cons segment segments ih =>
      obtain ⟨role, content⟩ := segment
      have rest := ih (text ++ content)
      cases role <;> simp [placedBehind, List.filterMap_cons, token?, Token.unplaced, rest]

theorem literal_of_mem_items {text : List Char} {token : Token}
    (mem : token ∈ (ofChars text).tokens.items) :
    token.literal = literal token.kind token.lexeme.toList := by
  rw [items_eq] at mem
  obtain ⟨⟨position, ⟨role, content⟩⟩, _, found⟩ := List.mem_filterMap.1 mem
  cases role with
  | token kind =>
      obtain rfl := Option.some.inj found
      simp
  | _ => cases found

theorem filterMap_append_of_skipped {skipped : List Segment}
    (skips : ∀ segment ∈ skipped, segment.IsSkipped) (segments : List Segment) :
    (skipped ++ segments).filterMap (fun segment => token? (.start, segment)) =
      segments.filterMap fun segment => token? (.start, segment) := by
  have none : skipped.filterMap (fun segment => token? (.start, segment)) = [] := by
    rw [List.filterMap_eq_nil_iff]
    rintro ⟨role, content⟩ mem
    rcases skips _ mem with same | same <;> obtain rfl := same <;> rfl
  rw [List.filterMap_append, none, List.nil_append]

theorem clean_append_of_skipped {skipped segments : List Segment}
    (skips : ∀ segment ∈ skipped, segment.IsSkipped)
    (clean : ∀ segment ∈ segments, segment.role ≠ .unexpected ∧ segment.role ≠ .unterminated) :
    ∀ segment ∈ skipped ++ segments,
      segment.role ≠ .unexpected ∧ segment.role ≠ .unterminated := by
  refine List.forall_mem_append.2 ⟨fun segment mem => ?_, clean⟩
  rcases skips segment mem with same | same <;> rw [same] <;> decide

theorem segmentation_laidOut {layout : List (List Char × Token)} {ending : List Char}
    (isLayout : IsLayout layout ending)
    (lexemes : ∀ place ∈ layout, Lexeme place.2.kind place.2.lexeme.toList ∧
      place.2.literal = literal place.2.kind place.2.lexeme.toList) :
    ∃ segments, Segmentation (laidOut layout ending) segments ∧
      (∀ segment ∈ segments, segment.role ≠ .unexpected ∧ segment.role ≠ .unterminated) ∧
      segments.filterMap (fun segment => token? (.start, segment)) =
        layout.map fun place => place.2.unplaced := by
  induction layout with
  | nil =>
      obtain ⟨skipped, cuts, skips⟩ := isLayout.ending.segmentation (fun _ => .inl rfl) .nil
      rw [List.append_nil] at cuts
      exact ⟨_, cuts, clean_append_of_skipped skips nofun, filterMap_append_of_skipped skips []⟩
  | cons place layout ih =>
      obtain ⟨gap, token⟩ := place
      obtain ⟨⟨lexeme, same⟩, others⟩ := List.forall_mem_cons.1 lexemes
      obtain ⟨segments, cuts, clean, tokens⟩ := ih isLayout.tail others
      have break_ (kind : token.kind = .newline) :
          (token.lexeme.toList ++ laidOut layout ending).head? = some '\n' := by
        have shape : token.lexeme.toList = ['\n'] := Lexeme.eq_break (kind ▸ lexeme)
        rw [shape]
        rfl
      obtain ⟨skipped, cuts, skips⟩ := (isLayout.gaps _ List.mem_cons_self).segmentation
        (fun kind => .inr (break_ kind)) (.cons (lexeme.leads isLayout.separates) cuts)
      refine ⟨_, cuts, clean_append_of_skipped skips (List.forall_mem_cons.2 ⟨by simp, clean⟩), ?_⟩
      rw [filterMap_append_of_skipped skips, List.filterMap_cons, tokens]
      have literal : token.literal = literal token.kind token.lexeme.toList := same
      simp [token?, Token.unplaced, literal]

end Lexed

/-- Layout does not matter.  A text of the lexemes of another one, mistakes in that left out, with
gaps between them is read without a mistake as the same tokens in other places, and so as the same
trees. -/
theorem Parsed.ofText_laidOut (room : Nat) (source text : String) {layout : List (List Char × Token)}
    {ending : List Char} (isLayout : IsLayout layout ending)
    (lexemes : layout.map Prod.snd = (Lexed.ofText source).tokens.items)
    (laid : text.toList = laidOut layout ending) :
    (Lexed.ofText text).faults = [] ∧
      (Lexed.ofText text).tokens.items.map Token.unplaced =
        (Lexed.ofText source).tokens.items.map Token.unplaced ∧
      (ofTokens room (Lexed.ofText text).tokens).mapTokens Token.unplaced =
        (ofTokens room (Lexed.ofText source).tokens).mapTokens Token.unplaced := by
  have given {place} (mem : place ∈ layout) : place.2 ∈ (Lexed.ofText source).tokens.items :=
    lexemes ▸ List.mem_map_of_mem mem
  obtain ⟨segments, cuts, clean, tokens⟩ := Lexed.segmentation_laidOut isLayout fun place mem =>
    ⟨(Lexed.starts_of_mem_items (given mem)).2, Lexed.literal_of_mem_items (given mem)⟩
  obtain rfl := cuts.eq_cut
  rw [← laid] at clean tokens
  have items : (Lexed.ofText text).tokens.items.map Token.unplaced =
      (Lexed.ofText source).tokens.items.map Token.unplaced := by
    rw [← lexemes, List.map_map]
    rw [Lexed.ofText, Lexed.items_eq, Lexed.map_unplaced, tokens]
    rfl
  refine ⟨(Lexed.clean_iff _).2 clean, items, ?_⟩
  have parsed (tokens : Tokens) := ofTokens_map Token.relabels_unplaced room tokens.items
    tokens.stop (.eof .start)
  rw [← parsed, ← parsed, items]

/-- A text with a strange character, quotes across lines and signs that belong together, and another
one with comments in it and blanks between the signs. -/
theorem Parsed.ofText_laidOut_of_quotes :
    let source := "<@= 'a\n#\"'<=\n1.5"
    let text := "<\t=\r'a\n#\"' <=# \"\n 1.5 # "
    (Lexed.ofText source).tokens.items.map Token.lexeme =
        ["<", "=", "'a\n#\"'", "<=", "\n", "1.5"] ∧
      (Lexed.ofText text).faults = [] ∧
      (Lexed.ofText text).tokens.items.map Token.unplaced =
        (Lexed.ofText source).tokens.items.map Token.unplaced := by
  intro source text
  let gaps := [[], ['\t'], ['\r'], [' '], ['#', ' ', '"'], [' ']]
  obtain ⟨faults, items, _⟩ := ofText_laidOut 989 source text
    (show IsLayout (gaps.zip (Lexed.ofText source).tokens.items) [' ', '#', ' '] by decide +kernel)
    (by decide +kernel) (by decide +kernel)
  exact ⟨by decide +kernel, faults, items⟩

end BilingualScript
