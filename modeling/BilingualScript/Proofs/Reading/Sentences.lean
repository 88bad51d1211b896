import BilingualScript.Proofs.Reading.Completeness
import BilingualScript.Proofs.Reading.Soundness
import BilingualScript.Proofs.Reading.Writing
import BilingualScript.Proofs.Token.Lexing

/-!
# Programs are sentences

Reading meets no fault exactly where the tokens make up a program of the grammar that fits into the
room, and what it reads then is the tree of that.
-/

namespace BilingualScript

open Reader Grammar

variable {tokens : List Token} {stmts : List Stmt}

theorem Grammar.Sentence.found (sentence : Sentence tokens stmts) {room : Nat}
    (fits : Block.nesting stmts ≤ room) :
    Found false (lines room false) tokens [] (stmts.map some) := by
  refine (Lines.reaches sentence (halts_nil false) room).resolve_right fun sinks => ?_
  exact absurd (sinks.2 rfl) (Nat.not_lt.2 fits)

theorem Grammar.Sentence.unique {other : List Stmt} (sentence : Sentence tokens stmts)
    (sentence' : Sentence tokens other) : other = stmts := by
  let room := max (Block.nesting stmts) (Block.nesting other)
  obtain ⟨faults, run, _⟩ := sentence.found (Nat.le_max_left _ _ : _ ≤ room)
  obtain ⟨faults', run', _⟩ := sentence'.found (Nat.le_max_right _ _ : _ ≤ room)
  have same := Option.some.inj (congrArg Reading.found (run'.symm.trans run))
  exact (List.map_inj_right fun _ _ => Option.some.inj).1 same

theorem Grammar.Sentence.written (sentence : Sentence tokens stmts)
    (literals : ∀ token ∈ tokens, token.HasLiteral) :
    Block.written stmts = (Token.tidied true tokens).map Token.bare := by
  have writes := Lines.writes sentence literals
  simpa [Token.tidied] using writes.symm

theorem Reader.found_lines (room : Nat) (inBlock : Bool) (tokens : List Token)
    (clean : ((lines room inBlock).run tokens).faults = []) :
    ∃ rest program, Found false (lines room inBlock) tokens rest program := by
  rcases reading : (lines room inBlock).run tokens with ⟨found, rest, faults⟩
  rw [reading] at clean
  subst clean
  cases found with
  | some program => exact ⟨rest, program, found_of_run reading⟩
  | none =>
      obtain ⟨fault, mem, _⟩ := (orderly_lines room inBlock).complains tokens (by rw [reading])
      rw [reading] at mem
      cases mem

theorem Parsed.ofTokens_of_sentence {room : Nat} {tokens : Tokens}
    (sentence : Sentence tokens.items stmts) (fits : Block.nesting stmts ≤ room) :
    Parsed.ofTokens room tokens = ⟨stmts.map some, []⟩ := by
  obtain ⟨faults, run, tolerated⟩ := sentence.found fits
  rw [ofTokens_eq, run, tolerated_false.1 tolerated]
  rfl

/-- Reading meets no fault exactly in programs that fit into the room. -/
theorem Parsed.ofTokens_faults_eq_nil_iff (room : Nat) (tokens : Tokens) :
    (Parsed.ofTokens room tokens).faults = [] ↔
      ∃ stmts, Sentence tokens.items stmts ∧ Block.nesting stmts ≤ room := by
  constructor
  · intro clean
    rw [ofTokens_eq] at clean
    obtain ⟨rest, program, found⟩ := found_lines _ _ _ clean
    obtain ⟨stmts, _, sentence, halts, fits⟩ := yieldsLines _ _ _ _ _ found
    rw [Halts.eq_nil halts] at sentence
    exact ⟨stmts, sentence, fits rfl⟩
  · rintro ⟨stmts, sentence, fits⟩
    rw [ofTokens_of_sentence sentence fits]

theorem Parsed.shallow_iff {room : Nat} {tokens : Tokens}
    (sentence : Sentence tokens.items stmts) :
    (∀ fault ∈ (Parsed.ofTokens room tokens).faults, fault.cause ≠ .tooDeep) ↔
      Block.nesting stmts ≤ room := by
  constructor
  · intro shallow
    rcases Lines.reaches sentence (halts_nil false) room with found | ⟨⟨_, stuck, deep⟩, _⟩
    · obtain ⟨others, same, _, _, fits⟩ := yieldsLines _ _ _ _ _ found
      obtain rfl := (List.map_inj_right fun _ _ => Option.some.inj).1 same
      exact fits rfl
    · rw [ofTokens_eq] at shallow
      exact absurd deep (shallow _ stuck.mem)
  · intro fits
    simp [ofTokens_of_sentence sentence fits]

theorem Denotes.hasLiteral {kind : Kind} {text : List Char} {literal : Value}
    (denotes : Denotes kind text literal) (lexeme : String) (position : Position) :
    Token.HasLiteral ⟨kind, lexeme, literal, position⟩ := by
  cases denotes with
  | text => exact ⟨nofun, fun _ => ⟨_, rfl⟩⟩
  | number => exact ⟨fun _ => ⟨_, rfl⟩, nofun⟩
  | nothing noString noNumber =>
      exact ⟨fun number => absurd number noNumber, fun string => absurd string noString⟩

theorem Reads.hasLiteral {placed : List (Position × Segment)} {tokens : List Token}
    {faults : List LexicalFault} (reads : Reads placed tokens faults) :
    ∀ token ∈ tokens, token.HasLiteral := by
  induction reads with
  | nil => simp
  | token _ denotes _ ih => exact List.forall_mem_cons.2 ⟨denotes.hasLiteral _ _, ih⟩
  | blank _ ih | comment _ ih | unexpected _ ih | unterminated _ ih => exact ih

theorem Lexed.hasLiteral (source : String) :
    ∀ token ∈ (ofText source).tokens.items, token.HasLiteral :=
  (Lexed.reads source.toList).hasLiteral

/-- Tokens that do not nest too deep are read without a fault exactly if they make up a program of
the grammar.  What is read is the one tree that they have: written out, it gives the tokens again,
but for blank lines, and it is grouped as operators bind. -/
theorem parses_iff_sentence (room : Nat) (tokens : Tokens)
    (literals : ∀ token ∈ tokens.items, token.HasLiteral)
    (shallow : ∀ fault ∈ (Parsed.ofTokens room tokens).faults, fault.cause ≠ .tooDeep) :
    ((Parsed.ofTokens room tokens).faults = [] ↔ ∃ stmts, Sentence tokens.items stmts) ∧
      ∀ stmts, Sentence tokens.items stmts →
        (Parsed.ofTokens room tokens).program = stmts.map some ∧
          (∀ other, Sentence tokens.items other → other = stmts) ∧
          Block.written stmts = (Token.tidied true tokens.items).map Token.bare ∧
          Block.Grouped stmts := by
  constructor
  · rw [Parsed.ofTokens_faults_eq_nil_iff]
    constructor
    · rintro ⟨stmts, sentence, _⟩
      exact ⟨stmts, sentence⟩
    · rintro ⟨stmts, sentence⟩
      exact ⟨stmts, sentence, (Parsed.shallow_iff sentence).1 shallow⟩
  · intro stmts sentence
    have fits := (Parsed.shallow_iff sentence).1 shallow
    refine ⟨?_, fun _ => sentence.unique, sentence.written literals, Lines.grouped sentence⟩
    rw [Parsed.ofTokens_of_sentence sentence fits]

theorem parses_iff_sentence_of_kalo :
    ∃ stmts, Sentence (Lexed.ofText "kalo x\nspill 1 + 2 * -y\nudahan").tokens.items stmts :=
  (parses_iff_sentence 989 _ (Lexed.hasLiteral _) (by decide +kernel)).1.1 (by decide +kernel)

end BilingualScript
