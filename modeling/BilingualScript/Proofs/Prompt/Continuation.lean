import BilingualScript.Proofs.Prompt.Feeding
import BilingualScript.Proofs.Reading.Extent
import BilingualScript.Proofs.Token.Order

/-!
# Where an entry goes on

In a text without mistakes, a line that ends inside an if statement asks for another one, and no
other line does, whatever the lines that are still to come.
-/

namespace BilingualScript

open Grammar

/-- A place lies inside an if statement that is not inside another one: behind its word `kalo` and
in front of its word `udahan`. -/
def InsideIf (tokens : List Token) (place : Position) : Prop :=
  ∃ kalo udahan, Outermost false tokens kalo udahan ∧ kalo.position.Precedes place ∧
    place.Precedes udahan.position

def tokensBefore (place : Position) (tokens : List Token) : List Token :=
  tokens.filter (·.position.Precedes place)

theorem tokensBefore_append {place : Position} {start behind : List Token}
    (before : ∀ token ∈ start, token.position.Precedes place)
    (after : ∀ token ∈ behind, ¬token.position.Precedes place) :
    tokensBefore place (start ++ behind) = start := by
  rw [tokensBefore, List.filter_append, List.filter_eq_self.2 (by simpa using before),
    List.filter_eq_nil_iff.2 (by simpa using after), List.append_nil]

theorem needsContinuation_of_level {text : String} (level : surplus (tokensOf text) = 0) :
    needsContinuation text = false := by
  rw [← Bool.not_eq_true, needsContinuation_iff, level]
  exact Int.lt_irrefl 0

/-- Up to a newline or to the end of a text, the tokens of what stands there open as many if
statements as those of the whole text that start there, even if a string goes on. -/
theorem surplus_tokensOf_front {front rest : String}
    (clean : (Lexed.ofText (front ++ rest)).faults = [])
    (edge : rest = "" ∨ rest.toList.head? = some '\n') :
    ∃ start behind, tokensOf (front ++ rest) = start ++ behind ∧
      surplus (tokensOf front) = surplus start ∧
      (∀ token ∈ start, token.position.Precedes (.behind front.toList)) ∧
      ∀ token ∈ behind, (Position.behind front.toList).Precedes token.position ∨
        token.kind = .newline ∧ token.position = .behind front.toList := by
  have edge : rest.toList = [] ∨ rest.toList.head? = some '\n' :=
    edge.imp_left fun none => by rw [none]; rfl
  rw [tokensOf, Lexed.ofText, String.toList_append] at *
  obtain ⟨start, behind, items, taken, before, after⟩ := Lexed.items_around clean edge
  refine ⟨start, behind, items, ?_, before, after⟩
  rcases taken with rfl | ⟨string, kind, rfl⟩
  · rfl
  · rw [surplus_append, surplus_of_other (by simp [kind]) (by simp [kind]), Int.add_zero]
    rfl

/-- At a newline of a text without mistakes and at its end, what stands in front asks for more lines
just where the place lies inside an if statement.  So neither the whole text does, nor what stands
in front of a place between two statements. -/
theorem needsContinuation_iff_insideIf {room : Nat} (front rest : String)
    (lexed : (Lexed.ofText (front ++ rest)).faults = [])
    (parsed : (Parsed.ofTokens room (Lexed.ofText (front ++ rest)).tokens).faults = [])
    (edge : rest = "" ∨ rest.toList.head? = some '\n') :
    let place := Position.behind front.toList
    (needsContinuation front = true ↔ InsideIf (tokensOf (front ++ rest)) place) ∧
      needsContinuation (front ++ rest) = false ∧
      ((∃ stmts, Sentence (tokensBefore place (tokensOf (front ++ rest))) stmts) →
        needsContinuation front = false) := by
  intro place
  obtain ⟨stmts, sentence, _⟩ := (Parsed.ofTokens_faults_eq_nil_iff _ _).1 parsed
  obtain ⟨start, behind, parts, same, before, after⟩ := surplus_tokensOf_front lexed edge
  have after' (token : Token) (mem : token ∈ behind) : ¬token.position.Precedes place := by
    rcases after token mem with behindPlace | ⟨_, at_place⟩
    · exact behindPlace.asymm
    · rw [at_place]
      exact Position.not_precedes_self place
  refine ⟨⟨fun goesOn => ?_, fun inside => ?_⟩, ?_, ?_⟩
  · rw [needsContinuation_iff, same] at goesOn
    obtain ⟨kalo, udahan, outermost, opened, unclosed⟩ := sentence.outermost parts goesOn
    refine ⟨kalo, udahan, outermost, before kalo opened, (after udahan unclosed).resolve_right ?_⟩
    simp [outermost.kinds.2]
  · obtain ⟨kalo, udahan, outermost, opened, unclosed⟩ := inside
    rw [needsContinuation_iff, same]
    rw [parts] at outermost
    exact outermost.surplus_pos (fun mem => after' kalo mem opened)
      fun mem => unclosed.asymm (before udahan mem)
  · exact needsContinuation_of_level sentence.surplus_eq_zero
  · rintro ⟨_, whole⟩
    rw [parts, tokensBefore_append before after'] at whole
    exact needsContinuation_of_level (same.trans whole.surplus_eq_zero)

/-- A newline in a string inside an if statement, and the one behind that statement. -/
theorem needsContinuation_iff_insideIf_of_string :
    let source := "kalo ril\nspill \"a\n#\" # udahan\nudahan\nspill 1"
    (Lexed.ofText source).faults = [] ∧
      (Parsed.ofTokens 989 (Lexed.ofText source).tokens).faults = [] ∧
      InsideIf (tokensOf source) ⟨2, 9⟩ ∧ ¬InsideIf (tokensOf source) ⟨4, 7⟩ := by
  intro source
  have lexed : (Lexed.ofText source).faults = [] := by decide +kernel
  have parsed : (Parsed.ofTokens 989 (Lexed.ofText source).tokens).faults = [] := by decide +kernel
  refine ⟨lexed, parsed, ?_, fun inside => ?_⟩
  · refine (needsContinuation_iff_insideIf "kalo ril\nspill \"a"
      "\n#\" # udahan\nudahan\nspill 1" lexed parsed (by decide +kernel)).1.1 ?_
    decide +kernel
  · have goesOn := (needsContinuation_iff_insideIf "kalo ril\nspill \"a\n#\" # udahan\nudahan"
      "\nspill 1" lexed parsed (by decide +kernel)).1.2 inside
    revert goesOn
    decide +kernel

end BilingualScript
