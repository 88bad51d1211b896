import BilingualScript.Proofs.Reading.Confinement
import BilingualScript.Proofs.Reading.Inheritance

/-!
# Where faults are met

A fault is met at some of the tokens that a reader is given or at their end, so what it is reported
at is one of them or the end mark.
-/

namespace BilingualScript

namespace Reader

variable {α β : Type}

/-- An orderly reader of which the faults keep tokens that the reader has been given. -/
structure Placed (reader : Reader α) : Prop extends Orderly reader where
  placed : ∀ tokens, ∀ fault ∈ (reader.run tokens).faults, fault.rest <:+ tokens

theorem placed_pure (value : α) : Placed (pure value) := ⟨orderly_pure value, by simp⟩

theorem placed_fail {cause : SyntaxCause} (counts : cause ≠ .invalidTarget) :
    Placed (fail cause : Reader α) := ⟨orderly_fail counts, by simp⟩

theorem placed_accept? (wanted : Kind → Bool) : Placed (accept? wanted) where
  toOrderly := orderly_accept? wanted
  placed tokens := by
    cases tokens with
    | nil => simp
    | cons token rest =>
        rw [run_accept?_cons]
        split <;> simp

theorem Placed.bind {reader : Reader α} {next : α → Reader β} (first : Placed reader)
    (second : ∀ value, Placed (next value)) : Placed (reader >>= next) where
  toOrderly := first.toOrderly.bind fun value => (second value).toOrderly
  placed tokens := by
    rcases reading : reader.run tokens with ⟨found, middle, faults⟩
    have placed := first.placed tokens
    have left := first.suffix tokens
    rw [reading] at placed left
    cases found with
    | none => rwa [run_bind_of_failed reading]
    | some value =>
        rw [run_bind_of_found reading]
        exact List.forall_mem_append.2
          ⟨placed, fun fault mem => ((second value).placed middle fault mem).trans left⟩

theorem Placed.recovering {reader : Reader α} (placed : Placed reader) :
    Placed (recovering reader) where
  toOrderly := placed.toOrderly.recovering
  placed tokens := by
    rw [run_recovering]
    split
    · exact placed.placed tokens
    · exact placed.placed tokens

theorem hereditary_placed : Hereditary fun _ reader => Placed reader where
  pure := placed_pure
  fail := placed_fail
  accept? := placed_accept?
  bind := Placed.bind
  peek _ placed := {
    toOrderly := orderly_ahead.bind fun tokens => (placed tokens).toOrderly
    placed := fun tokens => by
      rw [run_ahead_bind]
      exact (placed tokens).placed tokens }
  recovering := Placed.recovering

theorem placed_expression (room : Nat) : Placed (expression room) where
  toOrderly := orderly_expression room
  placed tokens :=
    ((@confined_expression ⟨.newline, "\n", .hampa, .start⟩ [] rfl room).confinedTo tokens).placed

theorem placed_statements (room : Nat) (inBlock : Bool) (count : Nat) :
    Placed (statements room inBlock count) :=
  hereditary_placed.statements placed_expression room inBlock count

end Reader

theorem Parsed.token_mem (room : Nat) (tokens : Tokens) :
    ∀ fault ∈ (Parsed.ofTokens room tokens).faults,
      fault.token tokens.stop ∈ tokens.items ∨ fault.token tokens.stop = tokens.stop := by
  intro fault mem
  have suffix := (Reader.placed_statements _ _ _).placed tokens.items fault mem
  rcases rest : fault.rest with _ | ⟨token, behind⟩
  · exact .inr (by simp [SyntaxFault.token, rest])
  · rw [rest] at suffix
    exact .inl (by simpa [SyntaxFault.token, rest] using suffix.subset List.mem_cons_self)

end BilingualScript
