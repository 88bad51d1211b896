import Mathlib.Data.List.Basic
import BilingualScript.Proofs.Reading.Confinement
import BilingualScript.Token.Lexing

/-!
# Lines are read apart

No expression goes on behind a newline, and after a fault reading goes on at the next newline at
the latest.  So tokens in front of a newline, if none of them opens an if statement, are read as if
the text ended there, and those behind it as if the text began there.
-/

namespace BilingualScript

variable {α β : Type}

namespace Reader

/-! ## Statements -/

section Statements

variable {newline : Token} {behind tokens : List Token}

/-- A reader reads tokens alike with and without a newline behind them, or else it takes all of
them, and the newline if there is one. -/
structure Parted (newline : Token) (behind : List Token) (reader : Reader α)
    (tokens : List Token) : Prop where
  outcome :
    reader.run (tokens ++ newline :: behind) = (reader.run tokens).before (newline :: behind) ∨
      ∃ value faults, reader.run tokens = ⟨some value, [], faults⟩ ∧
        reader.run (tokens ++ newline :: behind) =
          ⟨some value, behind, faults.map (SyntaxFault.before (newline :: behind))⟩
  placed : ∀ fault ∈ (reader.run tokens).faults, fault.rest <:+ tokens

theorem Parted.bind {reader : Reader α} {next : α → Reader β}
    (first : Confined (newline :: behind) reader)
    (second : ∀ value, (reader.run tokens).found = some value →
      Parted newline behind (next value) (reader.run tokens).rest) :
    Parted newline behind (reader >>= next) tokens := by
  rcases reading : reader.run tokens with ⟨found, middle, faults⟩
  have reading' := (first.confinedTo tokens).run_append reading
  have placed := (first.confinedTo tokens).placed
  have left := first.suffix tokens
  rw [reading] at placed left second
  cases found with
  | none =>
      constructor
      · rw [run_bind_of_failed reading, run_bind_of_failed reading']
        exact .inl rfl
      · rwa [run_bind_of_failed reading]
  | some value =>
      have second := second value rfl
      constructor
      · rw [run_bind_of_found reading, run_bind_of_found reading']
        rcases second.outcome with same | ⟨found, others, run, run'⟩
        · exact .inl (by simp [same, Reading.before])
        · exact .inr ⟨found, faults ++ others, by rw [run], by simp [run']⟩
      · rw [run_bind_of_found reading]
        exact List.forall_mem_append.2
          ⟨placed, fun fault mem => (second.placed fault mem).trans left⟩

section Newline

variable (kind : newline.kind = .newline)

include kind

theorem resumed_append (tokens : List Token) :
    resumed (tokens ++ newline :: behind) = resumed tokens ++ newline :: behind := by
  cases tokens with
  | nil => simp [resumed, kind]
  | cons token rest =>
      have halts : resumesReading newline.kind = true := by rw [kind]; rfl
      rw [List.cons_append, resumed, resumed]
      split
      · rfl
      · rw [List.dropWhile_append]
        split
        · next all => simp [List.isEmpty_iff.1 all, halts]
        · rfl

theorem Parted.recovering {reader : Reader α} (parted : Parted newline behind reader tokens) :
    Parted newline behind (recovering reader) tokens := by
  rcases reading : reader.run tokens with ⟨found, rest, faults⟩
  obtain ⟨outcome, placed⟩ := parted
  rw [reading] at outcome placed
  constructor
  · rw [run_recovering, run_recovering, reading]
    rcases outcome with same | ⟨value, others, run, run'⟩
    · rw [same]
      cases found with
      | none => exact .inl (by simp [Reading.before, resumed_append kind])
      | some value => exact .inl rfl
    · obtain ⟨rfl, rfl, rfl⟩ := Reading.mk.inj run
      rw [run']
      exact .inr ⟨some value, faults, rfl, rfl⟩
  · rw [run_recovering, reading]
    cases found <;> exact placed

end Newline

end Statements

end Reader

/-! ## Programs -/

end BilingualScript
