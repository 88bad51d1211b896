import BilingualScript.Proofs.Reading.Grammar
import BilingualScript.Proofs.Reading.Unbounded

/-!
# Outcomes of readers

A reader finds something without a fault, or runs out of room, or meets a fault of another kind.
In the grammar that allows all targets, an invalid target is no fault that counts.
-/

namespace BilingualScript.Reader

open Grammar

variable {α β : Type} {allTargets : Bool} {tokens middle rest : List Token}

def Tolerated (allTargets : Bool) (faults : List SyntaxFault) : Prop :=
  ∀ fault ∈ faults, allTargets = true ∧ fault.cause = .invalidTarget

@[simp] theorem tolerated_nil : Tolerated allTargets [] := by simp [Tolerated]

@[simp] theorem tolerated_append {first second : List SyntaxFault} :
    Tolerated allTargets (first ++ second) ↔
      Tolerated allTargets first ∧ Tolerated allTargets second :=
  List.forall_mem_append

@[simp] theorem tolerated_false {faults : List SyntaxFault} :
    Tolerated false faults ↔ faults = [] := by
  simp [Tolerated, List.eq_nil_iff_forall_not_mem]

/-! ## Finding -/

/-- A reader finds a value in front of some tokens that it leaves, with no fault that counts. -/
def Found (allTargets : Bool) (reader : Reader α) (tokens rest : List Token) (value : α) : Prop :=
  ∃ faults, reader.run tokens = ⟨some value, rest, faults⟩ ∧ Tolerated allTargets faults

theorem found_of_run {reader : Reader α} {value : α}
    (run : reader.run tokens = ⟨some value, rest, []⟩) :
    Found allTargets reader tokens rest value :=
  ⟨[], run, tolerated_nil⟩

theorem found_iff_of_run {reader : Reader α} {value found : α}
    (run : reader.run tokens = ⟨some value, middle, []⟩) :
    Found allTargets reader tokens rest found ↔ value = found ∧ middle = rest := by
  constructor
  · rintro ⟨faults, run', _⟩
    rw [run, Reading.mk.injEq] at run'
    exact ⟨Option.some.inj run'.1, run'.2.1⟩
  · rintro ⟨rfl, rfl⟩
    exact found_of_run run

theorem found_congr {first second : Reader α} {other : List Token} {value : α}
    (same : first.run tokens = second.run other) :
    Found allTargets first tokens rest value ↔ Found allTargets second other rest value := by
  rw [Found, same]
  rfl

@[simp] theorem found_pure {value found : α} :
    Found allTargets (pure value) tokens rest found ↔ value = found ∧ tokens = rest :=
  found_iff_of_run (run_pure value tokens)

theorem found_bind {reader : Reader α} {next : α → Reader β} {value : β} :
    Found allTargets (reader >>= next) tokens rest value ↔
      ∃ first middle, Found allTargets reader tokens middle first ∧
        Found allTargets (next first) middle rest value := by
  constructor
  · rintro ⟨faults, run, tolerated⟩
    rcases reading : reader.run tokens with ⟨found, middle, before⟩
    cases found with
    | none =>
        rw [run_bind_of_failed reading] at run
        cases congrArg Reading.found run
    | some first =>
        rw [run_bind_of_found reading] at run
        rcases behind : (next first).run middle with ⟨found, left, after⟩
        rw [behind, Reading.mk.injEq] at run
        obtain ⟨rfl, rfl, rfl⟩ := run
        rw [tolerated_append] at tolerated
        exact ⟨first, middle, ⟨before, reading, tolerated.1⟩, ⟨after, behind, tolerated.2⟩⟩
  · rintro ⟨first, middle, ⟨before, reading, tolerated⟩, ⟨after, behind, tolerated'⟩⟩
    refine ⟨before ++ after, ?_, tolerated_append.2 ⟨tolerated, tolerated'⟩⟩
    rw [run_bind_of_found reading, behind]

theorem found_map {reader : Reader α} {f : α → β} {value : β} :
    Found allTargets (f <$> reader) tokens rest value ↔
      ∃ first, Found allTargets reader tokens rest first ∧ f first = value := by
  refine found_bind.trans ⟨?_, ?_⟩
  · rintro ⟨first, middle, found, pure⟩
    obtain ⟨rfl, rfl⟩ := found_pure.1 pure
    exact ⟨first, found, rfl⟩
  · rintro ⟨first, found, rfl⟩
    exact ⟨first, rest, found, found_pure.2 ⟨rfl, rfl⟩⟩

theorem Found.length_lt {reader : Reader α} {value : α}
    (found : Found allTargets reader tokens rest value) (consumes : Consumes reader) :
    rest.length < tokens.length := by
  obtain ⟨faults, run, _⟩ := found
  have shorter := consumes tokens
  rw [run] at shorter
  exact shorter rfl

theorem Found.suffix {reader : Reader α} {value : α}
    (found : Found allTargets reader tokens rest value) (orderly : Orderly reader) :
    rest <:+ tokens := by
  obtain ⟨faults, run, _⟩ := found
  have left := orderly.suffix tokens
  rwa [run] at left

@[simp] theorem not_found_fail {cause : SyntaxCause} {value : α} :
    ¬Found allTargets (fail cause) tokens rest value := by
  rintro ⟨faults, run, _⟩
  cases congrArg Reading.found run

@[simp] theorem found_report {fault : SyntaxFault} {value : Unit} :
    Found allTargets (report fault) tokens rest value ↔
      allTargets = true ∧ fault.cause = .invalidTarget ∧ tokens = rest := by
  constructor
  · rintro ⟨faults, run, tolerated⟩
    simp only [run_report, Reading.mk.injEq] at run
    obtain ⟨_, rfl, rfl⟩ := run
    have := tolerated fault (by simp)
    exact ⟨this.1, this.2, rfl⟩
  · rintro ⟨all, cause, rfl⟩
    exact ⟨[fault], rfl, by simpa [Tolerated] using ⟨all, cause⟩⟩

@[simp] theorem found_ahead_bind {next : List Token → Reader α} {value : α} :
    Found allTargets (ahead >>= next) tokens rest value ↔
      Found allTargets (next tokens) tokens rest value :=
  found_congr (run_ahead_bind next tokens)

@[simp] theorem found_accept?_bind_nil {wanted : Kind → Bool} {next : Option Token → Reader α}
    {value : α} :
    Found allTargets (accept? wanted >>= next) [] rest value ↔
      Found allTargets (next none) [] rest value :=
  found_congr (run_accept?_bind_nil wanted next)

theorem found_accept?_bind_of_wanted {wanted : Kind → Bool} {next : Option Token → Reader α}
    {token : Token} {value : α} (fits : wanted token.kind = true) :
    Found allTargets (accept? wanted >>= next) (token :: tokens) rest value ↔
      Found allTargets (next (some token)) tokens rest value :=
  found_congr (by rw [run_accept?_bind_cons, if_pos fits])

theorem found_accept?_bind_of_unwanted {wanted : Kind → Bool} {next : Option Token → Reader α}
    {token : Token} {value : α} (differs : wanted token.kind = false) :
    Found allTargets (accept? wanted >>= next) (token :: tokens) rest value ↔
      Found allTargets (next none) (token :: tokens) rest value :=
  found_congr (by rw [run_accept?_bind_cons, if_neg (by simp [differs])])

@[simp] theorem found_expect {kind : Kind} {cause : SyntaxCause} {token : Token} :
    Found allTargets (expect kind cause) tokens rest token ↔
      tokens = token :: rest ∧ token.kind = kind := by
  cases tokens with
  | nil => simp [Found]
  | cons head tail =>
      by_cases fits : head.kind = kind
      · constructor
        · rintro ⟨faults, run, _⟩
          rw [run_expect_cons, if_pos fits, Reading.mk.injEq] at run
          obtain ⟨same, rfl, _⟩ := run
          cases same
          exact ⟨rfl, fits⟩
        · rintro ⟨same, _⟩
          obtain ⟨rfl, rfl⟩ := List.cons.inj same
          exact found_of_run (by rw [run_expect_cons, if_pos fits])
      · constructor
        · rintro ⟨faults, run, _⟩
          rw [run_expect_cons, if_neg fits] at run
          cases congrArg Reading.found run
        · rintro ⟨same, kind⟩
          obtain ⟨rfl, rfl⟩ := List.cons.inj same
          exact absurd kind fits

@[simp] theorem found_expectEnd {cause : SyntaxCause} {value : Unit} :
    Found allTargets (expectEnd cause) tokens rest value ↔ End tokens rest := by
  cases tokens with
  | nil =>
      constructor
      · rintro ⟨faults, run, _⟩
        obtain rfl := congrArg Reading.rest run
        exact .stop
      · rintro ⟨⟩
        exact found_of_run (run_expectEnd_nil cause)
  | cons head tail =>
      by_cases newline : head.kind = .newline
      · constructor
        · rintro ⟨faults, run, _⟩
          rw [run_expectEnd_cons, if_pos newline] at run
          obtain rfl := congrArg Reading.rest run
          exact .newline newline
        · rintro ⟨⟩
          exact found_of_run (by rw [run_expectEnd_cons, if_pos newline])
      · constructor
        · rintro ⟨faults, run, _⟩
          rw [run_expectEnd_cons, if_neg newline] at run
          cases congrArg Reading.found run
        · intro ends
          cases ends with
          | newline kind => exact absurd kind newline

/-! ## The first fault that counts -/

/-- The first fault that a reader meets, other than of a target. -/
def Stuck (reader : Reader α) (tokens : List Token) (fault : SyntaxFault) : Prop :=
  (reader.run tokens).faults.find? (·.cause != .invalidTarget) = some fault

theorem Tolerated.find?_eq_none {faults : List SyntaxFault}
    (tolerated : Tolerated allTargets faults) :
    faults.find? (·.cause != .invalidTarget) = none :=
  List.find?_eq_none.2 fun fault mem => by simp [(tolerated fault mem).2]

theorem tolerated_of_find?_eq_none {faults : List SyntaxFault}
    (none : faults.find? (·.cause != .invalidTarget) = none) : Tolerated true faults :=
  fun fault mem => ⟨rfl, by simpa using List.find?_eq_none.1 none fault mem⟩

theorem Stuck.mem {reader : Reader α} {fault : SyntaxFault} (stuck : Stuck reader tokens fault) :
    fault ∈ (reader.run tokens).faults :=
  List.mem_of_find?_eq_some stuck

theorem stuck_congr {first second : Reader α} {other : List Token} {fault : SyntaxFault}
    (same : first.run tokens = second.run other) :
    Stuck first tokens fault ↔ Stuck second other fault := by
  rw [Stuck, same]
  rfl

theorem Found.not_stuck {reader : Reader α} {value : α} {fault : SyntaxFault}
    (found : Found allTargets reader tokens rest value) : ¬Stuck reader tokens fault := by
  obtain ⟨faults, run, tolerated⟩ := found
  rw [Stuck, run, tolerated.find?_eq_none]
  exact nofun

/-- A reader is stuck at its own first fault or, if it finds something, at that of what comes
behind. -/
theorem stuck_bind {reader : Reader α} {next : α → Reader β} {fault : SyntaxFault} :
    Stuck (reader >>= next) tokens fault ↔
      Stuck reader tokens fault ∨
        ∃ value middle, Found true reader tokens middle value ∧
          Stuck (next value) middle fault := by
  unfold Stuck
  rcases reading : reader.run tokens with ⟨_ | value, middle, faults⟩
  · rw [run_bind_of_failed reading]
    refine (or_iff_left ?_).symm
    rintro ⟨_, _, ⟨_, run, _⟩, _⟩
    cases congrArg Reading.found (reading.symm.trans run)
  · rw [run_bind_of_found reading, List.find?_append]
    cases first : faults.find? (·.cause != .invalidTarget) with
    | some fault' =>
        refine (or_iff_left ?_).symm
        rintro ⟨_, _, found, _⟩
        have stuck : Stuck reader tokens fault' := by rw [Stuck, reading, first]
        exact found.not_stuck stuck
    | none =>
        rw [Option.none_or]
        refine ⟨fun later => .inr ⟨value, middle, ?_, later⟩, ?_⟩
        · exact ⟨faults, reading, tolerated_of_find?_eq_none first⟩
        · rintro (impossible | ⟨_, _, ⟨_, run, _⟩, later⟩)
          · cases impossible
          · rw [reading, Reading.mk.injEq] at run
            obtain ⟨same, rfl, _⟩ := run
            cases same
            exact later

theorem Stuck.behind {reader : Reader α} {next : α → Reader β} {value : α} {fault : SyntaxFault}
    (stuck : Stuck (next value) middle fault)
    (found : Found allTargets reader tokens middle value) :
    Stuck (reader >>= next) tokens fault := by
  obtain ⟨faults, run, tolerated⟩ := found
  rw [Stuck, run_bind_of_found run, List.find?_append, tolerated.find?_eq_none, Option.none_or]
  exact stuck

theorem not_stuck_pure {value : α} {fault : SyntaxFault} : ¬Stuck (pure value) tokens fault := nofun

theorem stuck_fail {cause : SyntaxCause} {fault : SyntaxFault} :
    Stuck (fail cause : Reader α) tokens fault ↔
      cause ≠ .invalidTarget ∧ ⟨cause, tokens⟩ = fault := by
  by_cases counts : cause = .invalidTarget <;> simp [Stuck, counts]

theorem stuck_map {reader : Reader α} {f : α → β} {fault : SyntaxFault} :
    Stuck (f <$> reader) tokens fault ↔ Stuck reader tokens fault :=
  stuck_bind.trans (or_iff_left fun ⟨_, _, _, stuck⟩ => not_stuck_pure stuck)

theorem stuck_accept?_bind_nil {wanted : Kind → Bool} {next : Option Token → Reader α}
    {fault : SyntaxFault} :
    Stuck (accept? wanted >>= next) [] fault ↔ Stuck (next none) [] fault :=
  stuck_congr (run_accept?_bind_nil wanted next)

theorem stuck_accept?_bind_of_wanted {wanted : Kind → Bool} {next : Option Token → Reader α}
    {token : Token} {fault : SyntaxFault} (fits : wanted token.kind = true) :
    Stuck (accept? wanted >>= next) (token :: tokens) fault ↔
      Stuck (next (some token)) tokens fault :=
  stuck_congr (by rw [run_accept?_bind_cons, if_pos fits])

theorem stuck_accept?_bind_of_unwanted {wanted : Kind → Bool} {next : Option Token → Reader α}
    {token : Token} {fault : SyntaxFault} (differs : wanted token.kind = false) :
    Stuck (accept? wanted >>= next) (token :: tokens) fault ↔
      Stuck (next none) (token :: tokens) fault :=
  stuck_congr (by rw [run_accept?_bind_cons, if_neg (by simp [differs])])

theorem Stuck.rest_of_expect {kind : Kind} {cause : SyntaxCause} {fault : SyntaxFault}
    (stuck : Stuck (expect kind cause) tokens fault) : fault.rest = tokens := by
  have mem := stuck.mem
  cases tokens with
  | nil => simp_all
  | cons token rest => by_cases fits : token.kind = kind <;> simp_all

theorem Stuck.rest_of_expectEnd {cause : SyntaxCause} {fault : SyntaxFault}
    (stuck : Stuck (expectEnd cause) tokens fault) : fault.rest = tokens ∧ tokens ≠ [] := by
  have mem := stuck.mem
  cases tokens with
  | nil => simp at mem
  | cons token rest => by_cases newline : token.kind = .newline <;> simp_all

/-! ## Running out of room -/

/-- A reader runs out of room before it meets any other fault that counts. -/
def Sinks (reader : Reader α) (tokens : List Token) : Prop :=
  ∃ fault, Stuck reader tokens fault ∧ fault.cause = .tooDeep

theorem sinks_fail : Sinks (fail .tooDeep : Reader α) tokens :=
  ⟨⟨.tooDeep, tokens⟩, rfl, rfl⟩

theorem sinks_congr {first second : Reader α} {other : List Token}
    (same : first.run tokens = second.run other) : Sinks first tokens ↔ Sinks second other :=
  exists_congr fun _ => and_congr_left' (stuck_congr same)

theorem Sinks.bind {reader : Reader α} (sinks : Sinks reader tokens) (next : α → Reader β) :
    Sinks (reader >>= next) tokens := by
  obtain ⟨fault, stuck, cause⟩ := sinks
  exact ⟨fault, stuck_bind.2 (.inl stuck), cause⟩

theorem Sinks.behind {reader : Reader α} {next : α → Reader β} {value : α}
    (sinks : Sinks (next value) middle) (found : Found allTargets reader tokens middle value) :
    Sinks (reader >>= next) tokens := by
  obtain ⟨fault, stuck, cause⟩ := sinks
  exact ⟨fault, stuck.behind found, cause⟩

/-- A reader finds a value or else runs out of room.  Where only names may be assigned to, it
runs out of room for a reason. -/
def Reaches (allTargets : Bool) (reason : Prop) (reader : Reader α) (tokens rest : List Token)
    (value : α) : Prop :=
  Found allTargets reader tokens rest value ∨
    Sinks reader tokens ∧ (allTargets = false → reason)

section Reaches

variable {reason : Prop} {reader : Reader α} {value : α}

theorem Reaches.of_found (found : Found allTargets reader tokens rest value) :
    Reaches allTargets reason reader tokens rest value :=
  .inl found

theorem Reaches.of_sinks (sinks : Sinks reader tokens) (because : reason) :
    Reaches allTargets reason reader tokens rest value :=
  .inr ⟨sinks, fun _ => because⟩

theorem Reaches.mono {reason' : Prop} (reaches : Reaches allTargets reason reader tokens rest value)
    (weaker : allTargets = false → reason → reason') :
    Reaches allTargets reason' reader tokens rest value :=
  reaches.imp_right fun ⟨sinks, because⟩ => ⟨sinks, fun strict => weaker strict (because strict)⟩

theorem Reaches.bind {next : α → Reader β} {found : β}
    (first : Reaches allTargets reason reader tokens middle value)
    (second : Reaches allTargets reason (next value) middle rest found) :
    Reaches allTargets reason (reader >>= next) tokens rest found := by
  rcases first with first | ⟨sinks, because⟩
  · rcases second with second | ⟨sinks, because⟩
    · exact .inl (found_bind.2 ⟨value, middle, first, second⟩)
    · exact .inr ⟨sinks.behind first, because⟩
  · exact .inr ⟨sinks.bind next, because⟩

theorem reaches_congr {other : Reader α} {others : List Token}
    (same : reader.run tokens = other.run others) :
    Reaches allTargets reason reader tokens rest value ↔
      Reaches allTargets reason other others rest value :=
  or_congr (found_congr same) (and_congr (sinks_congr same) Iff.rfl)

theorem reaches_ahead_bind {next : List Token → Reader α} :
    Reaches allTargets reason (ahead >>= next) tokens rest value ↔
      Reaches allTargets reason (next tokens) tokens rest value :=
  reaches_congr (run_ahead_bind next tokens)

theorem reaches_accept?_bind_nil {wanted : Kind → Bool} {next : Option Token → Reader α} :
    Reaches allTargets reason (accept? wanted >>= next) [] rest value ↔
      Reaches allTargets reason (next none) [] rest value :=
  reaches_congr (run_accept?_bind_nil wanted next)

theorem reaches_accept?_bind_of_wanted {wanted : Kind → Bool} {next : Option Token → Reader α}
    {token : Token} (fits : wanted token.kind = true) :
    Reaches allTargets reason (accept? wanted >>= next) (token :: tokens) rest value ↔
      Reaches allTargets reason (next (some token)) tokens rest value :=
  reaches_congr (by rw [run_accept?_bind_cons, if_pos fits])

theorem reaches_accept?_bind_of_unwanted {wanted : Kind → Bool} {next : Option Token → Reader α}
    (differs : ∀ token ∈ tokens.head?, wanted token.kind = false) :
    Reaches allTargets reason (accept? wanted >>= next) tokens rest value ↔
      Reaches allTargets reason (next none) tokens rest value := by
  cases tokens with
  | nil => exact reaches_accept?_bind_nil
  | cons token tail =>
      have := differs token rfl
      exact reaches_congr (by rw [run_accept?_bind_cons, if_neg (by simp [this])])

end Reaches

/-! ## Recovery -/

theorem found_recovering {reader : Reader α} (orderly : Orderly reader) {value? : Option α} :
    Found allTargets (recovering reader) tokens rest value? ↔
      ∃ value, value? = some value ∧ Found allTargets reader tokens rest value := by
  rcases reading : reader.run tokens with ⟨found, left, faults⟩
  have recovered := run_recovering reader tokens
  rw [reading] at recovered
  cases found with
  | none =>
      have fault := orderly.complains tokens (by rw [reading])
      rw [reading] at fault
      obtain ⟨fault, mem, counts⟩ := fault
      constructor
      · rintro ⟨_, run, tolerated⟩
        rw [recovered, Reading.mk.injEq] at run
        obtain ⟨_, _, rfl⟩ := run
        exact absurd (tolerated fault mem).2 counts
      · rintro ⟨_, _, _, run, _⟩
        rw [reading] at run
        cases congrArg Reading.found run
  | some value =>
      constructor
      · rintro ⟨_, run, tolerated⟩
        rw [recovered, Reading.mk.injEq] at run
        obtain ⟨same, rfl, rfl⟩ := run
        cases same
        exact ⟨value, rfl, faults, reading, tolerated⟩
      · rintro ⟨_, rfl, _, run, tolerated⟩
        rw [reading, Reading.mk.injEq] at run
        obtain ⟨same, rfl, rfl⟩ := run
        cases same
        exact ⟨faults, recovered, tolerated⟩

@[simp] theorem stuck_recovering {reader : Reader α} {fault : SyntaxFault} :
    Stuck (recovering reader) tokens fault ↔ Stuck reader tokens fault := by
  rw [Stuck, Stuck, run_recovering]
  split <;> rfl

theorem Sinks.recovering {reader : Reader α} (sinks : Sinks reader tokens) :
    Sinks (recovering reader) tokens := by
  obtain ⟨fault, stuck, cause⟩ := sinks
  exact ⟨fault, stuck_recovering.2 stuck, cause⟩

end BilingualScript.Reader
