import BilingualScript.Proofs.Prompt.Feeding

/-!
# Refused entries

An entry that cannot be read leaves no trace: without its lines a prompt replies to all others as
it did, and binds what it bound.
-/

namespace BilingualScript.Prompt

/-! ## Exchanges -/

/-- What has passed with one line: the mark that asked for it, the line, the reply, the mark behind
it, and whether no entry was open then. -/
structure Exchange where
  asked : String
  line : String
  reply : Reply
  mark : String
  closed : Bool
  deriving DecidableEq, Repr

def exchange (prompt : Prompt) (calls : Nat) (line : String) : Exchange :=
  let (next, reply) := prompt.feed calls line
  ⟨prompt.mark, line, reply, next.mark, next.pending.isEmpty⟩

def exchanges (prompt : Prompt) (calls : Nat) : List String → List Exchange
  | [] => []
  | line :: rest => prompt.exchange calls line :: exchanges (prompt.feed calls line).1 calls rest

/-- Exchanges cut behind those that leave no entry open. -/
def entries : List Exchange → List (List Exchange)
  | [] => []
  | exchange :: rest =>
    if exchange.closed then [exchange] :: entries rest
    else (exchange :: (entries rest).headD []) :: (entries rest).tail

theorem flatten_entries (exchanges : List Exchange) : (entries exchanges).flatten = exchanges := by
  induction exchanges with
  | nil => rfl
  | cons exchange rest ih =>
      rw [entries]
      split
      · rw [List.flatten_cons, ih]
        rfl
      · conv => rhs; rw [← ih]
        cases entries rest <;> rfl

theorem open_of_mem_dropLast (exchanges : List Exchange) :
    ∀ entry ∈ entries exchanges, ∀ exchange ∈ entry.dropLast, exchange.closed = false := by
  induction exchanges with
  | nil => exact fun _ mem => absurd mem List.not_mem_nil
  | cons exchange rest ih =>
      rw [entries]
      split
      · exact List.forall_mem_cons.2 ⟨by simp, ih⟩
      · next opened =>
        cases split : entries rest with
        | nil => simp
        | cons entry others =>
            rw [split, List.forall_mem_cons] at ih
            refine List.forall_mem_cons.2 ⟨fun other mem => ?_, ih.2⟩
            cases entry with
            | nil => simp at mem
            | cons first entry =>
                rcases List.mem_cons.1 mem with rfl | mem
                · exact Bool.eq_false_iff.2 opened
                · exact ih.1 other mem

theorem closed_of_mem_dropLast (exchanges : List Exchange) :
    ∀ entry ∈ (entries exchanges).dropLast, ∃ exchange ∈ entry.getLast?,
      exchange.closed = true := by
  induction exchanges with
  | nil => simp [entries]
  | cons exchange rest ih =>
      rw [entries]
      split
      · next closed =>
        cases split : entries rest with
        | nil => simp
        | cons entry others =>
            rw [← split, List.dropLast_cons_of_ne_nil (by simp [split])]
            exact List.forall_mem_cons.2 ⟨⟨exchange, rfl, closed⟩, ih⟩
      · cases split : entries rest with
        | nil => simp
        | cons entry others =>
            cases others with
            | nil => simp
            | cons next others =>
                rw [split, List.dropLast_cons_of_ne_nil (by simp), List.forall_mem_cons] at ih
                obtain ⟨⟨last, ends, closed⟩, behind⟩ := ih
                rw [List.headD_cons, List.tail_cons, List.dropLast_cons_of_ne_nil (by simp)]
                refine List.forall_mem_cons.2 ⟨⟨last, ?_, closed⟩, behind⟩
                simp [List.getLast?_cons, Option.mem_def.1 ends]

def Exchange.isRefusal (exchange : Exchange) : Bool :=
  exchange.reply.transcript.reports.any (·.severity == .error)

def isRefused (entry : List Exchange) : Bool := entry.any Exchange.isRefusal

def accepted (exchanges : List Exchange) : List Exchange :=
  ((entries exchanges).filter (!isRefused ·)).flatten

variable {passed : Exchange} {rest : List Exchange}

theorem accepted_closed (closed : passed.closed = true) :
    accepted (passed :: rest) =
      (if passed.isRefusal then [] else [passed]) ++ accepted rest := by
  rw [accepted, entries, if_pos closed]
  cases refusal : passed.isRefusal <;> simp [isRefused, refusal, accepted]

theorem isRefused_headD_closed (closed : passed.closed = true) :
    isRefused ((entries (passed :: rest)).headD []) = passed.isRefusal := by
  simp [entries, closed, isRefused]

theorem accepted_open (opened : passed.closed = false) (fine : passed.isRefusal = false) :
    accepted (passed :: rest) =
      (if isRefused ((entries rest).headD []) then [] else [passed]) ++ accepted rest := by
  rw [accepted, accepted, entries, if_neg (by simp [opened])]
  cases entries rest with
  | nil => simp [isRefused, fine]
  | cons entry others =>
      have same : isRefused (passed :: entry) = isRefused entry := by simp [isRefused, fine]
      cases refused : isRefused entry <;> simp [same, refused]

theorem isRefused_headD_open (opened : passed.closed = false)
    (fine : passed.isRefusal = false) :
    isRefused ((entries (passed :: rest)).headD []) =
      isRefused ((entries rest).headD []) := by
  simp [entries, opened, isRefused, fine]

/-! ## Two prompts -/

/-- Prompts that differ at most in the text to which reports have referred. -/
structure Alike (prompt other : Prompt) : Prop where
  pending : prompt.pending = other.pending
  mark : prompt.mark = other.mark
  scope : prompt.session.scope = other.session.scope
  hadError : prompt.session.diagnostics.hadError = other.session.diagnostics.hadError
  hadRuntimeError :
    prompt.session.diagnostics.hadRuntimeError = other.session.diagnostics.hadRuntimeError

variable {prompt other : Prompt} {calls : Nat} {line : String}

theorem Alike.run (alike : Alike prompt other) (calls : Nat) (text : String) :
    prompt.session.run calls text = other.session.run calls text :=
  prompt.session.run_congr calls text alike.scope alike.hadError alike.hadRuntimeError

theorem Alike.enter (alike : Alike prompt other) (calls : Nat) (line : String) :
    (prompt.enter calls line).2 = (other.enter calls line).2 ∧
      Alike (prompt.enter calls line).1 (other.enter calls line).1 := by
  have text : prompt.textWith line = other.textWith line := by
    rw [textWith, textWith, alike.pending]
  cases opens : needsContinuation (prompt.textWith line) with
  | true =>
      rw [enter_of_open opens, enter_of_open (text ▸ opens)]
      exact ⟨rfl, by rw [alike.pending], rfl, alike.scope, alike.hadError, alike.hadRuntimeError⟩
  | false =>
      rw [enter_of_complete opens, enter_of_complete (text ▸ opens), alike.run, text]
      exact ⟨rfl, rfl, rfl, rfl, rfl, rfl⟩

theorem Alike.feed (alike : Alike prompt other) (calls : Nat) (line : String) :
    (prompt.feed calls line).2 = (other.feed calls line).2 ∧
      Alike (prompt.feed calls line).1 (other.feed calls line).1 := by
  rw [Prompt.feed, Prompt.feed, alike.pending]
  split
  · exact ⟨rfl, rfl, alike.mark, alike.scope, alike.hadError, alike.hadRuntimeError⟩
  split
  · exact ⟨rfl, alike⟩
  split
  · exact ⟨rfl, alike⟩
  split
  · exact ⟨rfl, alike⟩
  · exact alike.enter _ line

theorem Alike.exchange (alike : Alike prompt other) (calls : Nat) (line : String) :
    other.exchange calls line = prompt.exchange calls line := by
  obtain ⟨reply, next⟩ := alike.feed calls line
  simp only [Prompt.exchange, alike.mark, reply, next.mark, next.pending]

structure Begins (prompt other : Prompt) : Prop where
  consistent : other.Consistent
  closed : other.pending = []
  scope : prompt.session.scope = other.session.scope

theorem Begins.alike (begins : Begins prompt other) (consistent : prompt.Consistent)
    (closed : prompt.pending = []) : Alike prompt other where
  pending := closed.trans begins.closed.symm
  mark := by rw [consistent.mark, begins.consistent.mark, closed, begins.closed]
  scope := begins.scope
  hadError := consistent.unnoted.trans begins.consistent.unnoted.symm
  hadRuntimeError := consistent.unfailed.trans begins.consistent.unfailed.symm

theorem Alike.begins (alike : Alike prompt other) (consistent : other.Consistent)
    (closed : prompt.pending = []) : Begins prompt other :=
  ⟨consistent, alike.pending.symm.trans closed, alike.scope⟩

/-! ## What a line leaves -/

theorem feed_of_open (opened : (prompt.feed calls line).1.pending ≠ []) :
    (prompt.feed calls line).1.session = prompt.session ∧
      (prompt.feed calls line).2.transcript = silent := by
  refine (prompt.feed_idle_or_complete calls line).resolve_right fun ⟨enters, complete⟩ => opened ?_
  rw [feed_of_complete enters complete]

theorem scope_feed_of_refusal (refusal : (prompt.exchange calls line).isRefusal = true) :
    (prompt.feed calls line).1.session.scope = prompt.session.scope := by
  rcases prompt.feed_idle_or_complete calls line with ⟨session, _⟩ | ⟨enters, complete⟩
  · rw [session]
  · obtain ⟨report, reported, error⟩ := List.any_eq_true.1 refusal
    simp only [exchange, feed_of_complete enters complete] at reported
    rw [feed_of_complete enters complete]
    exact prompt.session.run_scope_of_error _ _ reported (by simpa using error)

/-! ## Without refused entries -/

/-- Where a prompt has to stand to go on as another one: at the beginning of the entry if that is
going to be refused, so that its lines are left out. -/
def GoesOn (refused : Bool) (prompt other : Prompt) : Prop :=
  other.Consistent ∧ if refused then Begins prompt other else Alike prompt other

theorem Alike.goesOn (alike : Alike prompt other) (consistent : other.Consistent)
    (closed : prompt.pending = []) (refused : Bool) : GoesOn refused prompt other := by
  cases refused with
  | true => exact ⟨consistent, alike.begins consistent closed⟩
  | false => exact ⟨consistent, alike⟩

def Keeps (calls : Nat) (prompt other : Prompt) (lines : List String) (kept : List Exchange) :
    Prop :=
  other.exchanges calls (kept.map Exchange.line) = kept ∧
    (other.feedAll calls (kept.map Exchange.line)).1.session.scope =
      (prompt.feedAll calls lines).1.session.scope

theorem Keeps.cons {lines : List String} {kept : List Exchange} (alike : Alike prompt other)
    (keeps : Keeps calls (prompt.feed calls line).1 (other.feed calls line).1 lines kept) :
    Keeps calls prompt other (line :: lines) (prompt.exchange calls line :: kept) := by
  obtain ⟨same, scope⟩ := keeps
  refine ⟨?_, scope⟩
  rw [← alike.exchange calls line]
  exact congrArg (other.exchange calls line :: ·) same

def KeepsAccepted (calls : Nat) (prompt : Prompt) (lines : List String) : Prop :=
  ∀ other, GoesOn (isRefused ((entries (prompt.exchanges calls lines)).headD [])) prompt other →
    Keeps calls prompt other lines (accepted (prompt.exchanges calls lines))

theorem keepsAccepted_closed {lines : List String} (next : (prompt.feed calls line).1.Consistent)
    (closed : (prompt.feed calls line).1.pending = [])
    (keeps : KeepsAccepted calls (prompt.feed calls line).1 lines) :
    KeepsAccepted calls prompt (line :: lines) := by
  have closes : (prompt.exchange calls line).closed = true := List.isEmpty_iff.2 closed
  rintro other ⟨consistent, stands⟩
  rw [exchanges] at stands ⊢
  rw [isRefused_headD_closed closes] at stands
  rw [accepted_closed closes]
  cases refusal : (prompt.exchange calls line).isRefusal with
  | true =>
      -- what has been left out ends here, where the variables are those of its beginning
      rw [refusal] at stands
      have begins : Begins (prompt.feed calls line).1 other :=
        ⟨consistent, stands.closed, (scope_feed_of_refusal refusal).trans stands.scope⟩
      exact keeps other ((begins.alike next closed).goesOn consistent closed _)
  | false =>
      rw [refusal] at stands
      have alike := (stands.feed calls line).2
      exact .cons stands (keeps _ (alike.goesOn (consistent.feed calls line) closed _))

theorem keepsAccepted_open {lines : List String} (opened : (prompt.feed calls line).1.pending ≠ [])
    (keeps : KeepsAccepted calls (prompt.feed calls line).1 lines) :
    KeepsAccepted calls prompt (line :: lines) := by
  have opens : (prompt.exchange calls line).closed = false := by simpa [exchange] using opened
  obtain ⟨session, silence⟩ := feed_of_open opened
  have fine : (prompt.exchange calls line).isRefusal = false := by
    simp only [Exchange.isRefusal, exchange, silence]
    rfl
  rintro other ⟨consistent, stands⟩
  rw [exchanges] at stands ⊢
  rw [isRefused_headD_open opens fine] at stands
  rw [accepted_open opens fine]
  unfold KeepsAccepted at keeps
  cases refused :
    isRefused ((entries ((prompt.feed calls line).1.exchanges calls lines)).headD []) with
  | true =>
      rw [refused] at stands keeps
      exact keeps other ⟨consistent, consistent, stands.closed, session ▸ stands.scope⟩
  | false =>
      rw [refused] at stands keeps
      exact .cons stands (keeps _ ⟨consistent.feed calls line, (stands.feed calls line).2⟩)

theorem keepsAccepted (consistent : prompt.Consistent) (calls : Nat) (lines : List String) :
    KeepsAccepted calls prompt lines := by
  induction lines generalizing prompt with
  | nil => exact fun other goesOn => ⟨rfl, goesOn.2.scope.symm⟩
  | cons line lines ih =>
      have next := consistent.feed calls line
      by_cases closed : (prompt.feed calls line).1.pending = []
      · exact keepsAccepted_closed next closed (ih next)
      · exact keepsAccepted_open closed (ih next)

/-- An entry in which a mistake is reported leaves no trace.  Without the lines of all such entries
every other line passes as it did, with the same outputs, reports and marks, and all variables are
bound as they were. -/
theorem feedAll_without_refused (calls : Nat) (lines : List String) :
    let passed := initial.exchanges calls lines
    let kept := accepted passed
    (entries passed).flatten = passed ∧
      (∀ entry ∈ entries passed, ∀ exchange ∈ entry.dropLast, exchange.closed = false) ∧
      (∀ entry ∈ (entries passed).dropLast, ∃ exchange ∈ entry.getLast?,
        exchange.closed = true) ∧
      initial.exchanges calls (kept.map Exchange.line) = kept ∧
      (initial.feedAll calls (kept.map Exchange.line)).1.session.scope =
        (initial.feedAll calls lines).1.session.scope := by
  have alike : Alike initial initial := ⟨rfl, rfl, rfl, rfl, rfl⟩
  exact ⟨flatten_entries _, open_of_mem_dropLast _, closed_of_mem_dropLast _,
    keepsAccepted consistent_initial _ _ _ (alike.goesOn consistent_initial rfl _)⟩

example :
    (accepted (initial.exchanges 998
      ["literally x itu 1", "kalo ril", "x itu 2", "EOF", ")", "udahan", "spill x"])).map
        Exchange.line = ["literally x itu 1", "spill x"] := by
  decide +kernel

end BilingualScript.Prompt
