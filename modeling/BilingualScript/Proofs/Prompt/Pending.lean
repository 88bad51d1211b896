import Mathlib.Data.List.Induction
import BilingualScript.Proofs.Prompt.Feeding

/-!
# Open entries

The lines that a prompt keeps are those of the entry that is open, and an entry is run with all of
its lines.
-/

namespace BilingualScript.Prompt

/-- The entry that the first of the lines begins is open behind each of them. -/
def StaysOpen (prompt : Prompt) (calls : Nat) (lines : List String) : Prop :=
  ∀ front, front <+: lines → front ≠ [] → (prompt.feedAll calls front).1.pending ≠ []

theorem staysOpen_nil (prompt : Prompt) (calls : Nat) : prompt.StaysOpen calls [] :=
  fun _ first nonempty => absurd (List.prefix_nil.1 first) nonempty

theorem StaysOpen.concat {prompt : Prompt} {calls : Nat} {lines : List String}
    (stays : prompt.StaysOpen calls lines) {line : String}
    (opened : (prompt.feedAll calls (lines ++ [line])).1.pending ≠ []) :
    prompt.StaysOpen calls (lines ++ [line]) := by
  intro front first nonempty
  rcases List.prefix_concat_iff.1 first with rfl | first
  · exact opened
  · exact stays front first nonempty

/-- What is kept are the lines since the last time that no entry was open. -/
theorem pending_feedAll (prompt : Prompt) (between : prompt.pending = []) (calls : Nat)
    (lines : List String) :
    ∃ earlier entry, lines = earlier ++ entry ∧ (prompt.feedAll calls earlier).1.pending = [] ∧
      (prompt.feedAll calls earlier).1.StaysOpen calls entry ∧
      (prompt.feedAll calls lines).1.pending = entry.filter (· ≠ endLine) := by
  induction lines using List.reverseRecOn with
  | nil => exact ⟨[], [], rfl, between, staysOpen_nil _ _, between⟩
  | append_singleton lines line ih =>
      obtain ⟨earlier, entry, rfl, closed, stays, pending⟩ := ih
      by_cases closes : (prompt.feedAll calls (earlier ++ entry ++ [line])).1.pending = []
      · exact ⟨_, [], (List.append_nil _).symm, closes, staysOpen_nil _ _, closes⟩
      have last : (prompt.feedAll calls (earlier ++ entry ++ [line])).1 =
          ((prompt.feedAll calls (earlier ++ entry)).1.feed calls line).1 :=
        prompt.feedAll_append calls _ [line]
      refine ⟨earlier, entry ++ [line], List.append_assoc _ _ _, closed, stays.concat ?_, ?_⟩
      · rwa [← feedAll_append, ← List.append_assoc]
      · rw [last] at closes ⊢
        have fed := (prompt.feedAll calls (earlier ++ entry)).1.pending_feed calls line
        rw [fed.resolve_left closes, pending, List.filter_append]

/-- Whatever lines a fresh prompt has been given: no mistake is noted, no block is left open in the
variables, and it keeps lines, shows the other mark and has an if statement open at the same time.
It keeps the lines since the first of the entry, ends of the input apart, and a line that completes
the entry runs just those lines with itself. -/
theorem feedAll_keeps_entry (calls : Nat) (lines : List String) :
    let prompt := (initial.feedAll calls lines).1
    prompt.session.diagnostics.hadError = false ∧
      prompt.session.diagnostics.hadRuntimeError = false ∧
      (∃ frame, prompt.session.scope = .global frame) ∧
      (prompt.mark = ". " ↔ prompt.pending ≠ []) ∧
      (needsContinuation (joined prompt.pending) = true ↔ prompt.pending ≠ []) ∧
      ∃ earlier entry, lines = earlier ++ entry ∧
        (initial.feedAll calls earlier).1.pending = [] ∧
        (initial.feedAll calls earlier).1.StaysOpen calls entry ∧
        prompt.pending = entry.filter (· ≠ endLine) ∧
        ∀ line,
          let text := joined (entry.filter (· ≠ endLine) ++ [line])
          (prompt.Enters line → needsContinuation text = false →
            prompt.feed calls line =
              (⟨(prompt.session.run (calls - 2) text).1.reset, [], "> "⟩,
                ⟨none, "", (prompt.session.run (calls - 2) text).2⟩)) ∧
          (¬(prompt.Enters line ∧ needsContinuation text = false) →
            (prompt.feed calls line).1.session = prompt.session ∧
              (prompt.feed calls line).2.transcript = silent) := by
  intro prompt
  have consistent : prompt.Consistent := consistent_initial.feedAll calls lines
  obtain ⟨earlier, entry, parts, closed, stays, pending⟩ := pending_feedAll initial rfl calls lines
  refine ⟨consistent.unnoted, consistent.unfailed,
    Scope.exists_global_of_level consistent.outermost, ?_, ?_, earlier, entry, parts, closed, stays,
    pending, fun line => ?_⟩
  · rw [consistent.mark]
    split
    · next between => simp [between, entryMark]
    · next opened => simp [opened, waitingMark]
  · refine ⟨fun opens between => ?_, consistent.opened⟩
    rw [between] at opens
    exact absurd opens (by decide +kernel)
  · rw [← pending]
    exact ⟨feed_of_complete, (prompt.feed_idle_or_complete calls line).resolve_right⟩

theorem feedAll_keeps_entry_of_kalo :
    let prompt := (initial.feedAll 998 ["spill 1", "kalo ril", "", "EOF", "help"]).1
    let text := "kalo ril\n\nhelp\nudahan"
    prompt.pending = ["kalo ril", "", "help"] ∧ prompt.Enters "udahan" ∧
      needsContinuation text = false ∧
      prompt.feed 998 "udahan" =
        (⟨(prompt.session.run 996 text).1.reset, [], "> "⟩,
          ⟨none, "", (prompt.session.run 996 text).2⟩) := by
  intro prompt text
  obtain ⟨_, _, _, _, _, earlier, entry, _, _, _, pending, runs⟩ :=
    feedAll_keeps_entry 998 ["spill 1", "kalo ril", "", "EOF", "help"]
  have kept : prompt.pending = ["kalo ril", "", "help"] := by decide +kernel
  have enters : prompt.Enters "udahan" :=
    ⟨by decide, by decide, fun between => absurd (kept.symm.trans between) (by simp)⟩
  have complete : needsContinuation text = false := by decide +kernel
  refine ⟨kept, enters, complete, ?_⟩
  have same := (runs "udahan").1
  rw [← pending] at same
  rw [show (initial.feedAll 998 ["spill 1", "kalo ril", "", "EOF", "help"]).1.pending = _ from kept]
    at same
  exact same enters complete

end BilingualScript.Prompt
