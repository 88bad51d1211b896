import BilingualScript.Prompt
import BilingualScript.Proofs.Reading.Balance
import BilingualScript.Proofs.Session.Running
import BilingualScript.Proofs.Token.Break

/-!
# Feeding lines

What a prompt can do with a line, and what stays true of it whatever lines it is given.
-/

namespace BilingualScript

/-! ## Texts of several lines -/

def joined (lines : List String) : String := "\n".intercalate lines

theorem toList_joined (lines : List String) :
    (joined lines).toList = Text.unlines (lines.map String.toList) := by
  simp [joined, Text.unlines, String.toList_intercalate]

theorem toList_joined_append {front behind : List String} (nonempty : front ≠ [])
    (nonempty' : behind ≠ []) :
    (joined (front ++ behind)).toList =
      (joined front).toList ++ '\n' :: (joined behind).toList := by
  rw [toList_joined, toList_joined, toList_joined, List.map_append]
  unfold Text.unlines
  induction front with
  | nil => exact absurd rfl nonempty
  | cons line front ih =>
      cases front with
      | nil =>
          obtain ⟨_, _, rfl⟩ := List.exists_cons_of_ne_nil nonempty'
          simp
      | cons next front =>
          have := ih (List.cons_ne_nil _ _)
          simp only [List.map_cons, List.cons_append, List.intercalate_cons_cons] at this ⊢
          rw [this]
          simp

theorem joined_singleton (line : String) : joined [line] = line := by simp [joined]

def linesOf (text : String) : List String := (Text.lines text.toList).map String.ofList

theorem joined_linesOf (text : String) : joined (linesOf text) = text := by
  rw [← String.toList_inj, toList_joined, linesOf, List.map_map]
  have same : String.toList ∘ String.ofList = id := by
    funext text
    exact String.toList_ofList
  rw [same, List.map_id, Text.unlines_lines]

theorem linesOf_of_oneLine {text : String} (oneLine : '\n' ∉ text.toList) :
    linesOf text = [text] := by
  rw [linesOf, Text.lines, List.splitOn_eq_singleton oneLine, List.map_singleton,
    String.ofList_toList]

theorem needsContinuation_iff (text : String) :
    needsContinuation text = true ↔ 0 < surplus (tokensOf text) := by
  simp only [needsContinuation, tokensOf, surplus, decide_eq_true_eq]
  omega

theorem needsContinuation_of_flat {text : String}
    (flat : ∀ token ∈ tokensOf text, token.kind ≠ .kalo) : needsContinuation text = false := by
  have none : ((tokensOf text).map Token.kind).count .kalo = 0 := by
    refine List.count_eq_zero.2 fun mem => ?_
    obtain ⟨token, mem, kind⟩ := List.mem_map.1 mem
    exact flat token mem kind
  exact decide_eq_false (none ▸ Nat.not_lt_zero _)

theorem surplus_moved (lines : Int) (tokens : List Token) :
    surplus (tokens.map (Token.moved lines)) = surplus tokens := by
  have same : Token.kind ∘ Token.moved lines = Token.kind := rfl
  rw [surplus, List.map_map, same, surplus]

namespace Prompt

theorem needsContinuation_blank {lines : List String} (nonempty : lines ≠ []) :
    needsContinuation (joined (lines ++ [""])) = needsContinuation (joined lines) := by
  rw [Bool.eq_iff_iff, needsContinuation_iff, needsContinuation_iff]
  have text := toList_joined_append nonempty (List.cons_ne_nil "" [])
  have blank : (joined [""]).toList = [] := rfl
  rw [blank] at text
  unfold tokensOf Lexed.ofText
  rw [text]
  rcases Lexed.ofChars_break (joined lines).toList [] with parts | ⟨_, after, items, none, _⟩
  · rw [parts.1, surplus_append, surplus_cons, surplus_moved]
    have zero : surplus (Lexed.ofChars []).tokens.items = 0 := rfl
    rw [zero, surplus_of_other (by simp) (by simp), Int.add_zero, Int.add_zero]
  · rw [items, none rfl, List.append_nil]

/-! ## Single lines -/

def commandOf (line : String) : String := String.ofList (Text.trim line.toList)

/-- A line that belongs to the program: it is not empty, does not end the input and, between
entries, is no command. -/
def Enters (prompt : Prompt) (line : String) : Prop :=
  line ≠ "" ∧ line ≠ endLine ∧ (prompt.pending = [] → commandOf line ∉ ["help", "exit"])

def textWith (prompt : Prompt) (line : String) : String := joined (prompt.pending ++ [line])

variable {prompt : Prompt} {calls : Nat} {line : String}

theorem feed_blank (prompt : Prompt) (calls : Nat) :
    prompt.feed calls "" =
      ({ prompt with pending := if prompt.pending.isEmpty then [] else prompt.pending ++ [""] },
        ⟨some false, "", silent⟩) := rfl

theorem feed_of_enters (enters : prompt.Enters line) :
    prompt.feed calls line = prompt.enter (calls - 1) line := by
  obtain ⟨nonempty, noEnd, noCommand⟩ := enters
  have noHelp : ¬(prompt.pending.isEmpty = true ∧ commandOf line = "help") := by
    rintro ⟨between, help⟩
    exact noCommand (List.isEmpty_iff.1 between) (by simp [help])
  have noExit : ¬(prompt.pending.isEmpty = true ∧ commandOf line = "exit") := by
    rintro ⟨between, exits⟩
    exact noCommand (List.isEmpty_iff.1 between) (by simp [exits])
  rw [feed]
  exact (if_neg nonempty).trans ((if_neg noEnd).trans ((if_neg noHelp).trans (if_neg noExit)))

theorem enter_of_open (opens : needsContinuation (prompt.textWith line) = true) :
    prompt.enter calls line =
      ({ prompt with pending := prompt.pending ++ [line], mark := waitingMark },
        ⟨none, "", silent⟩) := by
  rw [enter]
  exact if_pos opens

theorem enter_of_complete (complete : needsContinuation (prompt.textWith line) = false) :
    prompt.enter calls line =
      (⟨(prompt.session.run (calls - 1) (prompt.textWith line)).1.reset, [], entryMark⟩,
        ⟨none, "", (prompt.session.run (calls - 1) (prompt.textWith line)).2⟩) := by
  rw [enter]
  exact if_neg (Bool.eq_false_iff.1 complete)

inductive Fed (prompt : Prompt) (calls : Nat) (line : String) : Prompt × Reply → Prop
  | apart {stop printed} : ¬prompt.Enters line → prompt.pending = [] ∨ line = endLine →
      Fed prompt calls line (prompt, ⟨stop, printed, silent⟩)
  | blank : ¬prompt.Enters line → prompt.pending ≠ [] → line = "" →
      Fed prompt calls line
        ({ prompt with pending := prompt.pending ++ [line] }, ⟨some false, "", silent⟩)
  | wait : prompt.Enters line → needsContinuation (prompt.textWith line) = true →
      Fed prompt calls line
        ({ prompt with pending := prompt.pending ++ [line], mark := waitingMark },
          ⟨none, "", silent⟩)
  | run : prompt.Enters line → needsContinuation (prompt.textWith line) = false →
      Fed prompt calls line
        (⟨(prompt.session.run (calls - 2) (prompt.textWith line)).1.reset, [], entryMark⟩,
          ⟨none, "", (prompt.session.run (calls - 2) (prompt.textWith line)).2⟩)

theorem feed_command (between : prompt.pending = []) (command : commandOf line ∈ ["help", "exit"])
    (nonempty : line ≠ "") (noEnd : line ≠ endLine) :
    ∃ stop printed, prompt.feed calls line = (prompt, ⟨stop, printed, silent⟩) := by
  have isEmpty : prompt.pending.isEmpty = true := List.isEmpty_iff.2 between
  rw [feed]
  by_cases help : commandOf line = "help"
  · exact ⟨none, helpText, (if_neg nonempty).trans ((if_neg noEnd).trans (if_pos ⟨isEmpty, help⟩))⟩
  · have exits : commandOf line = "exit" := by simpa [help] using command
    exact ⟨some true, "", (if_neg nonempty).trans ((if_neg noEnd).trans
      ((if_neg fun both => help both.2).trans (if_pos ⟨isEmpty, exits⟩)))⟩

theorem fed (prompt : Prompt) (calls : Nat) (line : String) :
    Fed prompt calls line (prompt.feed calls line) := by
  by_cases enters : prompt.Enters line
  · rw [feed_of_enters enters]
    cases opens : needsContinuation (prompt.textWith line) with
    | true =>
        rw [enter_of_open opens]
        exact .wait enters opens
    | false =>
        rw [enter_of_complete opens]
        exact .run enters opens
  by_cases blank : line = ""
  · subst blank
    rw [feed_blank]
    by_cases between : prompt.pending = []
    · have same : { prompt with pending := [] } = prompt := by rw [← between]
      simp only [between, List.isEmpty_nil, if_true, same]
      exact .apart enters (.inl between)
    · rw [if_neg (by simpa using between)]
      exact .blank enters between rfl
  by_cases stop : line = endLine
  · subst stop
    exact .apart enters (.inr rfl)
  · have command : ¬(prompt.pending = [] → commandOf line ∉ ["help", "exit"]) :=
      fun noCommand => enters ⟨blank, stop, noCommand⟩
    rw [Classical.not_imp, Classical.not_not] at command
    obtain ⟨_, _, same⟩ := feed_command command.1 command.2 blank stop
    rw [same]
    exact .apart enters (.inl command.1)

theorem pending_feed (prompt : Prompt) (calls : Nat) (line : String) :
    (prompt.feed calls line).1.pending = [] ∨
      (prompt.feed calls line).1.pending = prompt.pending ++ [line].filter (· ≠ endLine) := by
  have fed := prompt.fed calls line
  generalize prompt.feed calls line = result at fed ⊢
  cases fed with
  | apart _ which =>
      rcases which with between | rfl
      · exact .inl between
      · exact .inr (by simp)
  | blank _ _ blank =>
      subst blank
      exact .inr rfl
  | wait enters => exact .inr (by simp [enters.2.1])
  | run => exact .inl rfl

theorem feed_idle_or_complete (prompt : Prompt) (calls : Nat) (line : String) :
    (prompt.feed calls line).1.session = prompt.session ∧
        (prompt.feed calls line).2.transcript = silent ∨
      prompt.Enters line ∧ needsContinuation (prompt.textWith line) = false := by
  have fed := prompt.fed calls line
  generalize prompt.feed calls line = result at fed ⊢
  cases fed with
  | apart | blank | wait => exact .inl ⟨rfl, rfl⟩
  | run enters complete => exact .inr ⟨enters, complete⟩

theorem feed_of_complete (enters : prompt.Enters line)
    (complete : needsContinuation (prompt.textWith line) = false) :
    prompt.feed calls line =
      (⟨(prompt.session.run (calls - 2) (prompt.textWith line)).1.reset, [], entryMark⟩,
        ⟨none, "", (prompt.session.run (calls - 2) (prompt.textWith line)).2⟩) :=
  (feed_of_enters enters).trans (enter_of_complete complete)

theorem feed_alone (between : prompt.pending = []) (enters : prompt.Enters line)
    (complete : needsContinuation line = false) :
    (prompt.feed calls line).2.transcript = (prompt.session.run (calls - 2) line).2 := by
  have alone : prompt.textWith line = line := by
    rw [textWith, between, List.nil_append, joined_singleton]
  rw [feed_of_complete enters (alone.symm ▸ complete), alone]

/-! ## All lines -/

def feedAll (prompt : Prompt) (calls : Nat) : List String → Prompt × List Reply
  | [] => (prompt, [])
  | line :: rest =>
    let (next, reply) := prompt.feed calls line
    let (last, replies) := feedAll next calls rest
    (last, reply :: replies)

theorem feedAll_singleton (prompt : Prompt) (calls : Nat) (line : String) :
    prompt.feedAll calls [line] =
      ((prompt.feed calls line).1, [(prompt.feed calls line).2]) := rfl

theorem feedAll_append (prompt : Prompt) (calls : Nat) (front behind : List String) :
    (prompt.feedAll calls (front ++ behind)).1 =
      ((prompt.feedAll calls front).1.feedAll calls behind).1 := by
  induction front generalizing prompt with
  | nil => rfl
  | cons line front ih => exact ih (prompt.feed calls line).1

/-! ## What stays true -/

/-- No mistake is noted, no block is left open in the variables, and the mark and the lines kept
both tell whether an if statement is open. -/
structure Consistent (prompt : Prompt) : Prop where
  unnoted : prompt.session.diagnostics.hadError = false
  unfailed : prompt.session.diagnostics.hadRuntimeError = false
  outermost : prompt.session.scope.level = 0
  mark : prompt.mark = if prompt.pending = [] then entryMark else waitingMark
  opened : prompt.pending ≠ [] → needsContinuation (joined prompt.pending) = true

theorem consistent_initial : initial.Consistent :=
  ⟨rfl, rfl, rfl, rfl, fun opened => absurd rfl opened⟩

theorem Consistent.feed (consistent : prompt.Consistent) (calls : Nat) (line : String) :
    (prompt.feed calls line).1.Consistent := by
  have fed := prompt.fed calls line
  generalize prompt.feed calls line = result at fed ⊢
  obtain ⟨unnoted, unfailed, outermost, mark, opened⟩ := consistent
  cases fed with
  | apart => exact ⟨unnoted, unfailed, outermost, mark, opened⟩
  | blank _ open_before blank =>
      subst blank
      refine ⟨unnoted, unfailed, outermost, ?_, fun _ => ?_⟩
      · simpa [open_before] using mark
      · exact (needsContinuation_blank open_before).trans (opened open_before)
  | wait _ opens => exact ⟨unnoted, unfailed, outermost, by simp, fun _ => opens⟩
  | run =>
      refine ⟨rfl, rfl, ?_, rfl, fun opened => absurd rfl opened⟩
      exact (prompt.session.run_level _ _).trans outermost

theorem Consistent.feedAll (consistent : prompt.Consistent) (calls : Nat) (lines : List String) :
    (prompt.feedAll calls lines).1.Consistent := by
  induction lines generalizing prompt with
  | nil => exact consistent
  | cons line rest ih => exact ih (consistent.feed calls line)

end Prompt

end BilingualScript
