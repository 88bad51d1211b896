import BilingualScript.Proofs.Reading.Abruptness
import BilingualScript.Proofs.Reading.FirstFault

/-!
# How reading advances

A fault at which a statement is given up is met farther on than those before it.  At the end of the
tokens alone there may be several, at most one for each if statement and one more.
-/

namespace BilingualScript

namespace Reader

variable {α β : Type} {tokens rest : List Token}

/-! ## Readers that advance -/

theorem length_lt_of_suffix {length : Nat} (suffix : rest <:+ tokens)
    (short : tokens.length < length) : rest.length < length :=
  Nat.lt_of_le_of_lt suffix.length_le short

/-- No token at which a fault was met is left, except that the end of the tokens stays. -/
def Passed (rest : List Token) (fault : SyntaxFault) : Prop :=
  rest.length < fault.rest.length ∨ rest = [] ∧ fault.rest = []

theorem Passed.mono {fault : SyntaxFault} {left : List Token} (passed : Passed rest fault)
    (suffix : left <:+ rest) : Passed left fault := by
  rcases passed with less | ⟨rfl, atEnd⟩
  · exact .inl (length_lt_of_suffix suffix less)
  · exact .inr ⟨List.suffix_nil.1 suffix, atEnd⟩

/-- No token at which a fault was met will be at fault again: it has been passed, or it is a
newline, which is skipped next. -/
def Overcome (rest : List Token) (fault : SyntaxFault) : Prop :=
  Passed rest fault ∨ ∃ newline behind, newline.kind = .newline ∧ rest = newline :: behind ∧
    fault.rest = newline :: behind

def kalos (tokens : List Token) : Nat := tokens.countP (·.kind == .kalo)

theorem kalos_le (suffix : rest <:+ tokens) : kalos rest ≤ kalos tokens :=
  suffix.sublist.countP_le

/-- A reader meets the faults that end statements one behind the other, and passes all of them but
one at which it fails.  It does not meet many at the end. -/
structure AdvancesAt (allowed : Nat) (reader : Reader α) (tokens : List Token) : Prop where
  ordered : (decisive (reader.run tokens).faults).Pairwise fun fault later =>
    Passed later.rest fault
  passed : ∀ fault ∈ decisive (reader.run tokens).faults, Passed (reader.run tokens).rest fault ∨
    (reader.run tokens).found = none ∧ fault.rest = (reader.run tokens).rest
  atEnd : faultsAtEnd (reader.run tokens).faults ≤ kalos tokens + allowed

section AdvancesAt

variable {reader other : Reader α} {allowed : Nat}

theorem FailsAtOnce.faultsAtEnd_le (once : FailsAtOnce reader) (tokens : List Token) :
    faultsAtEnd (reader.run tokens).faults ≤ 1 := by
  have once := once tokens
  unfold faultsAtEnd
  split at once
  · rw [once]
    exact Nat.zero_le 1
  · obtain ⟨cause, once⟩ := once
    rw [once]
    exact List.countP_le_length

theorem FailsAtOnce.advancesAt (once : FailsAtOnce reader) (pos : 0 < allowed)
    (tokens : List Token) : AdvancesAt allowed reader tokens where
  ordered := by
    have once := once tokens
    split at once
    · simp [once]
    · obtain ⟨cause, once⟩ := once
      simp [once]
  passed fault mem := by
    have once := once tokens
    split at once
    · simp [once] at mem
    · next failed =>
      obtain ⟨cause, once⟩ := once
      rw [once, List.mem_singleton] at mem
      exact .inr ⟨failed, by rw [mem]⟩
  atEnd := Nat.le_trans (once.faultsAtEnd_le tokens) (by omega)

theorem advancesAt_of_silent (silent : (reader.run tokens).faults = []) :
    AdvancesAt allowed reader tokens := by
  constructor <;> simp [silent]

theorem AdvancesAt.of_run {fewer : List Token} {budget : Nat}
    (advances : AdvancesAt budget other fewer) (run : reader.run tokens = other.run fewer)
    (le : kalos fewer + budget ≤ kalos tokens + allowed) : AdvancesAt allowed reader tokens := by
  obtain ⟨ordered, passed, atEnd⟩ := advances
  rw [← run] at ordered passed atEnd
  exact ⟨ordered, passed, Nat.le_trans atEnd le⟩

theorem pairwise_passed_append {faults later : List SyntaxFault}
    (ordered : (decisive faults).Pairwise fun fault later => Passed later.rest fault)
    (ordered' : (decisive later).Pairwise fun fault later => Passed later.rest fault)
    (passed : ∀ fault ∈ decisive faults, ∀ other ∈ later, Passed other.rest fault) :
    (decisive (faults ++ later)).Pairwise fun fault later => Passed later.rest fault := by
  rw [decisive_append, List.pairwise_append]
  exact ⟨ordered, ordered', fun fault mem other mem' =>
    passed fault mem other (List.mem_filter.1 mem').1⟩

theorem AdvancesAt.bind_of_failed {faults : List SyntaxFault}
    (advances : AdvancesAt allowed reader tokens)
    (failed : reader.run tokens = ⟨none, rest, faults⟩) (next : α → Reader β) :
    AdvancesAt allowed (reader >>= next) tokens := by
  obtain ⟨ordered, passed, atEnd⟩ := advances
  rw [failed] at ordered passed atEnd
  constructor
  · rwa [run_bind_of_failed failed]
  · simpa [run_bind_of_failed failed] using passed
  · rwa [run_bind_of_failed failed]

theorem FailsAtOnce.bind_advancesAt {next : α → Reader β} (first : FailsAtOnce reader)
    (orderly : Orderly reader) (pos : 0 < allowed)
    (second : ∀ value middle, middle <:+ tokens → AdvancesAt allowed (next value) middle) :
    AdvancesAt allowed (reader >>= next) tokens := by
  have once := first tokens
  have suffix := orderly.suffix tokens
  rcases reading : reader.run tokens with ⟨_ | value, middle, faults⟩
  · exact (first.advancesAt pos tokens).bind_of_failed reading next
  · rw [reading] at once suffix
    obtain ⟨ordered, passed, atEnd⟩ := second value middle suffix
    have silent : decisive faults = [] := once
    have run := run_bind_of_found reading next
    constructor
    · simpa [run, silent] using ordered
    · simpa [run, silent] using passed
    · rw [run, faultsAtEnd_append, faultsAtEnd, silent, List.countP_nil, Nat.zero_add]
      exact Nat.le_trans atEnd (Nat.add_le_add_right (kalos_le suffix) allowed)

theorem faultsAtEnd_eq_zero {faults : List SyntaxFault}
    (overcome : ∀ fault ∈ decisive faults, Overcome rest fault) (nonempty : rest ≠ []) :
    faultsAtEnd faults = 0 := by
  refine List.countP_eq_zero.2 fun fault mem atEnd => ?_
  rw [List.isEmpty_iff] at atEnd
  rcases overcome fault mem with (less | ⟨none, _⟩) | ⟨_, _, _, _, more⟩
  · rw [atEnd] at less
    exact Nat.not_lt_zero _ less
  · exact nonempty none
  · rw [atEnd] at more
    cases more

/-- A reader that goes on behind another one adds to its faults at the end only if that one has
reached the end itself, and then only so many. -/
theorem AdvancesAt.bind {next : α → Reader β} (first : AdvancesAt allowed reader tokens)
    (more : Nat) (orderly : Orderly reader) (placed : ∀ value, Placed (next value))
    (second : ∀ value middle, middle <:+ tokens → AdvancesAt (allowed + more) (next value) middle)
    (closing : ∀ value, faultsAtEnd ((next value).run []).faults ≤ more) :
    AdvancesAt (allowed + more) (reader >>= next) tokens := by
  have suffix := orderly.suffix tokens
  rcases reading : reader.run tokens with ⟨_ | value, middle, faults⟩
  · exact (first.of_run rfl (by omega)).bind_of_failed reading next
  · obtain ⟨ordered, passed, atEnd⟩ := first
    rw [reading] at ordered passed atEnd suffix
    obtain ⟨ordered', passed', atEnd'⟩ := second value middle suffix
    have passed (fault) (mem : fault ∈ decisive faults) : Passed middle fault :=
      (passed fault mem).resolve_right nofun
    have run := run_bind_of_found reading next
    constructor
    · rw [run]
      exact pairwise_passed_append ordered ordered' fun fault mem other mem' =>
        (passed fault mem).mono ((placed value).placed middle other mem')
    · rw [run, decisive_append]
      refine List.forall_mem_append.2 ⟨fun fault mem => .inl ?_, passed'⟩
      exact (passed fault mem).mono ((placed value).suffix middle)
    · rw [run, faultsAtEnd_append]
      -- faults of both at the end would mean that the first one has left nothing
      by_cases reached : middle = []
      · have closing := closing value
        rw [← reached] at closing
        simp only at atEnd
        omega
      · rw [faultsAtEnd_eq_zero (fun fault mem => .inl (passed fault mem)) reached, Nat.zero_add]
        exact Nat.le_trans atEnd' (Nat.add_le_add_right (kalos_le suffix) _)

theorem AdvancesAt.map (advances : AdvancesAt allowed reader tokens) (orderly : Orderly reader)
    (f : α → β) : AdvancesAt allowed (reader >>= fun value => pure (f value)) tokens :=
  advances.bind 0 orderly (fun _ => placed_pure _)
    (fun _ _ _ => advancesAt_of_silent rfl) fun _ => Nat.le_refl 0

end AdvancesAt

theorem advancesAt_accept?_bind {wanted : Kind → Bool} {next : Option Token → Reader α}
    {token : Token} {allowed : Nat} (none : AdvancesAt allowed (next none) (token :: rest))
    (some : AdvancesAt (allowed + kalos [token]) (next (some token)) rest) :
    AdvancesAt allowed (accept? wanted >>= next) (token :: rest) := by
  have run := run_accept?_bind_cons wanted next token rest
  have counts : kalos ([token] ++ rest) = kalos [token] + kalos rest := List.countP_append
  rw [List.singleton_append] at counts
  split at run
  · exact some.of_run run (by omega)
  · exact none.of_run run (Nat.le_refl _)

/-! ## If statements -/

def closing (stmt : Stmt) : Reader Stmt := do
  let _ ← expect .udahan .expectUdahan
  expectEnd .expectEndOfKalo
  pure stmt

theorem failsAtOnce_closing (stmt : Stmt) : FailsAtOnce (closing stmt) :=
  (compositional_failsAtOnce.expect (by decide) _).bind fun _ =>
    (compositional_failsAtOnce.expectEnd (by decide)).bind fun _ => failsAtOnce_pure _

theorem placed_closing (stmt : Stmt) : Placed (closing stmt) :=
  (hereditary_placed.expect (by decide) _).bind fun _ =>
    (hereditary_placed.expectEnd (by decide)).bind fun _ => placed_pure _

section Blocks

variable {block : Reader (List Stmt)} {length : Nat}
  (inside : ∀ inner : List Token, inner.length < length → AdvancesAt 1 block inner)
  (placed : Placed block)

theorem run_otherwise_nil (room count : Nat) :
    (otherwise room block count).run [] = ⟨some .nothing, [], []⟩ := by
  cases count <;> rfl

include inside placed

theorem advancesAt_otherwise (room count : Nat) (short : tokens.length < length) :
    AdvancesAt 1 (otherwise room block count) tokens := by
  induction count generalizing tokens with
  | zero => exact advancesAt_of_silent rfl
  | succ count ih =>
      refine (failsAtOnce_accept? _).bind_advancesAt (orderly_accept? _) Nat.one_pos
        fun found behind suffix => ?_
      have short := length_lt_of_suffix suffix short
      cases found with
      | none => exact advancesAt_of_silent rfl
      | some token =>
          dsimp only
          split
          · refine (failsAtOnce_expression room).bind_advancesAt (orderly_expression room)
              Nat.one_pos fun condition behind suffix => ?_
            have short := length_lt_of_suffix suffix short
            refine (inside behind short).bind 0 placed.toOrderly (fun body => ?_)
              (fun body behind suffix => ?_) fun body => ?_
            · exact (hereditary_placed.otherwise placed_expression placed room count).bind
                fun _ => placed_pure _
            · have short := length_lt_of_suffix suffix short
              exact (ih short).map (orderly_otherwise placed.toOrderly room count) _
            · simp [run_bind, run_otherwise_nil]
          · exact (inside behind short).map placed.toOrderly _

theorem advancesAt_kalo (room count : Nat) (short : tokens.length < length) :
    AdvancesAt 2 (kalo room block count) tokens := by
  have placedOthers := hereditary_placed.otherwise placed_expression placed room count
  refine (failsAtOnce_expression room).bind_advancesAt (orderly_expression room) Nat.two_pos
    fun condition behind suffix => ?_
  have short := length_lt_of_suffix suffix short
  refine (inside behind short).bind 1 placed.toOrderly
    (fun _ => placedOthers.bind fun _ => placed_closing _) (fun body behind suffix => ?_)
    fun body => ?_
  · have short := length_lt_of_suffix suffix short
    refine (advancesAt_otherwise inside placed room count short).bind 1
      placedOthers.toOrderly (fun _ => placed_closing _) (fun others behind _ => ?_)
      fun others => ?_
    · exact (failsAtOnce_closing (.kalo condition body others)).advancesAt Nat.two_pos behind
    · exact (failsAtOnce_closing (.kalo condition body others)).faultsAtEnd_le []
  · rw [run_bind_of_found (run_otherwise_nil room count), faultsAtEnd_append, faultsAtEnd_nil,
      Nat.zero_add]
    exact (failsAtOnce_closing (.kalo condition body .nothing)).faultsAtEnd_le []

theorem advancesAt_statement (room count : Nat) (token : Token) (short : rest.length < length) :
    AdvancesAt 1 (statement room block count) (token :: rest) := by
  refine advancesAt_accept?_bind ?_ ?_
  · exact (compositional_failsAtOnce.expressionStatement failsAtOnce_expression
      room).advancesAt Nat.one_pos _
  · have pos : 0 < 1 + kalos [token] := by omega
    dsimp only
    split
    · exact (compositional_failsAtOnce.declaration failsAtOnce_expression room).advancesAt pos _
    · next kalo =>
      have opens : kalos [token] = 1 := by simp [kalos, kalo]
      rw [opens]
      exact advancesAt_kalo inside placed room count short
    · exact (compositional_failsAtOnce.spill failsAtOnce_expression room).advancesAt pos _

end Blocks

/-! ## Sequences of statements -/

theorem overcome_resumed {fault : SyntaxFault} (met : Passed rest fault ∨ fault.rest = rest) :
    Overcome (resumed rest) fault := by
  rcases met with passed | rfl
  · exact .inl (passed.mono (resumed_suffix rest))
  · cases same : fault.rest with
    | nil => exact .inl (.inr ⟨rfl, same⟩)
    | cons token behind =>
        by_cases newline : token.kind = .newline
        · exact .inr ⟨token, behind, newline, by rw [resumed, if_pos newline], same⟩
        · refine .inl (.inl ?_)
          rw [same, resumed, if_neg newline]
          exact Nat.lt_succ_of_le (List.dropWhile_suffix _).length_le

theorem faults_recovering (reader : Reader α) (tokens : List Token) :
    ((recovering reader).run tokens).faults = (reader.run tokens).faults := by
  rw [run_recovering]
  split <;> rfl

theorem AdvancesAt.overcome {allowed : Nat} {reader : Reader α}
    (advances : AdvancesAt allowed reader tokens) :
    ∀ fault ∈ decisive ((recovering reader).run tokens).faults,
      Overcome ((recovering reader).run tokens).rest fault := by
  intro fault mem
  rw [faults_recovering] at mem
  have passed := advances.passed fault mem
  rw [run_recovering]
  cases found : (reader.run tokens).found with
  | some _ => exact .inl (passed.resolve_right fun failed => by simp [found] at failed)
  | none => exact overcome_resumed (passed.imp_right And.right)

theorem Overcome.passed_statements {count : Nat} {fault : SyntaxFault}
    (overcome : Overcome rest fault) (room : Nat) (inBlock : Bool) (short : rest.length < count) :
    Passed ((statements room inBlock count).run rest).rest fault ∧
      ∀ later ∈ ((statements room inBlock count).run rest).faults, Passed later.rest fault := by
  rcases overcome with passed | ⟨newline, behind, kind, rfl, same⟩
  · have placed := placed_statements room inBlock count
    exact ⟨passed.mono (placed.suffix rest),
      fun later mem => passed.mono (placed.placed rest later mem)⟩
  · obtain ⟨count, rfl⟩ := Nat.exists_eq_add_one_of_ne_zero (Nat.ne_zero_of_lt short)
    have placed := placed_statements room inBlock count
    have passed : Passed behind fault := .inl (by rw [same]; exact Nat.lt_succ_self _)
    rw [run_statements_cons, if_pos kind]
    exact ⟨passed.mono (placed.suffix behind),
      fun later mem => passed.mono (placed.placed behind later mem)⟩

theorem AdvancesAt.statements {room count : Nat} {inBlock : Bool} {reader : Reader Stmt}
    (first : AdvancesAt 1 reader tokens) (orderly : Orderly reader)
    (short : ((recovering reader).run tokens).rest.length < count)
    (second : AdvancesAt 1 (statements room inBlock count) ((recovering reader).run tokens).rest) :
    AdvancesAt 1 (recovering reader >>= fun stmt? =>
      statements room inBlock count >>= fun stmts => pure (stmt? :: stmts)) tokens := by
  have suffix := orderly.recovering.suffix tokens
  have overcome := first.overcome
  obtain ⟨ordered, _, atEnd⟩ := first
  rw [← faults_recovering] at ordered atEnd
  obtain ⟨stmt?, middle, faults, reading⟩ := run_recovering_found reader tokens
  rw [reading] at short second suffix overcome ordered atEnd
  have behind := fun fault mem => (overcome fault mem).passed_statements room inBlock short
  obtain ⟨ordered', passed', atEnd'⟩ := second
  obtain ⟨stmts, left, later, run⟩ := statements_found room inBlock count middle
  rw [run] at behind ordered' passed' atEnd'
  have whole : (recovering reader >>= fun stmt? => Reader.statements room inBlock count >>=
      fun stmts => pure (stmt? :: stmts)).run tokens =
        ⟨some (stmt? :: stmts), left, faults ++ later⟩ := by
    rw [run_bind_of_found reading, run_bind_of_found run]
    simp
  constructor
  · rw [whole]
    exact pairwise_passed_append ordered ordered' fun fault mem => (behind fault mem).2
  · rw [whole, decisive_append]
    refine List.forall_mem_append.2 ⟨fun fault mem => .inl (behind fault mem).1, ?_⟩
    exact fun fault mem => .inl ((passed' fault mem).resolve_right nofun)
  · rw [whole, faultsAtEnd_append]
    -- nothing is read behind a statement that is given up at the end
    by_cases reached : middle = []
    · rw [reached, run_statements_nil] at run
      obtain rfl : [] = later := congrArg Reading.faults run
      exact atEnd
    · rw [faultsAtEnd_eq_zero overcome reached, Nat.zero_add]
      exact Nat.le_trans atEnd' (Nat.add_le_add_right (kalos_le suffix) 1)

theorem advancesAt_statements (room : Nat) (inBlock : Bool) {count : Nat}
    (short : tokens.length < count) : AdvancesAt 1 (statements room inBlock count) tokens := by
  induction count generalizing room inBlock tokens with
  | zero => exact absurd short (Nat.not_lt_zero _)
  | succ count ih =>
      cases tokens with
      | nil => exact advancesAt_of_silent (by rw [run_statements_nil])
      | cons token rest =>
          have run := run_statements_cons room inBlock count token rest
          have short : rest.length < count := Nat.lt_of_succ_lt_succ short
          split at run
          · exact (ih room inBlock short).of_run run
              (Nat.add_le_add_right (kalos_le (List.suffix_cons token rest)) 1)
          · next noNewline =>
            split at run
            · exact advancesAt_of_silent (by rw [run])
            · have inside (inner : List Token) (less : inner.length < count) :
                  AdvancesAt 1 (boundedBlock room count) inner :=
                (compositional_failsAtOnce.expect (by decide) _).bind_advancesAt
                  (orderly_expect (by decide) _) Nat.one_pos fun _ behind suffix =>
                    (ih _ true (length_lt_of_suffix suffix less)).map
                      (orderly_statements _ _ _) _
              have placed : Placed (boundedBlock room count) :=
                (hereditary_placed.expect (by decide) _).bind fun _ =>
                  (placed_statements _ _ _).bind fun _ => placed_pure _
              have statement := advancesAt_statement inside placed room count token short
              have orderly := orderly_statement placed.toOrderly room count
              have shorter := recovering_length_lt orderly
                (consumes_statement placed.toOrderly room count) noNewline rest
              have behind := Nat.lt_of_lt_of_le shorter (Nat.succ_le_of_lt short)
              exact (statement.statements orderly behind (ih room inBlock behind)).of_run run
                (Nat.le_refl _)

/-! ## Passes -/

/-- One pass over the statements: a blank line, or a statement or the gap that it leaves. -/
def pass (room count : Nat) : Reader (List (Option Stmt)) := do
  match ← accept? (· == .newline) with
  | some _ => pure []
  | none =>
    let stmt? ← recovering (statement room (boundedBlock room count) count)
    pure [stmt?]

theorem run_pass_cons (room count : Nat) (token : Token) (rest : List Token) :
    (pass room count).run (token :: rest) =
      if token.kind = .newline then ⟨some [], rest, []⟩
      else (recovering (statement room (boundedBlock room count) count) >>= fun stmt? =>
        pure [stmt?]).run (token :: rest) := by
  rw [pass, run_accept?_bind_cons]
  by_cases newline : token.kind = .newline <;> simp [newline]

theorem pass_found (room count : Nat) (token : Token) (rest : List Token) :
    ∃ found left faults,
      (pass room count).run (token :: rest) = ⟨some found, left, faults⟩ ∧ left <:+ rest := by
  rw [run_pass_cons]
  by_cases newline : token.kind = .newline
  · exact ⟨[], rest, [], if_pos newline, List.suffix_rfl⟩
  · have orderly := orderly_boundedBlock room count
    have shorter := recovering_length_lt (orderly_statement orderly room count)
      (consumes_statement orderly room count) newline rest
    have suffix := (orderly_statement orderly room count).recovering.suffix (token :: rest)
    obtain ⟨stmt?, left, faults, reading⟩ := run_recovering_found
      (statement room (boundedBlock room count) count) (token :: rest)
    rw [reading] at shorter suffix
    refine ⟨[stmt?], left, faults, ?_, ?_⟩
    · rw [if_neg newline, run_bind_of_found reading]
      simp
    · rcases List.suffix_cons_iff.1 suffix with all | suffix
      · exact absurd shorter (by rw [show left = token :: rest from all]; exact Nat.lt_irrefl _)
      · exact suffix

theorem run_statements_pass (room : Nat) {inBlock : Bool} (count : Nat) {token : Token}
    (goesOn : (inBlock && endsBlock token.kind) = false) (rest : List Token) :
    (statements room inBlock (count + 1)).run (token :: rest) =
      (pass room count >>= fun found => statements room inBlock count >>= fun stmts =>
        pure (found ++ stmts)).run (token :: rest) := by
  have run := run_pass_cons room count token rest
  rw [run_statements_cons, goesOn]
  by_cases newline : token.kind = .newline
  · rw [if_pos newline] at run ⊢
    obtain ⟨stmts, left, faults, behind⟩ := statements_found room inBlock count rest
    rw [run_bind_of_found run, run_bind_of_found behind, behind]
    simp
  · rw [if_neg newline] at run ⊢
    obtain ⟨stmt?, middle, faults, reading⟩ := run_recovering_found
      (statement room (boundedBlock room count) count) (token :: rest)
    rw [run_bind_of_found reading, run_pure] at run
    rw [if_neg Bool.false_ne_true, run_bind_of_found reading, run_bind_of_found run,
      List.append_nil]
    rfl

theorem run_statements_rest (room : Nat) {count : Nat} (short : tokens.length < count) :
    ((statements room false count).run tokens).rest = [] := by
  induction count generalizing tokens with
  | zero => exact absurd short (Nat.not_lt_zero _)
  | succ count ih =>
      cases tokens with
      | nil => rw [run_statements_nil]
      | cons token rest =>
          obtain ⟨found, left, faults, run, suffix⟩ := pass_found room count token rest
          have behind := ih (length_lt_of_suffix suffix (Nat.lt_of_succ_lt_succ short))
          obtain ⟨stmts, last, later, run'⟩ := statements_found room false count left
          rw [run'] at behind
          rw [run_statements_pass room count rfl, run_bind_of_found run, run_bind_of_found run']
          exact behind

end Reader

open Reader

def SyntaxFault.index (items : List Token) (fault : SyntaxFault) : Nat :=
  items.length - fault.rest.length

namespace SyntaxFault

variable {items : List Token} {fault later : SyntaxFault}

theorem getElem?_index (placed : fault.rest <:+ items) (stop : Token) :
    (items ++ [stop])[fault.index items]? = some (fault.token stop) := by
  obtain ⟨front, rfl⟩ := placed
  have place : fault.index (front ++ fault.rest) = front.length := by simp [index]
  rw [place, List.append_assoc, List.getElem?_append_right (Nat.le_refl _), Nat.sub_self, token]
  cases fault.rest <;> rfl

theorem index_of_passed (placed : fault.rest <:+ items) (passed : Passed later.rest fault) :
    fault.index items < later.index items ∨
      fault.index items = items.length ∧ later.index items = items.length := by
  have le := placed.length_le
  rcases passed with less | ⟨none, none'⟩
  · left
    simp only [index]
    omega
  · simp [index, none, none']

theorem index_eq_length (placed : fault.rest <:+ items) :
    fault.index items = items.length ↔ fault.rest.isEmpty = true := by
  have le := placed.length_le
  rw [List.isEmpty_iff_length_eq_zero, index]
  omega

end SyntaxFault

def Parsed.structuralFaults (parsed : Parsed) : List SyntaxFault :=
  parsed.faults.filter fun fault => fault.cause.IsStructural

theorem Parsed.structuralFaults_sublist (parsed : Parsed) :
    List.Sublist parsed.structuralFaults (decisive parsed.faults) := by
  have same : parsed.structuralFaults =
      (decisive parsed.faults).filter fun fault => fault.cause.IsStructural := by
    rw [structuralFaults, decisive, List.filter_filter]
    refine List.filter_congr fun fault _ => ?_
    by_cases structural : fault.cause.IsStructural
    · simp [structural, ((SyntaxCause.isStructural_iff _).1 structural).1]
    · simp [structural]
  rw [same]
  exact List.filter_sublist

theorem Parsed.run_statements_ofTokens (room : Nat) (tokens : Tokens) {count : Nat}
    (short : tokens.items.length < count) :
    (statements room false count).run tokens.items =
      ⟨some (ofTokens room tokens).program, [], (ofTokens room tokens).faults⟩ := by
  have same := statements_congr room false short (Nat.lt_succ_self _) tokens.items
    (Nat.le_refl _)
  have rest := run_statements_rest room short
  obtain ⟨program, left, faults, run⟩ :=
    statements_found room false (tokens.items.length + 1) tokens.items
  rw [same, run] at rest
  simp only [same, ofTokens, run]
  rw [← show left = [] from rest]
  rfl

/-- Tokens are read up to their end, however malformed they are.  Each pass over the statements of
the program or of a block takes a token.  What was expected is reported at tokens of which each one
stands behind the one before, except at the end mark, where it may be reported once for each if
statement and once more. -/
theorem Parsed.ofTokens_advances (room : Nat) (tokens : Tokens) :
    let indices := (ofTokens room tokens).structuralFaults.map (SyntaxFault.index tokens.items)
    (∀ count, tokens.items.length < count →
      (statements room false count).run tokens.items =
        ⟨some (ofTokens room tokens).program, [], (ofTokens room tokens).faults⟩) ∧
    (∀ inner inBlock count token rest, (inBlock && endsBlock token.kind) = false →
      (statements inner inBlock (count + 1)).run (token :: rest) =
        (pass inner count >>= fun found => statements inner inBlock count >>= fun stmts =>
          pure (found ++ stmts)).run (token :: rest) ∧
      ((pass inner count).run (token :: rest)).rest <:+ rest) ∧
    (∀ fault ∈ (ofTokens room tokens).faults,
      tokens.toList[fault.index tokens.items]? = some (fault.token tokens.stop)) ∧
    indices.Pairwise (fun earlier later => earlier < later ∨
      earlier = tokens.items.length ∧ later = tokens.items.length) ∧
    indices.count tokens.items.length ≤ 1 + (tokens.items.map Token.kind).count .kalo := by
  intro indices
  obtain ⟨items, stop⟩ := tokens
  have advances := advancesAt_statements room false (Nat.lt_succ_self items.length)
  have placed := (placed_statements room false (items.length + 1)).placed items
  have sublist := (ofTokens room ⟨items, stop⟩).structuralFaults_sublist
  have placed' (fault) (mem : fault ∈ (ofTokens room ⟨items, stop⟩).structuralFaults) :
      fault.rest <:+ items := placed fault (List.mem_filter.1 mem).1
  refine ⟨fun count short => run_statements_ofTokens room ⟨items, stop⟩ short,
    fun inner inBlock count token rest goesOn => ?_,
    fun fault mem => SyntaxFault.getElem?_index (placed fault mem) stop, ?_, ?_⟩
  · obtain ⟨found, left, faults, run, suffix⟩ := pass_found inner count token rest
    refine ⟨run_statements_pass inner count goesOn rest, ?_⟩
    rw [run]
    exact suffix
  · exact List.pairwise_map.2 ((advances.ordered.sublist sublist).imp_of_mem
      fun mem _ passed => SyntaxFault.index_of_passed (placed' _ mem) passed)
  · calc indices.count items.length
        = (ofTokens room ⟨items, stop⟩).structuralFaults.countP (·.rest.isEmpty) := by
          rw [List.count, List.countP_map]
          exact List.countP_congr fun fault mem => by
            simpa using SyntaxFault.index_eq_length (placed' fault mem)
      _ ≤ faultsAtEnd (ofTokens room ⟨items, stop⟩).faults := sublist.countP_le
      _ ≤ kalos items + 1 := advances.atEnd
      _ = 1 + (items.map Token.kind).count .kalo := by
          rw [List.count, List.countP_map, Nat.add_comm]
          rfl

/-- Two if statements that are still open at the end, and a mistake in the statement there. -/
theorem Parsed.ofTokens_advances_of_open_ifs :
    let tokens := (Lexed.ofText "kalo 1\nkalo 2 )\nkalo 3\nspill").tokens
    let indices := (ofTokens 989 tokens).structuralFaults.map (SyntaxFault.index tokens.items)
    tokens.items.length = 11 ∧ indices = [5, 11, 11, 11] ∧
      (tokens.items.map Token.kind).count .kalo = 3 ∧
      indices.Pairwise (fun earlier later => earlier < later ∨ earlier = 11 ∧ later = 11) ∧
      indices.count 11 ≤ 4 := by
  intro tokens indices
  have length : tokens.items.length = 11 := by decide +kernel
  have kalos : (tokens.items.map Token.kind).count .kalo = 3 := by decide +kernel
  obtain ⟨_, _, _, ordered, atEnd⟩ := ofTokens_advances 989 tokens
  rw [length] at ordered atEnd
  rw [kalos] at atEnd
  exact ⟨length, by decide +kernel, kalos, ordered, atEnd⟩

end BilingualScript
