import BilingualScript.Proofs.Reading.Progress

/-!
# Reading relabelled tokens

Readers look at the kinds and the literals of tokens.  What they find in tokens that differ in
nothing else is the same, but for the tokens that trees keep.
-/

namespace BilingualScript

/-! ## Trees -/

def Expr.mapTokens (f : Token → Token) : Expr → Expr
  | .literal value => .literal value
  | .grouping inner => .grouping (inner.mapTokens f)
  | .unary operator operand => .unary (f operator) (operand.mapTokens f)
  | .binary left operator right => .binary (left.mapTokens f) (f operator) (right.mapTokens f)
  | .reference name => .reference (f name)
  | .assign name value => .assign (f name) (value.mapTokens f)

mutual

def Stmt.mapTokens (f : Token → Token) : Stmt → Stmt
  | .expression value => .expression (value.mapTokens f)
  | .spill value => .spill (value.mapTokens f)
  | .declare name initial => .declare (f name) (initial.map (Expr.mapTokens f))
  | .kalo condition body otherwise =>
    .kalo (condition.mapTokens f) (Block.mapTokens f body) (otherwise.mapTokens f)

def Otherwise.mapTokens (f : Token → Token) : Otherwise → Otherwise
  | .nothing => .nothing
  | .kalogak body => .kalogak (Block.mapTokens f body)
  | .perhaps condition body otherwise =>
    .perhaps (condition.mapTokens f) (Block.mapTokens f body) (otherwise.mapTokens f)

def Block.mapTokens (f : Token → Token) : List Stmt → List Stmt
  | [] => []
  | stmt :: rest => stmt.mapTokens f :: Block.mapTokens f rest

end

def Program.mapTokens (f : Token → Token) (program : Program) : Program :=
  program.map (Option.map (Stmt.mapTokens f))

theorem Program.filterMap_mapTokens (f : Token → Token) (program : Program) :
    (program.mapTokens f).filterMap id = Block.mapTokens f (program.filterMap id) := by
  induction program with
  | nil => rfl
  | cons stmt? program ih =>
      cases stmt? with
      | none => exact ih
      | some stmt => exact congrArg (stmt.mapTokens f :: ·) ih

/-! ## Readings -/

/-- The labels of tokens may change, but nothing that readers look at. -/
structure Token.Relabels (f : Token → Token) : Prop where
  kind : ∀ token, (f token).kind = token.kind
  literal : ∀ token, (f token).literal = token.literal

def SyntaxFault.mapTokens (f : Token → Token) (fault : SyntaxFault) : SyntaxFault :=
  { fault with rest := fault.rest.map f }

def Reading.mapTokens {α β : Type} (f : Token → Token) (g : α → β) (reading : Reading α) :
    Reading β :=
  ⟨reading.found.map g, reading.rest.map f, reading.faults.map (SyntaxFault.mapTokens f)⟩

namespace Reader

variable {α β γ δ : Type}

/-- A reader finds in relabelled tokens what another makes of the tokens as they are. -/
def Mirrors (f : Token → Token) (g : α → β) (reader : Reader α) (other : Reader β) : Prop :=
  ∀ tokens, other.run (tokens.map f) = (reader.run tokens).mapTokens f g

variable {f : Token → Token} {g : α → β} {h : γ → δ}

theorem mirrors_pure {value : α} {value' : β} (same : g value = value') :
    Mirrors f g (pure value) (pure value') := by
  rintro tokens
  rw [← same]
  rfl

theorem mirrors_fail (g : α → β) (cause : SyntaxCause) :
    Mirrors f g (fail cause) (fail cause) := fun _ => rfl

theorem mirrors_report (fault : SyntaxFault) :
    Mirrors f id (report fault) (report (fault.mapTokens f)) := fun _ => rfl

theorem mirrors_ahead : Mirrors f (List.map f) ahead ahead := fun _ => rfl

theorem Mirrors.bind {reader : Reader α} {other : Reader β} {next : α → Reader γ}
    {next' : β → Reader δ} (first : Mirrors f g reader other)
    (second : ∀ value, Mirrors f h (next value) (next' (g value))) :
    Mirrors f h (reader >>= next) (other >>= next') := by
  intro tokens
  rcases reading : reader.run tokens with ⟨found, rest, faults⟩
  have reading' := first tokens
  rw [reading] at reading'
  cases found with
  | none =>
      rw [run_bind_of_failed reading, run_bind_of_failed reading']
      rfl
  | some value =>
      rw [run_bind_of_found reading, run_bind_of_found reading', second value rest]
      simp [Reading.mapTokens]

theorem Mirrors.map {reader : Reader α} {other : Reader β} {next : α → γ} {next' : β → δ}
    (mirrors : Mirrors f g reader other) (same : ∀ value, next' (g value) = h (next value)) :
    Mirrors f h (next <$> reader) (next' <$> other) := by
  refine mirrors.bind fun value => ?_
  exact mirrors_pure (same value).symm

theorem Mirrors.recovering {reader : Reader α} {other : Reader β} (relabels : Token.Relabels f)
    (mirrors : Mirrors f g reader other) :
    Mirrors f (Option.map g) (recovering reader) (recovering other) := by
  intro tokens
  have resumed_map (rest : List Token) : resumed (rest.map f) = (resumed rest).map f := by
    cases rest with
    | nil => rfl
    | cons token rest =>
        have same : (fun token : Token => !resumesReading token.kind) ∘ f =
            fun token => !resumesReading token.kind := by
          funext token
          exact congrArg (!resumesReading ·) (relabels.kind token)
        simp only [List.map_cons, resumed, relabels.kind, List.dropWhile_map, same]
        split <;> rfl
  rw [run_recovering, run_recovering, mirrors tokens]
  cases found : (reader.run tokens).found with
  | none => simp [Reading.mapTokens, found, resumed_map]
  | some value => simp [Reading.mapTokens, found]

section Relabelled

variable (relabels : Token.Relabels f)

include relabels

theorem mirrors_accept? (wanted : Kind → Bool) :
    Mirrors f (Option.map f) (accept? wanted) (accept? wanted) := by
  intro tokens
  cases tokens with
  | nil => rfl
  | cons token rest =>
      rw [List.map_cons, run_accept?_cons, run_accept?_cons, relabels.kind]
      split <;> rfl

theorem mirrors_expect (kind : Kind) (cause : SyntaxCause) :
    Mirrors f f (expect kind cause) (expect kind cause) := by
  refine (mirrors_accept? relabels _).bind fun found => ?_
  cases found with
  | none => exact mirrors_fail _ _
  | some token => exact mirrors_pure rfl

theorem mirrors_expectEnd (cause : SyntaxCause) :
    Mirrors f id (expectEnd cause) (expectEnd cause) := by
  refine mirrors_ahead.bind fun tokens => ?_
  rw [List.isEmpty_map]
  split
  · exact mirrors_pure rfl
  · exact (mirrors_expect relabels _ _).bind fun _ => mirrors_pure rfl

/-! ## Expressions -/

theorem mirrors_operations {operators : Kind → Bool} {operand : Reader Expr}
    (mirrors : Mirrors f (Expr.mapTokens f) operand operand) (bound : List Token) (left : Expr) :
    Mirrors f (Expr.mapTokens f) (operations operators operand bound left)
      (operations operators operand (bound.map f) (left.mapTokens f)) := by
  induction bound generalizing left with
  | nil => exact mirrors_pure rfl
  | cons token bound ih =>
      refine (mirrors_accept? relabels _).bind fun found => ?_
      cases found with
      | none => exact mirrors_pure rfl
      | some operator => exact mirrors.bind fun right => ih (.binary left operator right)

theorem mirrors_chain {operators : Kind → Bool} {operand : Reader Expr}
    (mirrors : Mirrors f (Expr.mapTokens f) operand operand) :
    Mirrors f (Expr.mapTokens f) (chain operators operand) (chain operators operand) :=
  mirrors.bind fun left => mirrors_ahead.bind fun bound =>
    mirrors_operations relabels mirrors bound left

theorem mirrors_binary {operand : Reader Expr}
    (mirrors : Mirrors f (Expr.mapTokens f) operand operand) :
    Mirrors f (Expr.mapTokens f) (binary operand) (binary operand) :=
  mirrors_chain relabels (mirrors_chain relabels (mirrors_chain relabels
    (mirrors_chain relabels mirrors)))

theorem mirrors_assignment {operand : Nat → Reader Expr}
    (mirrors : ∀ room, Mirrors f (Expr.mapTokens f) (operand room) (operand room)) (room : Nat) :
    Mirrors f (Expr.mapTokens f) (assignment operand room) (assignment operand room) := by
  induction room with
  | zero => exact mirrors 0
  | succ room ih =>
      refine (mirrors _).bind fun target => mirrors_ahead.bind fun fromItu =>
        (mirrors_accept? relabels _).bind fun found => ?_
      cases found with
      | none => exact mirrors_pure rfl
      | some _ =>
          refine ih.bind fun value => ?_
          cases target with
          | reference name => exact mirrors_pure rfl
          | _ => exact (mirrors_report _).bind fun _ => mirrors_pure rfl

theorem mirrors_unary {operand : Nat → Reader Expr}
    (mirrors : ∀ room, Mirrors f (Expr.mapTokens f) (operand room) (operand room)) (room : Nat) :
    Mirrors f (Expr.mapTokens f) (unary operand room) (unary operand room) := by
  induction room with
  | zero => exact (mirrors_accept? relabels _).bind fun _ => mirrors_fail _ _
  | succ room ih =>
      refine (mirrors_accept? relabels _).bind fun found => ?_
      cases found with
      | none => exact mirrors _
      | some operator => exact ih.bind fun inner => mirrors_pure rfl

theorem mirrors_primary {expression : Nat → Reader Expr}
    (mirrors : ∀ room, Mirrors f (Expr.mapTokens f) (expression room) (expression room))
    (room : Nat) :
    Mirrors f (Expr.mapTokens f) (primary expression room) (primary expression room) := by
  refine (mirrors_accept? relabels _).bind fun found => ?_
  cases found with
  | none => exact mirrors_fail _ _
  | some token =>
      simp only [Option.map_some, relabels.kind, relabels.literal]
      split
      case h_5 =>
        exact (mirrors room).bind fun inner => (mirrors_expect relabels _ _).bind fun _ =>
          mirrors_pure rfl
      all_goals exact mirrors_pure rfl

theorem mirrors_expressionWithin (count room : Nat) :
    Mirrors f (Expr.mapTokens f) (expressionWithin count room) (expressionWithin count room) := by
  induction count generalizing room with
  | zero => exact mirrors_fail _ _
  | succ count ih =>
      unfold expressionWithin
      split
      · exact mirrors_fail _ _
      · exact mirrors_assignment relabels (fun _ => mirrors_binary relabels
          (mirrors_unary relabels (mirrors_primary relabels ih) _)) _

theorem mirrors_expression (room : Nat) :
    Mirrors f (Expr.mapTokens f) (expression room) (expression room) :=
  mirrors_expressionWithin relabels room room

/-! ## Statements -/

theorem mirrors_expressionStatement (room : Nat) :
    Mirrors f (Stmt.mapTokens f) (expressionStatement room) (expressionStatement room) :=
  (mirrors_expression relabels room).bind fun _ =>
    (mirrors_expectEnd relabels _).bind fun _ => mirrors_pure rfl

theorem mirrors_spill (room : Nat) : Mirrors f (Stmt.mapTokens f) (spill room) (spill room) :=
  (mirrors_expression relabels room).bind fun _ =>
    (mirrors_expectEnd relabels _).bind fun _ => mirrors_pure rfl

theorem mirrors_declaration (room : Nat) :
    Mirrors f (Stmt.mapTokens f) (declaration room) (declaration room) := by
  refine (mirrors_expect relabels _ _).bind fun name =>
    (mirrors_accept? relabels _).bind fun found => ?_
  cases found with
  | none => exact (mirrors_expectEnd relabels _).bind fun _ => mirrors_pure rfl
  | some _ =>
      exact ((mirrors_expression relabels _).map (h := Option.map (Expr.mapTokens f))
        fun _ => rfl).bind fun _ => (mirrors_expectEnd relabels _).bind fun _ => mirrors_pure rfl

section Blocks

variable {block : Reader (List Stmt)}
  (mirrors : Mirrors f (Block.mapTokens f) block block)

include mirrors

theorem mirrors_otherwise (room count : Nat) :
    Mirrors f (Otherwise.mapTokens f) (otherwise room block count)
      (otherwise room block count) := by
  induction count with
  | zero => exact mirrors_pure rfl
  | succ count ih =>
      refine (mirrors_accept? relabels _).bind fun found => ?_
      cases found with
      | none => exact mirrors_pure rfl
      | some token =>
          simp only [Option.map_some, relabels.kind]
          split
          · exact (mirrors_expression relabels room).bind fun _ => mirrors.bind fun _ =>
              ih.bind fun _ => mirrors_pure rfl
          · exact mirrors.bind fun _ => mirrors_pure rfl

theorem mirrors_kalo (room count : Nat) :
    Mirrors f (Stmt.mapTokens f) (kalo room block count) (kalo room block count) :=
  (mirrors_expression relabels room).bind fun _ => mirrors.bind fun _ =>
    (mirrors_otherwise relabels mirrors room count).bind fun _ =>
      (mirrors_expect relabels _ _).bind fun _ => (mirrors_expectEnd relabels _).bind fun _ =>
        mirrors_pure rfl

theorem mirrors_statement (room count : Nat) :
    Mirrors f (Stmt.mapTokens f) (statement room block count) (statement room block count) := by
  refine (mirrors_accept? relabels _).bind fun found => ?_
  cases found with
  | none => exact mirrors_expressionStatement relabels room
  | some token =>
      simp only [Option.map_some, relabels.kind]
      split
      · exact mirrors_declaration relabels room
      · exact mirrors_kalo relabels mirrors room count
      · exact mirrors_spill relabels room

end Blocks

theorem mirrors_statements (room : Nat) (inBlock : Bool) (count : Nat) :
    Mirrors f (Program.mapTokens f) (statements room inBlock count)
      (statements room inBlock count) := by
  induction count generalizing room inBlock with
  | zero => exact mirrors_pure rfl
  | succ count ih =>
      have block : Mirrors f (Block.mapTokens f) (boundedBlock room count)
          (boundedBlock room count) :=
        (mirrors_expect relabels _ _).bind fun _ => (ih _ _).bind fun found =>
          mirrors_pure (found.filterMap_mapTokens f).symm
      refine mirrors_ahead.bind fun tokens => ?_
      cases tokens with
      | nil => exact mirrors_pure rfl
      | cons token rest =>
          simp only [List.map_cons, relabels.kind]
          split
          · exact (mirrors_accept? relabels _).bind fun _ => ih _ _
          · split
            · exact mirrors_pure rfl
            · exact ((mirrors_statement relabels block room count).recovering relabels).bind
                fun _ => (ih _ _).bind fun _ => mirrors_pure rfl

end Relabelled

end Reader

def Parsed.mapTokens (f : Token → Token) (parsed : Parsed) : Parsed :=
  ⟨parsed.program.mapTokens f, parsed.faults.map (SyntaxFault.mapTokens f)⟩

/-- Relabelled tokens are read as the tokens themselves are, but for the labels in the trees and in
the faults. -/
theorem Parsed.ofTokens_map {f : Token → Token} (relabels : Token.Relabels f) (room : Nat)
    (items : List Token) (stop stop' : Token) :
    ofTokens room ⟨items.map f, stop'⟩ = (ofTokens room ⟨items, stop⟩).mapTokens f := by
  have mirrored := Reader.mirrors_statements relabels room false (items.length + 1) items
  simp only [ofTokens, List.length_map, mirrored, Reading.mapTokens, mapTokens]
  cases ((Reader.statements room false (items.length + 1)).run items).found <;> rfl

end BilingualScript
