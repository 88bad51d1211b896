import BilingualScript.Proofs.Reading.Nesting

/-!
# Phrases of the grammar are found

A reader finds each phrase of the grammar behind which nothing stands with which the phrase could
go on, or else it runs out of room.
-/

namespace BilingualScript.Grammar

open Reader

variable {allTargets : Bool} {tokens middle rest : List Token}

/-! ## Where phrases stop -/

def Chain.within : Chain → List Chain
  | .equality => [.equality, .comparison, .sum, .product]
  | .comparison => [.comparison, .sum, .product]
  | .sum => [.sum, .product]
  | .product => [.product]

/-- The kinds of tokens with which a phrase goes on behind what is a phrase already. -/
def Form.taken : Form → List Kind
  | .assignment => .itu :: Chain.equality.within.flatMap Chain.operators
  | .operands level | .further level _ => level.within.flatMap Chain.operators
  | .unary | .primary => []

def Stops (form : Form) (rest : List Token) : Prop := ∀ token ∈ rest.head?, token.kind ∉ form.taken

theorem stops_of_kind {form : Form} {token : Token} (stops : token.kind ∉ form.taken) :
    Stops form (token :: rest) := by
  simpa [Stops] using stops

theorem Stops.mono {first second : Form} (stops : Stops first rest)
    (fewer : second.taken ⊆ first.taken) : Stops second rest :=
  fun token mem taken => stops token mem (fewer taken)

theorem Chain.taken_operand_subset (level : Chain) :
    level.operand.taken ⊆ (Form.operands level).taken := by
  cases level <;> decide

theorem Chain.not_mem_taken_operand (level : Chain) :
    ∀ kind ∈ level.operators, kind ∉ level.operand.taken := by
  cases level <;> decide

theorem Phrase.stops_operand {level : Chain} {left expr : Expr}
    (phrase : Phrase allTargets (.further level left) tokens rest expr)
    (stops : Stops (.operands level) rest) : Stops level.operand tokens := by
  cases phrase with
  | last => exact stops.mono level.taken_operand_subset
  | further operator _ _ => exact stops_of_kind (level.not_mem_taken_operand _ operator)

theorem Phrase.starts_primary {expr : Expr} (phrase : Phrase allTargets .primary tokens rest expr) :
    ∀ token ∈ tokens.head?, isNegation token.kind = false := by
  cases phrase with
  | ril kind | impossible kind | hampa kind | name kind | grouping kind =>
      simp [isNegation, kind]
  | literal kind => rcases kind with kind | kind <;> simp [isNegation, kind]

/-! ## Expressions -/

theorem sinks_unary_zero (operand : Nat → Reader Expr) (tokens : List Token) :
    Sinks (Reader.unary operand 0) tokens := by
  cases tokens with
  | nil => exact (sinks_congr (run_accept?_bind_nil _ _)).2 sinks_fail
  | cons token rest =>
      by_cases negation : isNegation token.kind = true
      · refine (sinks_congr ?_).2 (sinks_fail : Sinks (fail .tooDeep : Reader Expr) rest)
        rw [Reader.unary, run_accept?_bind_cons, if_pos negation]
      · refine (sinks_congr ?_).2 (sinks_fail : Sinks (fail .tooDeep : Reader Expr) (token :: rest))
        rw [Reader.unary, run_accept?_bind_cons, if_neg negation]

theorem sinks_operand_zero (tokens : List Token) : Sinks (operand 0) tokens :=
  ((((sinks_unary_zero _ tokens).bind _).bind _).bind _).bind _

theorem reaches_expression {expr : Expr}
    (reaches : ∀ room,
      Reaches allTargets (room < expr.nesting) (assignment operand room) tokens rest expr)
    (room : Nat) :
    Reaches allTargets (room < expr.nesting + expressionRoom) (expression room) tokens rest
      expr := by
  rw [expression_eq]
  split
  · next small => exact .of_sinks sinks_fail (Nat.lt_add_left _ small)
  · next enough => exact (reaches (room - expressionRoom)).mono fun _ deep => by omega

theorem reaches_primary {token : Token} {expr : Expr} {room : Nat} {reason : Prop}
    (starts : startsPrimary token.kind = true)
    (reaches : Reaches allTargets reason (match token.kind with
      | .impossible => pure (.literal (.truth false))
      | .ril => pure (.literal (.truth true))
      | .hampa => pure (.literal .hampa)
      | .identifier => pure (.reference token)
      | .leftParen => do
        let inner ← expression room
        let _ ← expect .rightParen .expectClosing
        pure (.grouping inner)
      | _ => pure (.literal token.literal) : Reader Expr) tokens rest expr) :
    Reaches allTargets reason (primary expression room) (token :: tokens) rest expr :=
  (reaches_accept?_bind_of_wanted starts).2 reaches

theorem reaches_assignment_target {target : Expr} {room : Nat} {reason : Prop}
    (reaches : ∀ room, Reaches allTargets (room < target.nesting)
      ((Form.operands .equality).reader room) tokens rest target)
    (stops : Stops .assignment rest) (because : room < target.nesting → reason) :
    Reaches allTargets reason (assignment operand room) tokens rest target := by
  cases room with
  | zero => exact .of_sinks (sinks_operand_zero _) (because target.nesting_pos)
  | succ room =>
      refine ((reaches _).mono fun _ => because).bind (reaches_ahead_bind.2 ?_)
      refine (reaches_accept?_bind_of_unwanted fun token mem => ?_).2 (.of_found (found_of_run rfl))
      have noItu : token.kind ≠ .itu := fun itu => stops token mem (by simp [Form.taken, itu])
      simpa using noItu

theorem reaches_assignment_value {itu : Token} {target value expr : Expr} {room : Nat}
    {reason : Prop} (kind : itu.kind = .itu)
    (both : Found allTargets (match target with
      | .reference name => pure (.assign name value)
      | _ => do
        report ⟨.invalidTarget, itu :: middle⟩
        pure target : Reader Expr) rest rest expr)
    (first : Reaches allTargets reason (operand (room + 1)) tokens (itu :: middle) target)
    (second : Reaches allTargets reason (assignment operand room) middle rest value) :
    Reaches allTargets reason (assignment operand (room + 1)) tokens rest expr := by
  refine first.bind (reaches_ahead_bind.2 ?_)
  refine (reaches_accept?_bind_of_wanted (by simp [kind])).2 ?_
  exact second.bind (.of_found both)

theorem Phrase.reaches {form : Form} {expr : Expr}
    (phrase : Phrase allTargets form tokens rest expr) (stops : Stops form rest) (room : Nat) :
    Reaches allTargets (room < expr.nesting) (form.reader room) tokens rest expr := by
  induction phrase generalizing room with
  | ril kind | impossible kind | hampa kind | name kind =>
      refine reaches_primary (by simp [startsPrimary, kind]) ?_
      rw [kind]
      exact .of_found (found_of_run rfl)
  | literal kind =>
      refine reaches_primary (by rcases kind with kind | kind <;> simp [startsPrimary, kind]) ?_
      rcases kind with kind | kind <;> rw [kind] <;> exact .of_found (found_of_run rfl)
  | grouping kind _ closing ih =>
      have inside := ih (stops_of_kind (by rw [closing]; decide))
      refine reaches_primary (by simp [startsPrimary, kind]) ?_
      rw [kind]
      refine (reaches_expression inside room).bind (.of_found (found_bind.2 ?_))
      exact ⟨_, _, found_expect.2 ⟨rfl, closing⟩, found_of_run rfl⟩
  | @primary _ _ expr phrase ih =>
      cases room with
      | zero => exact .of_sinks (sinks_unary_zero (Reader.primary expression) _) expr.nesting_pos
      | succ room => exact (reaches_accept?_bind_of_unwanted phrase.starts_primary).2 (ih stops _)
  | unary operator _ ih =>
      cases room with
      | zero =>
          exact .of_sinks (sinks_unary_zero (Reader.primary expression) _) (Expr.nesting_pos _)
      | succ room =>
          refine (reaches_accept?_bind_of_wanted ((isNegation_iff _).2 operator)).2 ?_
          have operand := (ih stops room).mono fun _ => Nat.succ_lt_succ
          exact operand.bind (.of_found (found_of_run rfl))
  | @operands level _ _ _ _ _ _ behind ih ih' =>
      have first := ih (behind.stops_operand stops) room
      rw [level.reader_operand] at first
      have deeper := behind.nesting_le
      exact (first.mono fun _ less => Nat.lt_of_lt_of_le less deeper).bind (ih' stops room)
  | @last level left rest =>
      refine .of_found ?_
      cases rest with
      | nil => exact found_of_run (run_further_nil left)
      | cons token rest =>
          have orderly := level.orderly_operandReader room
          refine found_of_run ((run_further_cons orderly left token rest).trans (if_neg ?_))
          rw [level.accepts_iff]
          intro operator
          refine stops token rfl ?_
          cases level <;> simp [Form.taken, Chain.within, operator]
  | @further level token left right inside _ _ _ operator _ behind ih ih' =>
      have orderly := level.orderly_operandReader room
      have run := level.run_further_cons orderly left token inside
      rw [if_pos ((level.accepts_iff _).2 operator)] at run
      refine (reaches_congr run).2 ?_
      have first := ih (behind.stops_operand stops) room
      rw [level.reader_operand] at first
      have deeper : right.nesting ≤ _ := Nat.le_trans (Nat.le_max_right _ _) behind.nesting_le
      exact (first.mono fun _ less => Nat.lt_of_lt_of_le less deeper).bind (ih' stops room)
  | equality _ ih =>
      have stops' : Stops (.operands .equality) _ := stops.mono (List.subset_cons_self _ _)
      exact reaches_assignment_target (ih stops') stops id
  | @assignment itu _ middle _ target value _ kind _ names ih ih' =>
      have target_stops : Stops (.operands .equality) (itu :: middle) :=
        stops_of_kind (by rw [kind]; decide)
      cases room with
      | zero => exact .of_sinks (sinks_operand_zero _) (Expr.nesting_pos _)
      | succ room =>
          have first := ih target_stops (room + 1)
          have second := ih' stops room
          cases target with
          | reference name =>
              refine reaches_assignment_value kind (found_of_run rfl)
                (first.mono fun _ less => ?_) (second.mono fun _ => Nat.succ_lt_succ)
              exact Nat.lt_of_lt_of_le less (Nat.succ_le_succ (Nat.zero_le _))
          | _ =>
              obtain all | ⟨_, impossible⟩ := names
              · have lenient : allTargets ≠ false := by simp [all]
                refine reaches_assignment_value kind ?_
                  (first.mono fun strict => absurd strict lenient)
                  (second.mono fun strict => absurd strict lenient)
                exact found_bind.2 ⟨(), _, found_report.2 ⟨all, rfl, rfl⟩, found_of_run rfl⟩
              · cases impossible

/-! ## Statements -/

theorem Phrase.starts {form : Form} {expr : Expr}
    (phrase : Phrase allTargets form tokens rest expr) :
    (∃ level left, form = .further level left) ∨ ∃ token tail, tokens = token :: tail ∧
      (startsPrimary token.kind = true ∨ isNegation token.kind = true) := by
  induction phrase with
  | last | further => exact .inl ⟨_, _, rfl⟩
  | ril kind | impossible kind | hampa kind | name kind | grouping kind =>
      exact .inr ⟨_, _, rfl, .inl (by simp [startsPrimary, kind])⟩
  | literal kind =>
      exact .inr ⟨_, _, rfl, .inl (by rcases kind with kind | kind <;> simp [startsPrimary, kind])⟩
  | unary operator => exact .inr ⟨_, _, rfl, .inr ((isNegation_iff _).2 operator)⟩
  | primary _ ih | equality _ ih | assignment _ _ _ _ ih =>
      exact .inr (ih.resolve_left nofun)
  | @operands level _ _ _ _ _ _ _ ih =>
      exact .inr (ih.resolve_left (by cases level <;> nofun))

theorem Phrase.start_kind {expr : Expr}
    (phrase : Phrase allTargets .assignment tokens rest expr) :
    ∃ token tail, tokens = token :: tail ∧
      token.kind ∉ [.newline, .literally, .kalo, .spill, .perhaps, .kalogak, .udahan] := by
  obtain ⟨token, tail, rfl, starts⟩ := phrase.starts.resolve_left nofun
  refine ⟨token, tail, rfl, fun mem => ?_⟩
  revert starts
  generalize token.kind = kind at *
  revert mem
  cases kind <;> decide

theorem Statement.start_kind {stmt : Stmt} (statement : Statement allTargets tokens rest stmt) :
    ∃ token tail, tokens = token :: tail ∧
      token.kind ∉ [.newline, .perhaps, .kalogak, .udahan] := by
  cases statement with
  | expression phrase =>
      obtain ⟨token, tail, rfl, kind⟩ := phrase.start_kind
      exact ⟨token, tail, rfl, by simp_all⟩
  | spill kind | declare kind | declareAs kind | kalo kind =>
      exact ⟨_, _, rfl, by rw [kind]; decide⟩

theorem stops_newline {newline : Token} (kind : newline.kind = .newline) :
    Stops .assignment (newline :: rest) :=
  stops_of_kind (by rw [kind]; decide)

theorem End.stops (ends : End tokens rest) : Stops .assignment tokens := by
  cases ends with
  | newline kind => exact stops_newline kind
  | stop => simp [Stops]

theorem Phrase.reaches_expression {expr : Expr}
    (phrase : Phrase allTargets .assignment tokens rest expr) (stops : Stops .assignment rest)
    (room : Nat) :
    Reaches allTargets (room < expr.nesting + expressionRoom) (expression room) tokens rest expr :=
  Grammar.reaches_expression (phrase.reaches stops) room

theorem End.found (ends : End tokens rest) (cause : SyntaxCause) :
    Found allTargets (expectEnd cause) tokens rest () :=
  found_expectEnd.2 ends

theorem Branches.halts {otherwise : Otherwise}
    (branches : Branches allTargets tokens rest otherwise) (halts : Halts true rest) :
    Halts true tokens := by
  cases branches with
  | nothing => exact halts
  | kalogak kind | perhaps kind => simp [Halts, endsBlock, kind]

theorem reaches_block {newline : Token} {body : List Stmt} {room : Nat} {reason : Prop}
    (kind : newline.kind = .newline)
    (reaches : Reaches allTargets (room - blockRoom < Block.nesting body)
      (lines (room - blockRoom) true) tokens rest (body.map some))
    (because : room < Block.nesting body + blockRoom → reason) :
    Reaches allTargets reason (block room) (newline :: tokens) rest body := by
  refine .bind (.of_found (found_expect.2 ⟨rfl, kind⟩)) ?_
  refine (reaches.mono fun _ less => because (by omega)).bind (.of_found ?_)
  exact found_pure.2 ⟨by simp, rfl⟩

theorem reaches_branch {α : Type} {value : α} {condition : Expr} {body : List Stmt}
    {otherwise : Otherwise} {newline : Token} {inner behind left : List Token} {room : Nat}
    {next : Expr → List Stmt → Otherwise → Reader α}
    (phrase : Phrase allTargets .assignment tokens (newline :: inner) condition)
    (kind : newline.kind = .newline)
    (second : Reaches allTargets (room - blockRoom < Block.nesting body)
      (lines (room - blockRoom) true) inner behind (body.map some))
    (third : Reaches allTargets (room < otherwise.nesting) (branches room) behind left otherwise)
    (found : Found allTargets (next condition body otherwise) left rest value) :
    Reaches allTargets
      (room < max (condition.nesting + expressionRoom)
        (max (Block.nesting body + blockRoom) otherwise.nesting))
      (expression room >>= fun condition => block room >>= fun body =>
        branches room >>= next condition body) tokens rest value := by
  have first := phrase.reaches_expression (stops_newline kind) room
  refine (first.mono fun _ less => ?_).bind
    ((reaches_block kind second fun less => ?_).bind
      ((third.mono fun _ less => ?_).bind (.of_found found)))
  · exact Nat.lt_of_lt_of_le less (Nat.le_max_left _ _)
  · exact Nat.lt_of_lt_of_le less (Nat.le_trans (Nat.le_max_left _ _) (Nat.le_max_right _ _))
  · exact Nat.lt_of_lt_of_le less (Nat.le_trans (Nat.le_max_right _ _) (Nat.le_max_right _ _))

theorem reaches_statement_word {word : Token} {stmt : Stmt} {room : Nat} {reason : Prop}
    {next : Reader Stmt} (kind : word.kind ∈ [.literally, .kalo, .spill])
    (same : (match word.kind with
      | .literally => declaration room
      | .kalo => conditional room
      | _ => spill room) = next)
    (reaches : Reaches allTargets reason next tokens rest stmt) :
    Reaches allTargets reason (anyStatement room) (word :: tokens) rest stmt := by
  subst same
  exact (reaches_accept?_bind_of_wanted (by simpa [or_assoc] using kind)).2 reaches

theorem reaches_spill {value : Expr} {room : Nat}
    (phrase : Phrase allTargets .assignment tokens middle value) (ends : End middle rest) :
    Reaches allTargets (room < (Stmt.spill value).nesting) (spill room) tokens rest
      (.spill value) :=
  (phrase.reaches_expression ends.stops room).bind
    (.of_found (found_bind.2 ⟨(), rest, ends.found _, found_of_run rfl⟩))

theorem reaches_expressionStatement {value : Expr} {room : Nat}
    (phrase : Phrase allTargets .assignment tokens middle value) (ends : End middle rest) :
    Reaches allTargets (room < (Stmt.expression value).nesting) (anyStatement room) tokens rest
      (.expression value) := by
  obtain ⟨token, tail, rfl, kind⟩ := phrase.start_kind
  refine (reaches_accept?_bind_of_unwanted (by simp_all)).2 ?_
  exact (phrase.reaches_expression ends.stops room).bind
    (.of_found (found_bind.2 ⟨(), rest, ends.found _, found_of_run rfl⟩))

theorem found_declare {name : Token} {room : Nat} (kind : name.kind = .identifier)
    (ends : End tokens rest) :
    Found allTargets (declaration room) (name :: tokens) rest (.declare name none) := by
  refine found_bind.2 ⟨name, tokens, found_expect.2 ⟨rfl, kind⟩, ?_⟩
  have bare : Found allTargets (expectEnd .expectEndOfDeclaration >>= fun _ =>
      pure (Stmt.declare name none)) tokens rest (.declare name none) :=
    found_bind.2 ⟨(), rest, ends.found _, found_of_run rfl⟩
  cases ends with
  | newline newline =>
      exact (found_accept?_bind_of_unwanted (by simp [newline])).2 bare
  | stop => exact found_accept?_bind_nil.2 bare

theorem reaches_declareAs {name itu : Token} {value : Expr} {room : Nat}
    (named : name.kind = .identifier) (kind : itu.kind = .itu)
    (phrase : Phrase allTargets .assignment tokens middle value) (ends : End middle rest) :
    Reaches allTargets (room < (Stmt.declare name (some value)).nesting) (declaration room)
      (name :: itu :: tokens) rest (.declare name (some value)) := by
  refine .bind (.of_found (found_expect.2 ⟨rfl, named⟩)) ?_
  refine (reaches_accept?_bind_of_wanted (by simp [kind])).2 ?_
  have initially : Reaches allTargets (room < (Stmt.declare name (some value)).nesting)
      (some <$> expression (room + 1)) tokens middle (some value) :=
    ((phrase.reaches_expression ends.stops (room + 1)).mono fun _ less =>
      Nat.lt_sub_of_add_lt less).bind (.of_found (found_of_run rfl))
  exact initially.bind (.of_found (found_bind.2 ⟨(), rest, ends.found _, found_of_run rfl⟩))

theorem reaches_lines_blank {newline : Token} {room : Nat} {inBlock : Bool}
    {program : List (Option Stmt)} {reason : Prop} (kind : newline.kind = .newline)
    (reaches : Reaches allTargets reason (lines room inBlock) tokens rest program) :
    Reaches allTargets reason (lines room inBlock) (newline :: tokens) rest program := by
  have run := run_lines_cons room inBlock newline tokens
  rw [if_pos kind] at run
  exact (reaches_congr run).2 reaches

theorem found_lines_halted {room : Nat} {inBlock : Bool} (halts : Halts inBlock rest) :
    Found allTargets (lines room inBlock) rest rest [] := by
  cases rest with
  | nil => exact found_of_run (run_lines_nil room inBlock)
  | cons token rest =>
      obtain ⟨block, ends⟩ := halts token rfl
      have noNewline : token.kind ≠ .newline := by
        intro newline
        rw [newline] at ends
        exact absurd ends (by decide)
      have run := run_lines_cons room inBlock token rest
      rw [if_neg noNewline, if_pos (by simp [block, ends])] at run
      exact found_of_run run

theorem reaches_lines_cons {stmt : Stmt} {stmts : List Stmt} {room : Nat} {inBlock : Bool}
    {reason : Prop} (statement : Statement allTargets tokens middle stmt)
    (first : Reaches allTargets reason (anyStatement room) tokens middle stmt)
    (second : Reaches allTargets reason (lines room inBlock) middle rest (stmts.map some)) :
    Reaches allTargets reason (lines room inBlock) tokens rest ((stmt :: stmts).map some) := by
  obtain ⟨token, tail, rfl, kind⟩ := statement.start_kind
  have run := run_lines_cons room inBlock token tail
  rw [if_neg (by simp_all), if_neg (by simp_all [endsBlock])] at run
  refine (reaches_congr run).2 ?_
  have recovered : Reaches allTargets reason (recovering (anyStatement room)) (token :: tail) middle
      (some stmt) :=
    first.imp (fun found => (found_recovering (orderly_anyStatement room)).2 ⟨stmt, rfl, found⟩)
      fun sinks => ⟨sinks.1.recovering, sinks.2⟩
  exact recovered.bind (second.bind (.of_found (found_of_run rfl)))

mutual

theorem Statement.reaches {tokens rest : List Token} {stmt : Stmt}
    (statement : Statement allTargets tokens rest stmt) (room : Nat) :
    Reaches allTargets (room < stmt.nesting) (anyStatement room) tokens rest stmt := by
  match tokens, rest, stmt, statement with
  | _, _, _, .expression phrase ends => exact reaches_expressionStatement phrase ends
  | _, _, _, .spill kind phrase ends =>
      exact reaches_statement_word (by simp [kind]) (by rw [kind]) (reaches_spill phrase ends)
  | _, _, _, .declare kind named ends =>
      exact reaches_statement_word (by simp [kind]) (by rw [kind])
        (.of_found (found_declare named ends))
  | _, _, _, .declareAs kind named itu phrase ends =>
      exact reaches_statement_word (by simp [kind]) (by rw [kind])
        (reaches_declareAs named itu phrase ends)
  | _, rest, _, @Statement.kalo _ _ _ udahan _ _ _ closing _ _ _ _ kind phrase newline_kind
      body others udahan_kind ends =>
      have halts : Halts true (udahan :: closing) := by simp [Halts, endsBlock, udahan_kind]
      have second := Lines.reaches body (others.halts halts) (room - blockRoom)
      have third := Branches.reaches others (by simp [udahan_kind]) room
      have branch : Reaches allTargets _ (conditional room) _ rest (.kalo _ _ _) :=
        reaches_branch phrase newline_kind second third
          (found_bind.2 ⟨udahan, closing, found_expect.2 ⟨rfl, udahan_kind⟩,
            found_bind.2 ⟨(), rest, ends.found _, found_of_run rfl⟩⟩)
      exact reaches_statement_word (by simp [kind]) (by rw [kind]) branch

theorem Branches.reaches {tokens rest : List Token} {otherwise : Otherwise}
    (branches : Branches allTargets tokens rest otherwise)
    (udahan : ∀ token ∈ rest.head?, token.kind = .udahan) (room : Nat) :
    Reaches allTargets (room < otherwise.nesting) (Reader.branches room) tokens rest otherwise := by
  have halts : Halts true rest := fun token mem => by simp [endsBlock, udahan token mem]
  match tokens, rest, otherwise, branches with
  | tokens, _, _, .nothing =>
      cases tokens with
      | nil => exact .of_found (found_of_run (run_branches_nil room))
      | cons token tokens =>
          have kind := udahan token rfl
          have run := run_branches_cons room token tokens
          rw [if_neg (by simp [kind]), if_neg (by simp [kind])] at run
          exact .of_found (found_of_run run)
  | _, _, _, @Branches.kalogak _ word newline inner _ body kind newline_kind body_lines =>
      have run := run_branches_cons room word (newline :: inner)
      rw [if_neg (by simp [kind]), if_pos kind] at run
      have first := Lines.reaches body_lines halts (room - blockRoom)
      refine (reaches_congr run).2 ((reaches_block newline_kind first id).bind (.of_found ?_))
      exact found_of_run rfl
  | _, _, _, @Branches.perhaps _ word _ tokens _ _ _ _ _ _ kind phrase newline_kind body others =>
      have run := run_branches_cons room word tokens
      rw [if_pos kind] at run
      have second := Lines.reaches body (others.halts halts) (room - blockRoom)
      have third := Branches.reaches others udahan room
      exact (reaches_congr run).2
        (reaches_branch phrase newline_kind second third (found_of_run rfl))

theorem Lines.reaches {tokens rest : List Token} {inBlock : Bool} {stmts : List Stmt}
    (lines : Lines allTargets tokens rest stmts) (halts : Halts inBlock rest) (room : Nat) :
    Reaches allTargets (room < Block.nesting stmts) (Reader.lines room inBlock) tokens rest
      (stmts.map some) := by
  match tokens, rest, stmts, lines with
  | _, _, _, .nil => exact .of_found (found_lines_halted halts)
  | _, _, _, .blank kind behind => exact reaches_lines_blank kind (Lines.reaches behind halts room)
  | _, _, _, .cons statement behind =>
      refine reaches_lines_cons statement ((Statement.reaches statement room).mono ?_)
        ((Lines.reaches behind halts room).mono ?_)
      · exact fun _ less => Nat.lt_of_lt_of_le less (Nat.le_max_left _ _)
      · exact fun _ less => Nat.lt_of_lt_of_le less (Nat.le_max_right _ _)

end

end BilingualScript.Grammar
