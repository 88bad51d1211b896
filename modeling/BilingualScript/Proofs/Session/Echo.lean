import BilingualScript.Proofs.Number.Positional
import BilingualScript.Proofs.Session.Loading

/-!
# What is printed reads back

What a program prints of a value is an expression for that value, unless the value is a text, no
finite number or a number that is written with an exponent.
-/

namespace BilingualScript

open Grammar

/-! ## Texts of numbers are numerals -/

theorem Lexed.literal_of_read {text : List Char} {number : Number} (numeral : Numeral text)
    (read : Number.readMagnitude? false text = some number) :
    literal .number text = .number number := by
  cases numeral with
  | whole nonempty digits =>
      have isDigit := isDigit_of_mem digits
      obtain ⟨front, behind⟩ := @Number.digits_append text [] isDigit (by simp)
      have whole := @Number.readMagnitude?_whole text [] false isDigit nonempty (by simp)
      rw [List.append_nil] at front behind whole
      rw [whole] at read
      obtain rfl := Option.some.inj read
      simp [literal, front, behind, Decimal.ofParts]
  | @point whole fraction nonempty digits _ digits' =>
      have isDigit := isDigit_of_mem digits
      obtain ⟨front, behind⟩ := @Number.digits_append whole ('.' :: fraction) isDigit
        (by simp)
      rw [Number.readMagnitude?_fraction false isDigit nonempty (isDigit_of_mem digits')] at read
      obtain rfl := Option.some.inj read
      simp [literal, front, behind, Decimal.ofParts]

namespace Number

/-- The numbers that are written without an exponent: both zeros, and those of a magnitude from a
ten-thousandth up to the limit of whole numbers. -/
def IsPositional (number : Number) : Prop :=
  number.isZero = true ∨
    leastPositional.atMost number.magnitude = true ∧ number.magnitude.below wholeBound = true

theorem atMost_nan (number : Number) : number.atMost nan = false := by
  unfold atMost compares
  cases number.place? <;> rfl

theorem IsPositional.finite {number : Number} (positional : number.IsPositional) :
    ∃ negative rank, number = .finite negative rank ∧
      (Number.finite false rank).IsPositional := by
  cases number with
  | nan =>
      rcases positional with zero | ⟨least, _⟩
      · exact (Bool.false_ne_true (isZero_nan.symm.trans zero)).elim
      · exact (Bool.false_ne_true ((atMost_nan _).symm.trans least)).elim
  | infinite negative =>
      have most : (Number.infinite false).below wholeBound = false := by decide +kernel
      rcases positional with zero | ⟨_, small⟩
      · exact (Bool.false_ne_true ((isZero_infinite negative).symm.trans zero)).elim
      · exact (Bool.false_ne_true (most.symm.trans small)).elim
  | finite negative rank =>
      refine ⟨negative, rank, rfl, positional.imp (fun zero => ?_) id⟩
      rwa [isZero_finite] at zero ⊢

theorem numeral_displayChars {rank : Fin rankCount}
    (positional : (finite false rank).IsPositional) :
    Numeral (finite false rank).displayChars := by
  have digit {char : Char} : char.isDigit = true → IsDigit char := (isDigit_iff char).1
  rcases displayChars_cases rank with ⟨whole, _, shown⟩ | ⟨nonzero, shown⟩
  · rw [shown]
    exact .whole Nat.toDigits_ne_nil fun char mem =>
      digit (Nat.isDigit_of_mem_toDigits (by decide) (by decide) mem)
  · rcases positional with zero | ⟨least, most⟩
    · exact absurd ((isZero_finite false rank).1 zero) nonzero
    · rw [shown, Decimal.text_shortest nonzero ((atMost_leastPositional rank).1 least)
        ((below_wholeBound rank).1 most)]
      obtain ⟨whole, fraction, text, ⟨some, digits⟩, ⟨some', digits'⟩, _⟩ :=
        exists_parts_positional (Decimal.shortest_spec rank).2
          (Decimal.digits_shortest_ne_nil nonzero)
      rw [text]
      exact .point some (fun char mem => digit (digits char mem)) some'
        fun char mem => digit (digits' char mem)

theorem displayChars_negative (rank : Fin rankCount) :
    (finite true rank).displayChars = '-' :: (finite false rank).displayChars := by
  have whole : (finite true rank).whole? = (finite false rank).whole? := rfl
  unfold displayChars
  rw [whole]
  split
  · split <;> rfl
  · rfl

end Number

/-! ## Lexing numerals -/

theorem Segment.cut_numeral {text : List Char} (numeral : Numeral text) :
    cut text = [⟨.token .number, text⟩] := by
  have leads : Leads ⟨.token .number, text⟩ [] :=
    .token (.number numeral) fun _ _ _ front => by simpa using front.length_le
  have segmentation := Segmentation.cons leads .nil
  rw [List.append_nil] at segmentation
  exact segmentation.eq_cut.symm

theorem Segment.cut_minus (rest : List Char) :
    cut ('-' :: rest) = ⟨.token .minus, ['-']⟩ :: cut rest :=
  cut_of_first rfl

/-! ## Texts that are expressions -/

theorem Grammar.Phrase.alone {allTargets : Bool} {tokens rest : List Token} {expr : Expr}
    (phrase : Phrase allTargets .unary tokens rest expr) :
    Phrase allTargets .assignment tokens rest expr := by
  have product : Phrase allTargets (.operands .product) tokens rest expr := .operands phrase .last
  have sum : Phrase allTargets (.operands .sum) tokens rest expr := .operands product .last
  exact .equality (.operands (.operands sum .last) .last)

theorem Loads.of_phrase {room : Nat} {text : String} {expr : Expr}
    (clean : (Lexed.ofText text).faults = [])
    (phrase : Phrase false .unary (tokensOf text) [] expr)
    (fits : expr.nesting + Reader.expressionRoom ≤ room) :
    Loads room text [.expression expr] where
  clean := clean
  sentence := .cons (.expression phrase.alone .stop) .nil
  fits := by simpa [Block.nesting, Stmt.nesting] using fits

theorem loads_numeral {room : Nat} {text : String} {number : Number}
    (fits : Reader.expressionRoom + 1 ≤ room) (numeral : Numeral text.toList)
    (read : Number.readMagnitude? false text.toList = some number) :
    Loads room text [.expression (.literal (.number number))] := by
  have cut := Segment.cut_numeral numeral
  have literal := Lexed.literal_of_read numeral read
  have tokens : tokensOf text = [⟨.number, text, .number number, .start⟩] := by
    simp [tokensOf, Lexed.ofText, Lexed.ofChars, cut, Segment.place, Lexed.token?, literal]
  refine .of_phrase ?_ ?_ (by simpa [Expr.nesting, Nat.add_comm] using fits)
  · simp [Lexed.ofText, Lexed.ofChars, cut, Segment.place, Lexed.fault?]
  · rw [tokens]
    exact .primary (.literal (.inl rfl))

theorem loads_negated {room : Nat} {text : String} {chars : List Char} {number : Number}
    (fits : Reader.expressionRoom + 2 ≤ room) (negated : text.toList = '-' :: chars)
    (numeral : Numeral chars) (read : Number.readMagnitude? false chars = some number) :
    Loads room text
      [.expression (.unary ⟨.minus, "-", .hampa, .start⟩ (.literal (.number number)))] := by
  have cut : Segment.cut text.toList = [⟨.token .minus, ['-']⟩, ⟨.token .number, chars⟩] := by
    rw [negated, Segment.cut_minus, Segment.cut_numeral numeral]
  have literal := Lexed.literal_of_read numeral read
  have tokens : tokensOf text = [⟨.minus, "-", .hampa, .start⟩,
      ⟨.number, .ofList chars, .number number, Position.start.after ['-']⟩] := by
    simp [tokensOf, Lexed.ofText, Lexed.ofChars, cut, Segment.place, Lexed.token?, literal]
    rfl
  refine .of_phrase ?_ ?_ (by simpa [Expr.nesting, Nat.add_comm] using fits)
  · simp [Lexed.ofText, Lexed.ofChars, cut, Segment.place, Lexed.fault?]
  · rw [tokens]
    exact .unary (.inr rfl) (.primary (.literal (.inl rfl)))

/-! ## Values that read back -/

def Value.ReadsBack : Value → Prop
  | .hampa | .truth _ => True
  | .number value => value.IsPositional
  | .text _ => False

theorem Number.loads_display {room : Nat} {number : Number}
    (fits : Reader.expressionRoom + 2 ≤ room) (positional : number.IsPositional) :
    ∃ expr, Loads room number.display [.expression expr] ∧
      ∀ depth scope, (expr.eval (depth + 2)).run scope = (.ok (.number number), scope) := by
  obtain ⟨negative, rank, rfl, magnitude⟩ := positional.finite
  have numeral := numeral_displayChars magnitude
  have read := readMagnitude?_displayChars rank
  have chars (negative : Bool) : (finite negative rank).display.toList =
      (finite negative rank).displayChars := String.toList_ofList
  cases negative with
  | false =>
      rw [← chars false] at numeral read
      exact ⟨_, loads_numeral (Nat.le_of_succ_le fits) numeral read, fun _ _ => rfl⟩
  | true =>
      have negated := (chars true).trans (displayChars_negative rank)
      exact ⟨_, loads_negated fits negated numeral read, fun _ _ => rfl⟩

theorem Value.loads_display {room : Nat} {value : Value} (fits : Reader.expressionRoom + 2 ≤ room)
    (readsBack : value.ReadsBack) :
    ∃ expr, Loads room value.display [.expression expr] ∧
      ∀ depth scope, (expr.eval (depth + 2)).run scope = (.ok value, scope) := by
  have alone (value : Value) : (Expr.literal value).nesting + Reader.expressionRoom ≤ room := by
    rw [Expr.nesting]
    omega
  cases value with
  | hampa => exact ⟨.literal .hampa, .of_phrase (by decide)
      (.primary (.hampa rfl)) (alone _), fun _ _ => rfl⟩
  | truth value =>
      cases value with
      | false => exact ⟨.literal (.truth false), .of_phrase (by decide)
          (.primary (.impossible rfl)) (alone _), fun _ _ => rfl⟩
      | true => exact ⟨.literal (.truth true), .of_phrase (by decide)
          (.primary (.ril rfl)) (alone _), fun _ _ => rfl⟩
  | number number => exact number.loads_display fits readsBack
  | text => exact readsBack.elim

/-- In every session the text that a program prints of such a value is read without a report, as one
expression, and the value of that is the value that was printed.  All this needs is room for one
sign. -/
theorem Session.program_reads_display (session : Session) {calls : Nat}
    (fits : readingCalls + Reader.expressionRoom + 2 ≤ calls) {value : Value}
    (readsBack : value.ReadsBack) :
    (session.program calls value.display).reports = [] ∧
      ∃ expr, (session.program calls value.display).value = [some (.expression expr)] ∧
        ∀ scope, (expr.value (calls - runningCalls)).run scope = (.ok value, scope) := by
  have room : Reader.expressionRoom + 2 ≤ calls - readingCalls := by omega
  obtain ⟨expr, loads, evaluates⟩ := value.loads_display room readsBack
  refine ⟨(session.program_reports_eq_nil_iff_loads _ _).2 ⟨_, loads⟩, expr, ?_, fun scope => ?_⟩
  · rw [program_value, Parsed.ofTokens_of_sentence loads.sentence loads.fits]
    rfl
  · have levels : 2 ≤ (calls - runningCalls) / levelRoom := by
      simp only [readingCalls, Reader.expressionRoom, runningCalls, levelRoom] at fits ⊢
      omega
    rw [Expr.value, ← Nat.sub_add_cancel levels]
    exact evaluates _ scope

/-- The negative number nearest to zero that is written without an exponent. -/
theorem Session.program_reads_display_of_negative :
    let value := Value.number Number.leastPositional.negate
    value.ReadsBack ∧ value.display = "-0.0001" ∧
      (initial.program 997 value.display).reports = [] ∧
      ∃ expr, (initial.program 997 value.display).value = [some (.expression expr)] ∧
        ∀ scope, (expr.value 993).run scope = (.ok value, scope) := by
  intro value
  have readsBack : value.ReadsBack := .inr (by decide +kernel)
  exact ⟨readsBack, by decide +kernel, program_reads_display initial (by decide) readsBack⟩

end BilingualScript
