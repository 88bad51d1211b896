import BilingualScript.Evaluation.Fault

/-!
# Operators

The kind of an operator's token decides what it does; its lexeme is only shown in messages.
-/

namespace BilingualScript

def applyUnary (operator : Token) (operand : Value) : Except Fault Value :=
  match operator.kind with
  | .bang => .ok (.truth !operand.holds)
  | .minus =>
    match operand with
    | .number operand => .ok (.number operand.negate)
    | _ => .error (.operandNotNumber operator)
  | _ => .error (.unknownUnary operator)

def numeric? : Kind → Option (Number → Number → Value)
  | .minus => some fun left right => .number (left.subtract right)
  | .star => some fun left right => .number (left.multiply right)
  | .slash => some fun left right => .number (left.divide right)
  | .percent => some fun left right => .number (left.remainder right)
  | .greater => some fun left right => .truth (right.below left)
  | .greaterEqual => some fun left right => .truth (right.atMost left)
  | .less => some fun left right => .truth (left.below right)
  | .lessEqual => some fun left right => .truth (left.atMost right)
  | _ => none

def applyPlus (operator : Token) : Value → Value → Except Fault Value
  | .number left, .number right => .ok (.number (left.add right))
  | .text left, .text right => .ok (.text (left ++ right))
  | _, _ => .error (.operandsMismatched operator)

def applyBinary (operator : Token) (left right : Value) : Except Fault Value :=
  match operator.kind with
  | .equalEqual => .ok (.truth (left.equals right))
  | .bangEqual => .ok (.truth !(left.equals right))
  | .plus => applyPlus operator left right
  | kind =>
    match numeric? kind with
    | none => .error (.unknownBinary operator)
    | some operation =>
      match left, right with
      | .number left, .number right => .ok (operation left right)
      | _, _ => .error (.operandsNotNumbers operator)

end BilingualScript
