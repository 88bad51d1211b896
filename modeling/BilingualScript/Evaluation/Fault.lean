import BilingualScript.Program.Basic

/-!
# Runtime faults

What can go wrong while a program runs, and where it is reported.
-/

namespace BilingualScript

inductive Fault where
  | undefinedVariable (name : Token)
  | operandNotNumber (operator : Token)
  | operandsNotNumbers (operator : Token)
  | operandsMismatched (operator : Token)
  | unknownUnary (operator : Token)
  | unknownBinary (operator : Token)
  | tooDeep
  deriving DecidableEq, Repr, Inhabited

namespace Fault

/-- The token at fault.  Depth is a matter of the whole statement. -/
def token? : Fault → Option Token
  | .undefinedVariable token | .operandNotNumber token | .operandsNotNumbers token
  | .operandsMismatched token | .unknownUnary token | .unknownBinary token => some token
  | .tooDeep => none

theorem token?_eq_none_iff (fault : Fault) : fault.token? = none ↔ fault = .tooDeep := by
  cases fault <;> simp [token?]

def message : Fault → String
  | .undefinedVariable name => "Undefined variable '" ++ name.lexeme ++ "'."
  | .operandNotNumber _ => "Operand must be a number."
  | .operandsNotNumbers _ => "Operands must be a number."
  | .operandsMismatched _ => "Operands must be two numbers or two strings."
  | .unknownUnary operator => "Unknown unary operator '" ++ operator.lexeme ++ "'."
  | .unknownBinary operator => "Unknown binary operator '" ++ operator.lexeme ++ "'."
  | .tooDeep => "Expression nested too deeply."

end Fault

structure Failure where
  fault : Fault
  token : Token
  deriving DecidableEq, Repr, Inhabited

/-- A fault in a statement that is reported, as a whole, at a token. -/
def Fault.within (fault : Fault) (token : Token) : Failure := ⟨fault, fault.token?.getD token⟩

end BilingualScript
