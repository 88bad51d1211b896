import BilingualScript.Text.Style
import BilingualScript.Text.Template

/-!
# Host errors

Errors that are about the host and not about a program: an unreadable file, an interrupt, a
failure of another component.  A guard shows such errors and decides what becomes of them.
-/

namespace BilingualScript

structure ForeignError where
  name : String
  text : String
  deriving DecidableEq, Repr, Inhabited

namespace ForeignError

def ofValue (text : String) : ForeignError := ⟨"ValueError", text⟩

def ofItem : Text.Item.Fault → ForeignError
  | .missingCharacter => ⟨"IndexError", "string index out of range"⟩
  | .missingPart => ⟨"IndexError", "tuple index out of range"⟩
  | .textKey => ⟨"TypeError", "string indices must be integers, not 'str'"⟩
  | .rowKey => ⟨"TypeError", "tuple indices must be integers or slices, not str"⟩
  | .unknownKey key => ⟨"KeyError", key.shown⟩
  | .noMember kind name =>
    ⟨"AttributeError", "'" ++ kind.fullName ++ "' object has no attribute '" ++ name ++ "'"⟩
  | .noKindMember kind name =>
    ⟨"AttributeError", "type object '" ++ kind.fullName ++ "' has no attribute '" ++ name ++ "'"⟩
  | .unsetMember name => ⟨"AttributeError", name⟩
  | .noParts kind => ⟨"TypeError", "'" ++ kind.fullName ++ "' object is not subscriptable"⟩
  | .noSpecialKind kind => ⟨"TypeError", "type '" ++ kind.fullName ++ "' is not subscriptable"⟩
  | .alreadySpecial kind key =>
    ⟨"TypeError", (Text.Item.special kind key).shown ++ " is not a generic class"⟩

/-- What is wrong with a layout.  A code that is no character is out of bounds. -/
def ofLayout (item : Text.Item.Kind) : Text.Layout.Fault → ForeignError
  | .noCharacter => ⟨"OverflowError", Text.Layout.Fault.noCharacter.message item.fullName⟩
  | fault => .ofValue (fault.message item.fullName)

def ofTemplate : Text.Template.Fault → ForeignError
  | .missingArgument number =>
    ⟨"IndexError",
      "Replacement index " ++ toString number ++ " out of range for positional args tuple"⟩
  | .unknownName name => ⟨"KeyError", Text.quoted name⟩
  | .item fault => .ofItem fault
  | .loneOpening => .ofValue "Single '\x7b' encountered in format string"
  | .loneClosing => .ofValue "Single '\x7d' encountered in format string"
  | .openingInPlace => .ofValue "unexpected '\x7b' in field name"
  | .unclosedPlace => .ofValue "expected '\x7d' before end of string"
  | .missingConversion => .ofValue "end of string while looking for conversion specifier"
  | .unknownConversion conversion =>
    .ofValue ("Unknown conversion specifier " ++ Text.Layout.shown 127 conversion)
  | .expectColon => .ofValue "expected ':' after conversion specifier"
  | .unclosedLayout => .ofValue "unmatched '\x7b' in format spec"
  | .badStep => .ofValue "Only '.' or '[' may follow ']' in format field specifier"
  | .emptyStep => .ofValue "Empty attribute in format string"
  | .numberAfterNone =>
    .ofValue "cannot switch from automatic field numbering to manual field specification"
  | .noneAfterNumber =>
    .ofValue "cannot switch from manual field specification to automatic field numbering"
  | .tooDeep => .ofValue "Max string recursion exceeded"
  | .layout item fault => .ofLayout item fault
  | .withoutLayouts item =>
    ⟨"TypeError", "unsupported format string passed to " ++ item.fullName ++ ".__format__"⟩

def description (error : ForeignError) : String :=
  "unknown error: '" ++ error.name ++ ": " ++ error.text ++ "'"

end ForeignError

/-- An error that is shown to the user.  An internal one is not the user's fault. -/
structure HostError where
  message : String
  internal : Bool
  deriving DecidableEq, Repr, Inhabited

namespace HostError

def ofTemplate (style : Text.Style) (template : String) (arguments : List String)
    (internal : Bool) : Except ForeignError HostError :=
  match Text.Template.fill template (arguments.map style.bold) with
  | .ok message => .ok ⟨message, internal⟩
  | .error fault => .error (.ofTemplate fault)

def render (style : Text.Style) (error : HostError) : String :=
  (if error.internal then style.alarm "[internal] " else "") ++ style.alarm "error: " ++
    error.message ++ "\n"

end HostError

/-! ## Guards -/

inductive Interruption where
  | exit
  | keyboard
  | stackExhausted
  | shown (error : HostError)
  | foreign (error : ForeignError)
  deriving DecidableEq, Repr, Inhabited

/-- What becomes of an interruption: it ends here, goes on as it is, is replaced by the end
of the program with a status, or is replaced by another error. -/
inductive Aftermath where
  | swallowed
  | unchanged
  | exit (status : Nat)
  | raised (error : ForeignError)
  deriving DecidableEq, Repr, Inhabited

def hostErrorStatus : Nat := 1

def Aftermath.status : Aftermath → Nat
  | .exit status => status
  | .swallowed => 0
  | .unchanged | .raised _ => hostErrorStatus

def Interruption.ofTemplate (style : Text.Style) (template : String) (arguments : List String)
    (internal : Bool) : Interruption :=
  match HostError.ofTemplate style template arguments internal with
  | .ok error => .shown error
  | .error error => .foreign error

/-- Where host errors are shown, and whether one that has been shown ends the program. -/
structure Guard where
  style : Text.Style
  fatal : Bool
  deriving DecidableEq, Repr, Inhabited

namespace Guard

def present (guard : Guard) (error : HostError) (otherwise : Aftermath) : String × Aftermath :=
  (error.render guard.style, if guard.fatal then .exit hostErrorStatus else otherwise)

/-- Shows a message that is itself a template without arguments. -/
def announce (guard : Guard) (template : String) (internal : Bool) (otherwise : Aftermath) :
    String × Aftermath :=
  match HostError.ofTemplate guard.style template [] internal with
  | .ok error => guard.present error otherwise
  | .error error => ("", .raised error)

def handle (guard : Guard) : Interruption → String × Aftermath
  | .exit => ("", .unchanged)
  | .keyboard => guard.announce "keyboard interrupt" false .swallowed
  | .stackExhausted => guard.announce "maximum recursion depth exceeded" false .swallowed
  | .shown error => guard.present error .swallowed
  | .foreign error => guard.announce error.description true .unchanged

end Guard

end BilingualScript
