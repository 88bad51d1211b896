import BilingualScript.Report.Host
import BilingualScript.Text.Lines
import BilingualScript.Text.Utf8

/-!
# Source files

The text of a program file: octets decoded as UTF-8, with all line endings alike.
-/

namespace BilingualScript.Source

inductive Fault where
  | reserved (path : String)
  | notOpened (path : String)
  | nullInPath
  | notDecoded (fault : Text.Utf8.Fault)
  deriving DecidableEq, Repr, Inhabited

def promptPath : String := "<in>"

def load (path : String) (octets? : Option (List UInt8)) : Except Fault String :=
  if path = promptPath then .error (.reserved path)
  else if path.toList.contains '\x00' then .error .nullInPath
  else
    match octets? with
    | none => .error (.notOpened path)
    | some octets =>
      match Text.Utf8.decode octets with
      | .ok chars => .ok (.ofList (Text.unifyNewlines chars))
      | .error fault => .error (.notDecoded fault)

def Fault.interruption (style : Text.Style) : Fault → Interruption
  | .reserved path => .ofTemplate style "'\x7b\x7d' is a reserved filename" [path] false
  | .notOpened path => .ofTemplate style "'\x7b\x7d' could not be opened" [path] false
  | .nullInPath => .foreign ⟨"ValueError", "embedded null byte"⟩
  | .notDecoded fault => .foreign ⟨"UnicodeDecodeError", fault.message⟩

end BilingualScript.Source
