/-!
# Emphasis

Emphasis in diagnostics: none, or the control sequences of a terminal.
-/

namespace BilingualScript.Text

inductive Style where
  | plain
  | terminal
  deriving DecidableEq, Repr, Inhabited

namespace Style

def select (code : String) : String := "\x1b[" ++ code ++ "m"

def between (style : Style) (codes : List String) (text : String) : String :=
  match style with
  | .plain => text
  | .terminal => String.join (codes.map select) ++ text ++ select "0"

def bold (style : Style) (text : String) : String := style.between ["1"] text

def alarm (style : Style) (text : String) : String := style.between ["1", "31"] text

@[simp] theorem bold_plain (text : String) : Style.plain.bold text = text := rfl

@[simp] theorem alarm_plain (text : String) : Style.plain.alarm text = text := rfl

end Style

end BilingualScript.Text
