/-!
# Lines

A text is its lines joined by newlines; a text without a newline is one line.
-/

namespace BilingualScript.Text

def lines (text : List Char) : List (List Char) := text.splitOn '\n'

def unlines (lines : List (List Char)) : List Char := ['\n'].intercalate lines

theorem lines_ne_nil (text : List Char) : lines text ≠ [] := List.splitOnP_ne_nil _ text

@[simp] theorem unlines_lines (text : List Char) : unlines (lines text) = text :=
  List.intercalate_splitOn '\n'

/-- Every line ending as one newline: a carriage return counts as one, and a newline right
behind it belongs to it. -/
def unifyNewlines (text : List Char) : List Char :=
  (List.zip ('\n' :: text) text).filterMap fun (previous, char) =>
    if char = '\r' then some '\n'
    else if char = '\n' ∧ previous = '\r' then none
    else some char

end BilingualScript.Text
