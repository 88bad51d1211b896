import BilingualScript.Session
import BilingualScript.Text.Blank

/-!
# The prompt

The prompt takes a program line by line.  Each entry runs as soon as it leaves no if
statement open; until then its lines are kept.
-/

namespace BilingualScript

/-- A prompt with the lines of the entry that is still open and the mark that it shows to ask
for a line. -/
structure Prompt where
  session : Session
  pending : List String
  mark : String
  deriving DecidableEq, Repr, Inhabited

/-- What a prompt does with a line: whether it wants to end, if it says so, what it prints
itself, and what the program shows. -/
structure Reply where
  stop : Option Bool
  printed : String
  transcript : Transcript
  deriving DecidableEq, Repr, Inhabited

namespace Prompt

def entryMark : String := "> "

def waitingMark : String := ". "

def initial : Prompt := ⟨.initial, [], entryMark⟩

def endLine : String := "EOF"

def helpText : String :=
  "Welcome to the Jaksel interpreter!\n\n" ++
  "Declare a variable with 'literally x itu 10' and print it with 'spill x'.\n" ++
  "Values are numbers, \"strings\", ril, impossible and hampa. Conditionals\n" ++
  "span several lines:\n\n" ++
  "  kalo x > 5\n" ++
  "    spill \"big\"\n" ++
  "  perhaps x > 1\n" ++
  "    spill \"medium\"\n" ++
  "  kalogak\n" ++
  "    spill \"small\"\n" ++
  "  udahan\n\n" ++
  "Variables stay defined for the rest of the session.\n"

def silent : Transcript := ⟨[], []⟩

/-- Adds a line to the entry, and runs the entry if it is complete, a call farther down. -/
def enter (prompt : Prompt) (calls : Nat) (line : String) : Prompt × Reply :=
  let lines := prompt.pending ++ [line]
  let source := "\n".intercalate lines
  if needsContinuation source then
    ({ prompt with pending := lines, mark := waitingMark }, ⟨none, "", silent⟩)
  else
    let (session, transcript) := prompt.session.run (calls - 1) source
    (⟨session.reset, [], entryMark⟩, ⟨none, "", transcript⟩)

/-- Takes a line.  The end of the input always ends the prompt; `help` and `exit` are
commands between entries only; an empty line counts only inside an entry. -/
def feed (prompt : Prompt) (calls : Nat) (line : String) : Prompt × Reply :=
  let between := prompt.pending.isEmpty
  let word := String.ofList (Text.trim line.toList)
  if line = "" then
    let pending := if between then [] else prompt.pending ++ [""]
    ({ prompt with pending }, ⟨some false, "", silent⟩)
  else if line = endLine then (prompt, ⟨some true, "\n", silent⟩)
  else if between ∧ word = "help" then (prompt, ⟨none, helpText, silent⟩)
  else if between ∧ word = "exit" then (prompt, ⟨some true, "", silent⟩)
  else prompt.enter (calls - 1) line

end Prompt

end BilingualScript
