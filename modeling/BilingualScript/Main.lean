import BilingualScript.CommandLine.Basic

/-!
# The program

Reads the arguments, the file that they name or the input, and writes what the command line
says.
-/

namespace BilingualScript.Terminal

/-- Emphasis goes to a terminal only. -/
def chosenStyle : IO Text.Style := do
  let stderr ← IO.getStderr
  return if ← stderr.isTty then .terminal else .plain

def readOctets? (path : String) : IO (Option (List UInt8)) := do
  try
    let octets ← IO.FS.readBinFile path
    return some octets.toList
  catch _ => return none

def report (outcome : Outcome) : IO UInt32 := do
  IO.print outcome.stdout
  IO.eprint outcome.stderr
  return outcome.status.toUInt32

partial def converse (style : Text.Style) (calls : Nat) (prompt : Prompt) : IO Unit := do
  let stdout ← IO.getStdout
  IO.print prompt.mark
  stdout.flush
  let line ← (← IO.getStdin).getLine
  let entered := if line.isEmpty then Prompt.endLine else (line.dropSuffix "\n").toString
  let (next, reply) := prompt.feed calls entered
  let (shown, reported) := CommandLine.replied style reply
  IO.print shown
  stdout.flush
  IO.eprint reported
  unless reply.stop = some true do
    converse style calls next

end BilingualScript.Terminal

open BilingualScript Terminal in
def main (arguments : List String) : IO UInt32 := do
  let style ← chosenStyle
  let calls := CommandLine.startingCalls
  match Options.parse arguments with
  | .error error => report (CommandLine.refused error)
  | .ok .help => report CommandLine.helped
  | .ok (.run options) =>
    match options.file with
    | some path => report (CommandLine.onFile style calls options path (← readOctets? path))
    | none =>
      IO.print CommandLine.intro
      converse style (calls - 1) .initial
      return 0
