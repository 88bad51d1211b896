import BilingualScript.CommandLine.Options
import BilingualScript.Prompt
import BilingualScript.Source

/-!
# The command line

What the program writes, and with which status it ends, for given arguments, files and
input, and for the calls that it may open.
-/

namespace BilingualScript

structure Outcome where
  status : Nat
  stdout : String
  stderr : String
  deriving DecidableEq, Repr, Inhabited

namespace CommandLine

/-! ## Texts -/

def usage : String := "usage: jaksel [-h] [--tokens] [--ast] [file]\n"

def help : String :=
  usage ++
  "\nJaksel language interpreter.\n" ++
  "\npositional arguments:\n" ++
  "  file        file to interpret and run (if empty, goes to command-line mode)\n" ++
  "\noptions:\n" ++
  "  -h, --help  show this help message and exit\n" ++
  "  --tokens    print the token stream instead of running\n" ++
  "  --ast       print the syntax tree instead of running\n"

def intro : String :=
  "Jaksel interpreter :: Python backend\n" ++
  "Type 'help' for more information, 'exit' to quit.\n"

def printed (texts : List String) : String := String.join (texts.map (· ++ "\n"))

def rendered (console : Console) (reports : List Report) : String :=
  String.join (reports.map (Report.render console))

/-! ## Statuses -/

def usageErrorStatus : Nat := 2

def dataErrorStatus : Nat := 65

def softwareErrorStatus : Nat := 70

def status (diagnostics : Diagnostics) : Nat :=
  if diagnostics.hadError then dataErrorStatus
  else if diagnostics.hadRuntimeError then softwareErrorStatus
  else 0

/-! ## Files -/

def interrupted (style : Text.Style) (stderr : String) (interruption : Interruption) : Outcome :=
  let (shown, aftermath) := Guard.handle ⟨style, true⟩ interruption
  ⟨aftermath.status, "", stderr ++ shown⟩

def processed (style : Text.Style) (calls : Nat) (options : Options) (path source : String) :
    Outcome :=
  let console : Console := ⟨path, style⟩
  if options.tokens then
    let read := Session.initial.tokens source
    ⟨status read.session.diagnostics, printed (read.value.toList.map Token.dump),
      rendered console read.reports⟩
  else if options.ast then
    let read := Session.initial.program calls source
    let stderr := rendered console read.reports
    match read.value.dump? calls with
    | none => interrupted style stderr .stackExhausted
    | some dump => ⟨status read.session.diagnostics, printed [dump], stderr⟩
  else
    let (session, transcript) := Session.initial.run calls source
    ⟨status session.diagnostics, printed transcript.outputs,
      rendered console transcript.reports⟩

def onFile (style : Text.Style) (calls : Nat) (options : Options) (path : String)
    (octets? : Option (List UInt8)) : Outcome :=
  match Source.load path octets? with
  | .ok source => processed style calls options path source
  | .error fault => interrupted style "" (fault.interruption style)

/-! ## Input at the prompt -/

/-- The lines of an input; a newline at its end starts no further line. -/
def inputLines (input : String) : List String :=
  let lines := (Text.lines input.toList).map String.ofList
  if lines.getLast? = some "" then lines.dropLast else lines

def replied (style : Text.Style) (reply : Reply) : String × String :=
  (reply.printed ++ printed reply.transcript.outputs,
    rendered ⟨Source.promptPath, style⟩ reply.transcript.reports)

def converse (style : Text.Style) (calls : Nat) (prompt : Prompt) :
    List String → String × String
  | [] => ("", "")
  | line :: rest =>
    let (next, reply) := prompt.feed calls line
    let (stdout, stderr) := replied style reply
    let (stdoutRest, stderrRest) :=
      if reply.stop = some true then ("", "") else converse style calls next rest
    (prompt.mark ++ stdout ++ stdoutRest, stderr ++ stderrRest)

/-- The loop that feeds the prompt takes a call of its own. -/
def atPrompt (style : Text.Style) (calls : Nat) (input : String) : Outcome :=
  let (stdout, stderr) :=
    converse style (calls - 1) .initial (inputLines input ++ [Prompt.endLine])
  ⟨0, intro ++ stdout, stderr⟩

/-! ## The whole program -/

def refused (error : UsageError) : Outcome :=
  ⟨usageErrorStatus, "", usage ++ "jaksel: error: " ++ error.message ++ "\n"⟩

def helped : Outcome := ⟨0, help, ""⟩

/-- The host lets a thousand calls be open at once, of which the program's own start takes two. -/
def startingCalls : Nat := 998

def outcome (style : Text.Style) (calls : Nat) (files : String → Option (List UInt8))
    (input : String) (arguments : List String) : Outcome :=
  match Options.parse arguments with
  | .error error => refused error
  | .ok .help => helped
  | .ok (.run options) =>
    match options.file with
    | none => atPrompt style calls input
    | some path => onFile style calls options path (files path)

end CommandLine

end BilingualScript
