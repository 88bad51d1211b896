import BilingualScript.Text.Digit
import BilingualScript.Text.Quoted

/-!
# Command-line options

The arguments of the program: at most one file name, and flags anywhere before `--`.  A long
flag may be shortened as long as it stays the only one with that beginning.
-/

namespace BilingualScript

inductive Flag where
  | help
  | tokens
  | ast
  deriving DecidableEq, Repr, Inhabited

namespace Flag

def all : List Flag := [.help, .tokens, .ast]

def long : Flag → String
  | .help => "--help"
  | .tokens => "--tokens"
  | .ast => "--ast"

def title : Flag → String
  | .help => "-h/--help"
  | flag => flag.long

end Flag

structure Options where
  file : Option String
  tokens : Bool
  ast : Bool
  deriving DecidableEq, Repr, Inhabited

inductive Request where
  | help
  | run (options : Options)
  deriving DecidableEq, Repr, Inhabited

inductive UsageError where
  | ambiguous (argument : String) (candidates : List Flag)
  | ignoredValue (flag : Flag) (value : String)
  | unrecognized (arguments : List String)
  deriving DecidableEq, Repr, Inhabited

def UsageError.message : UsageError → String
  | .ambiguous argument candidates =>
    "ambiguous option: " ++ argument ++ " could match " ++
      ", ".intercalate (candidates.map Flag.long)
  | .ignoredValue flag value =>
    "argument " ++ flag.title ++ ": ignored explicit argument " ++ Text.quoted value
  | .unrecognized arguments => "unrecognized arguments: " ++ " ".intercalate arguments

namespace Options

/-! ## Single arguments -/

inductive Item where
  | plain (text : String)
  | divider
  | flag (flag : Flag) (value : Option String)
  | helpLetter (value : Option String)
  | unknown (text : String)
  deriving DecidableEq, Repr, Inhabited

/-- A dash and digits of any script, perhaps with a point and digits behind it; a newline may
end it. -/
def looksNegative (chars : List Char) : Bool :=
  let chars := if chars.getLast? = some '\n' then chars.dropLast else chars
  match chars with
  | '-' :: rest =>
    let whole := rest.takeWhile Text.isDigit
    match rest.dropWhile Text.isDigit with
    | [] => !whole.isEmpty
    | '.' :: fraction => !fraction.isEmpty && fraction.all Text.isDigit
    | _ => false
  | _ => false

def splitValue (chars : List Char) : List Char × Option String :=
  let name := chars.takeWhile (· != '=')
  if name.length < chars.length then (name, some (.ofList (chars.drop (name.length + 1))))
  else (name, none)

def classifyLong (argument : String) : Except UsageError Item :=
  let (name, value) := splitValue argument.toList
  match Flag.all.find? (·.long.toList == name) with
  | some flag => .ok (.flag flag value)
  | none =>
    match Flag.all.filter fun flag => name.isPrefixOf flag.long.toList with
    | [flag] => .ok (.flag flag value)
    | [] => .ok (if argument.toList.contains ' ' then .plain argument else .unknown argument)
    | candidates => .error (.ambiguous argument candidates)

def classifyShort (argument : String) : Item :=
  match argument.toList with
  | ['-', 'h'] => .helpLetter none
  | '-' :: 'h' :: '=' :: value => .helpLetter (some (.ofList value))
  | '-' :: 'h' :: value => .helpLetter (some (.ofList value))
  | chars =>
    if looksNegative chars || chars.contains ' ' then .plain argument else .unknown argument

def classify (argument : String) : Except UsageError Item :=
  match argument.toList with
  | ['-'] => .ok (.plain argument)
  | '-' :: '-' :: _ => classifyLong argument
  | '-' :: _ => .ok (classifyShort argument)
  | _ => .ok (.plain argument)

/-- Behind the first `--` every argument is plain. -/
def items : List String → Except UsageError (List Item)
  | [] => .ok []
  | "--" :: rest => .ok (.divider :: rest.map .plain)
  | argument :: rest => do
    let item ← classify argument
    let others ← items rest
    pure (item :: others)

/-! ## All arguments -/

/-- The options so far, whether the file name is settled, and the arguments that fit
nowhere. -/
structure Progress where
  options : Options
  settled : Bool
  extras : List String
  deriving DecidableEq, Repr, Inhabited

def Progress.initial : Progress := ⟨⟨none, false, false⟩, false, []⟩

def Progress.settle (progress : Progress) (file : Option String) : Progress :=
  { progress with options := { progress.options with file }, settled := true }

def Progress.leave (progress : Progress) (argument : String) : Progress :=
  { progress with extras := progress.extras ++ [argument] }

def Progress.set (progress : Progress) (flag : Flag) : Progress :=
  let options := progress.options
  { progress with
    options := { options with
      tokens := options.tokens || flag == .tokens
      ast := options.ast || flag == .ast } }

/-- Goes through the arguments.  A divider next to the file name belongs to it. -/
def collect (progress : Progress) : List Item → Except UsageError Request
  | [] =>
    if progress.extras.isEmpty then .ok (.run progress.options)
    else .error (.unrecognized progress.extras)
  | .helpLetter none :: _ => .ok .help
  | .helpLetter (some value) :: _ =>
    match value.toList.dropWhile (· == 'h') with
    | [] => if value = "" then .error (.ignoredValue .help value) else .ok .help
    | rest => .error (.ignoredValue .help (.ofList rest))
  | .flag flag (some value) :: _ => .error (.ignoredValue flag value)
  | .flag .help none :: _ => .ok .help
  | .flag flag none :: rest => collect (progress.set flag) rest
  | .unknown text :: rest => collect (progress.leave text) rest
  | .plain text :: .divider :: rest =>
    if progress.settled then collect ((progress.leave text).leave "--") rest
    else collect (progress.settle (some text)) rest
  | .plain text :: rest =>
    if progress.settled then collect (progress.leave text) rest
    else collect (progress.settle (some text)) rest
  | .divider :: .plain text :: rest =>
    if progress.settled then collect ((progress.leave "--").leave text) rest
    else collect (progress.settle (some text)) rest
  | .divider :: rest =>
    if progress.settled then collect (progress.leave "--") rest
    else collect (progress.settle none) rest

def parse (arguments : List String) : Except UsageError Request := do
  let items ← items arguments
  collect .initial items

end Options

end BilingualScript
