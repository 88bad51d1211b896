import BilingualScript.Text.Item.Access
import BilingualScript.Text.Layout.Count
import BilingualScript.Text.Layout.Words

/-!
# Templates

A template is a text with places for arguments in braces: `{}` for the next argument, `{2}`
for the one with that number, counted from zero.  A place may go on to a part of it, as in
`{2[0]}`, or to a member, ask for quotes, as in `{!r}`, and give a layout, as in `{:>8}`, which
may hold places itself.  A brace that is meant as such is written twice.  A template uses either
numbered places or unnumbered ones.

Places are filled from left to right, so the first mistake is the one that is met first.
-/

namespace BilingualScript.Text.Template

inductive Fault where
  | missingArgument (number : Nat)
  | unknownName (name : String)
  | item (fault : Item.Fault)
  | loneOpening
  | loneClosing
  | openingInPlace
  | unclosedPlace
  | missingConversion
  | unknownConversion (conversion : Char)
  | expectColon
  | unclosedLayout
  | badStep
  | emptyStep
  | numberAfterNone
  | noneAfterNumber
  | tooDeep
  | layout (item : Item.Kind) (fault : Layout.Fault)
  | withoutLayouts (item : Item.Kind)
  deriving DecidableEq, Repr, Inhabited

/-! ## Places -/

/-- A place as it is written: what it names, the quotes it asks for and the layout. -/
structure Place where
  name : List Char
  conversion : Option Char
  layout : List Char
  deriving DecidableEq, Repr, Inhabited

def endsName (char : Char) : Bool := char == '{' || char == '}' || char == '!' || char == ':'

def cutName (bracketed : Bool) : List Char → List Char × List Char
  | [] => ([], [])
  | char :: rest =>
    if !bracketed && endsName char then ([], char :: rest)
    else
      let (name, rest) := cutName (if bracketed then char != ']' else char == '[') rest
      (char :: name, rest)

/-- The layout at the end of a place inside of which a number of braces are open, and what
follows the place. -/
def cutLayout : Nat → List Char → Except Fault (List Char × List Char)
  | _, [] => .error .unclosedLayout
  | 0, '}' :: rest => .ok ([], rest)
  | depth + 1, '}' :: rest => (cutLayout depth rest).map fun (layout, rest) => ('}' :: layout, rest)
  | depth, '{' :: rest =>
    (cutLayout (depth + 1) rest).map fun (layout, rest) => ('{' :: layout, rest)
  | depth, char :: rest => (cutLayout depth rest).map fun (layout, rest) => (char :: layout, rest)

def cutConverted (name : List Char) (conversion : Char) :
    List Char → Except Fault (Place × List Char)
  | [] => .error .unclosedLayout
  | '}' :: rest => .ok (⟨name, some conversion, []⟩, rest)
  | ':' :: rest =>
    (cutLayout 0 rest).map fun (layout, rest) => (⟨name, some conversion, layout⟩, rest)
  | _ => .error .expectColon

def cutPlace (chars : List Char) : Except Fault (Place × List Char) :=
  let (name, rest) := cutName false chars
  match rest with
  | '}' :: rest => .ok (⟨name, none, []⟩, rest)
  | ':' :: rest => (cutLayout 0 rest).map fun (layout, rest) => (⟨name, none, layout⟩, rest)
  | '!' :: conversion :: rest => cutConverted name conversion rest
  | ['!'] => .error .missingConversion
  | '{' :: _ => .error .openingInPlace
  | _ => .error .unclosedPlace

/-! ## Choosing arguments -/

/-- The places used so far: none, unnumbered ones up to a number, or numbered ones. -/
inductive Numbering where
  | undecided
  | counting (next : Nat)
  | numbered
  deriving DecidableEq, Repr, Inhabited

def readNumber (chars : List Char) : Except Fault (Option Nat) :=
  match readCount? chars with
  | none => .error (.layout .text .tooManyDigits)
  | some (number, rest) => .ok (if rest.isEmpty then number else none)

def choose (numbering : Numbering) (name : List Char) : Except Fault (Nat × Numbering) := do
  match ← readNumber name, numbering with
  | some number, .undecided | some number, .numbered => pure (number, .numbered)
  | some _, .counting _ => .error .numberAfterNone
  | none, numbering =>
    if !name.isEmpty then .error (.unknownName (.ofList name))
    else
      match numbering with
      | .undecided => pure (0, .counting 1)
      | .counting next => pure (next, .counting (next + 1))
      | .numbered => .error .noneAfterNumber

def startsStep (char : Char) : Bool := char == '.' || char == '['

/-- Follows the steps of a name from an item to a part or a member of it.  The count bounds the
number of steps. -/
def follow : Nat → List Char → Item → Except Fault Item
  | count + 1, '[' :: chars, item => do
    let name := chars.takeWhile (· != ']')
    let number? ← readNumber name
    if name.isEmpty then .error .emptyStep
    else
      match item.part (number?.elim (.name name) .number) with
      | .ok part => follow count (chars.drop (name.length + 1)) part
      | .error fault => .error (.item fault)
  | count + 1, '.' :: chars, item =>
    let name := chars.takeWhile fun char => !startsStep char
    if name.isEmpty then .error .emptyStep
    else
      match item.member (.ofList name) with
      | .ok member => follow count (chars.drop name.length) member
      | .error fault => .error (.item fault)
  | _, _ :: _, _ => .error .badStep
  | _, [], item => .ok item

/-- An item as it is, as a text, as one that tells it apart, or as such a one without special
characters.  The character of code zero asks for nothing. -/
def convert (item : Item) : Option Char → Except Fault Item
  | none | some '\x00' => .ok item
  | some 's' => .ok (.text item.written)
  | some 'r' => .ok (.text item.shown.toList)
  | some 'a' => .ok (.text (Quoted.ascii item.shown.toList))
  | some conversion => .error (.unknownConversion conversion)

/-- An item in a written layout.  Only texts and numbers have layouts that are not empty. -/
def layOut (layout : List Char) (item : Item) : Except Fault (List Char) :=
  if layout.isEmpty then .ok item.written
  else
    match item with
    | .text chars => (Layout.apply layout chars).mapError (.layout .text)
    | .number count => (Layout.applyToCount layout count).mapError (.layout .number)
    | .no => (Layout.applyToCount layout 0).mapError (.layout .flag)
    | item => .error (.withoutLayouts item.itsKind)

/-! ## Filling -/

/-- Fills the places of a part of a template, with the numbering in front and behind. -/
abbrev Filling := Numbering → List Char → Except Fault (List Char × Numbering)

/-- The text for a place.  The places of its layout are filled first. -/
def Place.text (inner : Filling) (arguments : List (List Char)) (numbering : Numbering)
    (place : Place) : Except Fault (List Char × Numbering) := do
  let first := place.name.takeWhile fun char => !startsStep char
  let (number, numbering) ← choose numbering first
  match arguments[number]? with
  | none => .error (.missingArgument number)
  | some argument =>
    let item ← follow place.name.length (place.name.drop first.length) (.text argument)
    let converted ← convert item place.conversion
    let (layout, numbering) ←
      if place.layout.contains '{' then inner numbering place.layout
      else pure (place.layout, numbering)
    pure (← layOut layout converted, numbering)

/-- Fills a template.  The count bounds the number of its braces. -/
def fillWith (inner : Filling) (arguments : List (List Char)) : Nat → Filling
  | 0, numbering, chars => .ok (chars, numbering)
  | count + 1, numbering, chars =>
    let plain := chars.takeWhile fun char => char != '{' && char != '}'
    match chars.drop plain.length with
    | [] => .ok (plain, numbering)
    | '{' :: '{' :: rest => do
      let (filled, numbering) ← fillWith inner arguments count numbering rest
      pure (plain ++ '{' :: filled, numbering)
    | '}' :: '}' :: rest => do
      let (filled, numbering) ← fillWith inner arguments count numbering rest
      pure (plain ++ '}' :: filled, numbering)
    | ['{'] => .error .loneOpening
    | '{' :: rest => do
      let (place, rest) ← cutPlace rest
      let (text, numbering) ← place.text inner arguments numbering
      let (filled, numbering) ← fillWith inner arguments count numbering rest
      pure (plain ++ text ++ filled, numbering)
    | _ => .error .loneClosing

/-- A layout may hold places, but the layouts of those may not. -/
def fillLayout (arguments : List (List Char)) : Filling := fun numbering layout =>
  fillWith (fun _ _ => .error .tooDeep) arguments layout.length numbering layout

def fill (template : String) (arguments : List String) : Except Fault String := do
  let arguments := arguments.map String.toList
  let chars := template.toList
  let (filled, _) ← fillWith (fillLayout arguments) arguments chars.length .undecided chars
  pure (.ofList filled)

end BilingualScript.Text.Template
