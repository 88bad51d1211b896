import BilingualScript.Text.Item.Lineage
import BilingualScript.Text.Quoted

/-!
# Items

What the places of a template lead to, and how it is shown.
-/

namespace BilingualScript.Text

namespace Item

/-- What stands between square brackets: a number, or else a name. -/
inductive Key where
  | number (count : Nat)
  | name (chars : List Char)
  deriving DecidableEq, Repr, Inhabited

def Key.shown : Key → String
  | .number count => toString count
  | .name chars => .ofList (Quoted.chars chars)

inductive Part where
  | ofKind (kind : Kind)
  | ofKey (key : Key)
  deriving DecidableEq, Repr, Inhabited

end Item

/-- A register lists the members of a kind.  A general member stands for all items of a kind,
an own one for that of its owner.  A special kind has been given a key. -/
inductive Item where
  | text (chars : List Char)
  | number (count : Nat)
  | no
  | nothing
  | ofKind (kind : Item.Kind)
  | row (parts : List Item.Part)
  | emptyDictionary
  | register (kind : Item.Kind)
  | general (kind : Item.Kind) (member : Item.Member)
  | own (owner : Item) (giver : Item.Kind) (member : Item.Member)
  | special (kind : Item.Kind) (key : Item.Key)
  deriving DecidableEq, Repr, Inhabited

namespace Item

def Role.kind : Role → Kind
  | .operation => .generalOperation
  | .kindMethod => .kindMethod
  | .freeMethod => .freeMethod
  | .storedField => .storedField
  | .derivedField => .derivedField
  | .maker | .method | .constant => .generalMethod

def itsKind : Item → Kind
  | .text _ => .text
  | .number _ => .number
  | .no => .flag
  | .nothing => .nothing
  | .ofKind _ => .sort
  | .row _ => .row
  | .emptyDictionary => .dictionary
  | .register _ => .register
  | .general _ member => member.role.kind
  | .own _ _ member => if member.role = .operation then .operation else .method
  | .special .. => .specialKind

def ofKey : Key → Item
  | .number count => .number count
  | .name chars => .text chars

def ofPart : Part → Item
  | .ofKind kind => .ofKind kind
  | .ofKey key => .ofKey key

def said (notes : List String) : Option String :=
  if notes.isEmpty then none else some ("\n".intercalate notes)

def constantOf (kind : Kind) (member : Member) : Option String :=
  if member.name = "__doc__" then said kind.notes else none

/-! ## Showing items -/

def kindShown (kind : Kind) : String := "<class '" ++ kind.fullName ++ "'>"

def Part.shown : Part → String
  | .ofKind kind => kindShown kind
  | .ofKey key => key.shown

def rowShown : List Part → String
  | [part] => "(" ++ part.shown ++ ",)"
  | parts => "(" ++ ", ".intercalate (parts.map Part.shown) ++ ")"

/-- Where an item lies says nothing about it; all lie at the same place. -/
def place : String := " at 0x7f0000000000>"

def ownShown (owner : Kind) (member : Member) : String :=
  let called := match member.role with
    | .operation => "<method-wrapper '" ++ member.name ++ "'"
    | _ => "<built-in method " ++ member.name
  called ++ " of " ++ owner.fullName ++ " object" ++ place

def generalShown (kind : Kind) (member : Member) : String :=
  let called (word : String) :=
    "<" ++ word ++ " '" ++ member.name ++ "' of '" ++ kind.fullName ++ "' objects>"
  match member.role with
  | .operation => called "slot wrapper"
  | .method | .kindMethod => called "method"
  | .storedField => called "member"
  | .derivedField => called "attribute"
  | .freeMethod => "<staticmethod(" ++ ownShown .sort member ++ ")>"
  | .maker => ownShown .sort member
  | .constant =>
    (constantOf kind member).elim "None" quoted

def entriesShown (kind : Kind) : String :=
  let entries := kind.members.map fun member =>
    quoted member.name ++ ": " ++ generalShown kind member
  "\x7b" ++ ", ".intercalate entries ++ "\x7d"

def shown : Item → String
  | .text chars => .ofList (Quoted.chars chars)
  | .number count => toString count
  | .no => "False"
  | .nothing => "None"
  | .ofKind kind => kindShown kind
  | .row parts => rowShown parts
  | .emptyDictionary => "\x7b\x7d"
  | .register kind => "mappingproxy(" ++ entriesShown kind ++ ")"
  | .general kind member => generalShown kind member
  | .own owner _ member => ownShown owner.itsKind member
  | .special kind key => kind.fullName ++ "[" ++ key.shown ++ "]"

/-- An item as it is written: a text without quotes, and a register by its entries alone. -/
def written : Item → List Char
  | .text chars => chars
  | .register kind => (entriesShown kind).toList
  | item => item.shown.toList

end Item

end BilingualScript.Text
