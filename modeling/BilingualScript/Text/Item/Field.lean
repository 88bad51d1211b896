import BilingualScript.Text.Item.Basic

/-!
# Fields of items

What an item itself holds under the names of its fields.  What is not there is a fault.
-/

namespace BilingualScript.Text.Item

inductive Fault where
  | missingCharacter
  | missingPart
  | textKey
  | rowKey
  | unknownKey (key : Key)
  | noMember (kind : Kind) (name : String)
  | noKindMember (kind : Kind) (name : String)
  | unsetMember (name : String)
  | noParts (kind : Kind)
  | noSpecialKind (kind : Kind)
  | alreadySpecial (kind : Kind) (key : Key)
  deriving DecidableEq, Repr, Inhabited

def ofText? : Option String → Item
  | some words => .text words.toList
  | none => .nothing

def ofMember (kind : Kind) (member : Member) : Item :=
  match member.role with
  | .maker => .own (.ofKind kind) kind member
  | .constant => ofText? (constantOf kind member)
  | _ => .general kind member

/-- What is said of a kind.  If nothing is, that is a field of its items, if they have it. -/
def noteOf (kind : Kind) : Item :=
  match said kind.notes, kind.member? "__doc__" with
  | none, some member => ofMember kind member
  | note?, _ => ofText? note?

def qualified (kind : Kind) (member : Member) : Item :=
  .text (kind.name ++ "." ++ member.name).toList

def kindField (kind : Kind) (name : String) : Except Fault Item :=
  match name with
  | "__name__" | "__qualname__" => .ok (.text kind.name.toList)
  | "__module__" => .ok (.text kind.home.toList)
  | "__mro__" => .ok (.row (kind.lineage.map .ofKind))
  | "__bases__" => .ok (.row ((kind.lineage.drop 1).take 1 |>.map .ofKind))
  | "__base__" => .ok (kind.lineage[1]?.elim .nothing .ofKind)
  | "__dict__" => .ok (.register kind)
  | "__doc__" => .ok (noteOf kind)
  | "__text_signature__" => .ok (ofText? kind.signature)
  | "__basicsize__" => .ok (.number kind.footprint.size)
  | "__itemsize__" => .ok (.number kind.footprint.partSize)
  | "__flags__" => .ok (.number kind.footprint.traits)
  | "__weakrefoffset__" => .ok (.number kind.footprint.references)
  | "__dictoffset__" => .ok (.number kind.footprint.entries)
  | "__abstractmethods__" => .error (.unsetMember name)
  | _ => .error (.noKindMember kind name)

def memberField (giver : Kind) (member : Member) (name : String) : Option Item :=
  match name with
  | "__name__" => some (.text member.name.toList)
  | "__qualname__" => some (qualified giver member)
  | "__objclass__" => some (.ofKind giver)
  | "__doc__" => some (ofText? (said member.notes))
  | "__text_signature__" => some (ofText? member.signature)
  | _ => none

def numberField (count : Nat) (name : String) : Option Item :=
  match name with
  | "real" | "numerator" => some (.number count)
  | "imag" => some (.number 0)
  | "denominator" => some (.number 1)
  | _ => none

def freeField (kind : Kind) (member : Member) (name : String) : Option Item :=
  match name with
  | "__func__" | "__wrapped__" => some (.own (.ofKind kind) kind member)
  | "__isabstractmethod__" => some .no
  | "__dict__" => some .emptyDictionary
  | _ => none

def ownerKind : Item → Kind
  | .ofKind kind => kind
  | owner => owner.itsKind

def ownField (owner : Item) (giver : Kind) (member : Member) (name : String) : Option Item :=
  match name, member.role with
  | "__self__", .freeMethod => some .nothing
  | "__self__", _ => some owner
  | "__module__", _ => some .nothing
  | "__qualname__", .operation => some (qualified giver member)
  | "__qualname__", _ => some (qualified owner.ownerKind member)
  | _, _ => memberField giver member name

def specialField (kind : Kind) (key : Key) (name : String) : Option Item :=
  match name with
  | "__origin__" => some (.ofKind kind)
  | "__args__" => some (.row [.ofKey key])
  | "__parameters__" => some (.row [])
  | "__unpacked__" => some .no
  | "__typing_unpacked_tuple_args__" => some .nothing
  | _ => none

def field? (item : Item) (name : String) : Option Item :=
  match item with
  | .number count => numberField count name
  | .no => numberField 0 name
  | .general kind member =>
    match member.role with
    | .freeMethod => freeField kind member name
    | _ => memberField kind member name
  | .own owner giver member => ownField owner giver member name
  | .special kind key => specialField kind key name
  | _ => none

/-- What a field of an item holds.  Every item has its kind. -/
def field (item : Item) (name : String) : Except Fault Item :=
  if name = "__class__" then .ok (.ofKind item.itsKind)
  else
    match item, item.field? name with
    | .ofKind kind, _ => kindField kind name
    | _, some value => .ok value
    | _, none => .error (.noMember item.itsKind name)

end BilingualScript.Text.Item
