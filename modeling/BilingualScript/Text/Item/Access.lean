import BilingualScript.Text.Item.Field

/-!
# Members and parts of items

A place may ask an item for a member by its name, or for a part by a key.
-/

namespace BilingualScript.Text.Item

/-! ## Members -/

def Role.isField : Role → Bool
  | .storedField | .derivedField => true
  | _ => false

def bind (item : Item) (giver : Kind) (member : Member) : Except Fault Item :=
  match member.role with
  | .storedField | .derivedField => item.field member.name
  | .operation | .method => .ok (.own item giver member)
  | .kindMethod => .ok (.own (.ofKind item.itsKind) giver member)
  | .freeMethod => .ok (.own (.ofKind giver) giver member)
  | .maker | .constant => .ok (ofMember giver member)

def bindGeneral (kind giver : Kind) (member : Member) : Item :=
  match member.role with
  | .kindMethod => .own (.ofKind kind) giver member
  | .freeMethod => .own (.ofKind giver) giver member
  | _ => ofMember giver member

/-- A kind has the fields of kinds, then what its items have, then the rest of what kinds
have. -/
def kindMember (kind : Kind) (name : String) : Except Fault Item :=
  let asItem := Kind.sort.find? name
  if asItem.any fun (_, member) => member.role.isField then (Item.ofKind kind).field name
  else
    match kind.find? name, asItem with
    | some (giver, member), _ => .ok (bindGeneral kind giver member)
    | none, some (giver, member) => (Item.ofKind kind).bind giver member
    | none, none => .error (.noKindMember kind name)

def itemMember (item : Item) (name : String) : Except Fault Item :=
  match item.itsKind.find? name with
  | some (giver, member) => item.bind giver member
  | none => .error (.noMember item.itsKind name)

/-- The members that a special kind has by itself.  The others are those of the kind. -/
def specialNames : List String :=
  ["__class__", "__origin__", "__args__", "__unpacked__", "__parameters__",
   "__typing_unpacked_tuple_args__", "__mro_entries__", "__reduce_ex__", "__reduce__", "__copy__",
   "__deepcopy__"]

def member (item : Item) (name : String) : Except Fault Item :=
  match item with
  | .ofKind kind => kindMember kind name
  | .special kind _ =>
    if specialNames.contains name then item.itemMember name else kindMember kind name
  | _ => item.itemMember name

/-! ## Parts -/

def part (item : Item) (key : Key) : Except Fault Item :=
  match item, key with
  | .text chars, .number count =>
    match chars[count]? with
    | some char => .ok (.text [char])
    | none => .error .missingCharacter
  | .text _, .name _ => .error .textKey
  | .row parts, .number count =>
    match parts[count]? with
    | some part => .ok (.ofPart part)
    | none => .error .missingPart
  | .row _, .name _ => .error .rowKey
  | .register kind, .name chars =>
    match kind.member? (.ofList chars) with
    | some member => .ok (ofMember kind member)
    | none => .error (.unknownKey key)
  | .register _, _ | .emptyDictionary, _ => .error (.unknownKey key)
  | .ofKind kind, _ =>
    if kind.isGeneral then .ok (.special kind key) else .error (.noSpecialKind kind)
  | .special kind key, _ => .error (.alreadySpecial kind key)
  | item, _ => .error (.noParts item.itsKind)

end BilingualScript.Text.Item
