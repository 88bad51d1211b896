import BilingualScript.Text.Item.Members.Collections
import BilingualScript.Text.Item.Members.Kinds
import BilingualScript.Text.Item.Members.Methods
import BilingualScript.Text.Item.Members.Numbers
import BilingualScript.Text.Item.Members.Texts

/-!
# Members by kind

An item has the members of its kind and of the more general ones; of two of one name, that of
the closer kind.
-/

namespace BilingualScript.Text.Item.Kind

open Members

def members : Kind → List Member
  | .object => ofItems
  | .sort => ofKinds
  | .text => ofTexts
  | .number => ofNumbers
  | .flag => ofFlags
  | .nothing => ofNothing
  | .row => ofRows
  | .dictionary => ofDictionaries
  | .register => ofRegisters
  | .operation => ofOperations
  | .method => ofMethods
  | .generalOperation => ofGeneralOperations
  | .generalMethod => ofGeneralMethods
  | .kindMethod => ofKindMethods
  | .freeMethod => ofFreeMethods
  | .storedField => ofStoredFields
  | .derivedField => ofDerivedFields
  | .specialKind => ofSpecialKinds

def member? (kind : Kind) (name : String) : Option Member :=
  kind.members.find? (·.name == name)

def find? (kind : Kind) (name : String) : Option (Kind × Member) :=
  kind.lineage.findSome? fun giver => (giver.member? name).map fun member => (giver, member)

end BilingualScript.Text.Item.Kind
