import BilingualScript.Text.Item.Member

/-!
# Members of operations, methods and fields

Members are items too, and have a few members in common.
-/

namespace BilingualScript.Text.Item.Members

def ofOperations : List Member :=
  operations
    ["__repr__", "__hash__", "__call__", "__getattribute__", "__lt__", "__le__", "__eq__",
     "__ne__", "__gt__", "__ge__"] ++
  plain .method ["__reduce__"] ++
  plain .storedField ["__self__"] ++
  plain .derivedField
    ["__objclass__", "__name__", "__qualname__", "__doc__", "__text_signature__"]

def ofMethods : List Member :=
  operations
    ["__repr__", "__hash__", "__call__", "__getattribute__", "__lt__", "__le__", "__eq__",
     "__ne__", "__gt__", "__ge__"] ++
  plain .method ["__reduce__"] ++
  plain .storedField ["__module__"] ++
  plain .derivedField ["__doc__", "__name__", "__qualname__", "__self__", "__text_signature__"]

def ofGeneralOperations : List Member :=
  operations ["__repr__", "__call__", "__getattribute__", "__get__"] ++
  plain .method ["__reduce__"] ++
  plain .storedField ["__objclass__", "__name__"] ++
  plain .derivedField ["__doc__", "__qualname__", "__text_signature__"]

def ofGeneralMethods : List Member :=
  operations ["__repr__", "__call__", "__getattribute__", "__get__"] ++
  plain .method ["__reduce__"] ++
  plain .storedField ["__objclass__", "__name__"] ++
  plain .derivedField ["__doc__", "__qualname__", "__text_signature__"]

def ofKindMethods : List Member :=
  operations ["__repr__", "__call__", "__getattribute__", "__get__"] ++
  plain .storedField ["__objclass__", "__name__"] ++
  plain .derivedField ["__doc__", "__qualname__", "__text_signature__"]

def ofFreeMethods : List Member :=
  [.maker] ++
  operations ["__repr__", "__call__", "__get__", "__init__"] ++
  plain .storedField ["__func__", "__wrapped__"] ++
  plain .derivedField ["__isabstractmethod__", "__dict__"] ++
  [.constant "__doc__"]

def ofStoredFields : List Member :=
  operations ["__repr__", "__getattribute__", "__get__", "__set__", "__delete__"] ++
  plain .method ["__reduce__"] ++
  plain .storedField ["__objclass__", "__name__"] ++
  plain .derivedField ["__doc__", "__qualname__"]

def ofDerivedFields : List Member :=
  operations ["__repr__", "__getattribute__", "__get__", "__set__", "__delete__"] ++
  plain .storedField ["__objclass__", "__name__"] ++
  plain .derivedField ["__doc__", "__qualname__"]

end BilingualScript.Text.Item.Members
