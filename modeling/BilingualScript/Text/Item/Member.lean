import BilingualScript.Text.Item.Kind

/-!
# Members

What an item can be asked for has a name in its kind.  An operation stands behind a sign or a
common function, a method is called by its name, and a field holds a value.
-/

namespace BilingualScript.Text.Item

/-- What a member is: the maker of items, an operation or a method of an item, a method of the
kind, a method of no item at all, a field that is kept or computed, or the same for all. -/
inductive Role where
  | maker
  | operation
  | method
  | kindMethod
  | freeMethod
  | storedField
  | derivedField
  | constant
  deriving DecidableEq, Repr, Inhabited

structure Member where
  name : String
  role : Role
  signature : Option String
  notes : List String
  deriving DecidableEq, Repr, Inhabited

namespace Member

def maker : Member :=
  ⟨"__new__", .maker, some "($type, *args, **kwargs)",
    ["Create and return a new object.  See help(type) for accurate signature."]⟩

def operation (name signature note : String) : Member :=
  ⟨name, .operation, some signature, [note]⟩

def constant (name : String) : Member := ⟨name, .constant, none, []⟩

def allOperations : List Member :=
  [ operation "__abs__" "($self, /)" "abs(self)",
    operation "__add__" "($self, value, /)" "Return self+value.",
    operation "__and__" "($self, value, /)" "Return self&value.",
    operation "__bool__" "($self, /)" "True if self else False",
    operation "__call__" "($self, /, *args, **kwargs)" "Call self as a function.",
    operation "__contains__" "($self, key, /)" "Return key in self.",
    operation "__delattr__" "($self, name, /)" "Implement delattr(self, name).",
    operation "__delete__" "($self, instance, /)" "Delete an attribute of instance.",
    operation "__delitem__" "($self, key, /)" "Delete self[key].",
    operation "__divmod__" "($self, value, /)" "Return divmod(self, value).",
    operation "__eq__" "($self, value, /)" "Return self==value.",
    operation "__float__" "($self, /)" "float(self)",
    operation "__floordiv__" "($self, value, /)" "Return self//value.",
    operation "__ge__" "($self, value, /)" "Return self>=value.",
    operation "__get__" "($self, instance, owner=None, /)"
      "Return an attribute of instance, which is of type owner.",
    operation "__getattribute__" "($self, name, /)" "Return getattr(self, name).",
    operation "__getitem__" "($self, key, /)" "Return self[key].",
    operation "__gt__" "($self, value, /)" "Return self>value.",
    operation "__hash__" "($self, /)" "Return hash(self).",
    operation "__index__" "($self, /)"
      "Return self converted to an integer, if self is suitable for use as an index into a list.",
    operation "__init__" "($self, /, *args, **kwargs)"
      "Initialize self.  See help(type(self)) for accurate signature.",
    operation "__int__" "($self, /)" "int(self)",
    operation "__invert__" "($self, /)" "~self",
    operation "__ior__" "($self, value, /)" "Return self|=value.",
    operation "__iter__" "($self, /)" "Implement iter(self).",
    operation "__le__" "($self, value, /)" "Return self<=value.",
    operation "__len__" "($self, /)" "Return len(self).",
    operation "__lshift__" "($self, value, /)" "Return self<<value.",
    operation "__lt__" "($self, value, /)" "Return self<value.",
    operation "__mod__" "($self, value, /)" "Return self%value.",
    operation "__mul__" "($self, value, /)" "Return self*value.",
    operation "__ne__" "($self, value, /)" "Return self!=value.",
    operation "__neg__" "($self, /)" "-self",
    operation "__or__" "($self, value, /)" "Return self|value.",
    operation "__pos__" "($self, /)" "+self",
    operation "__pow__" "($self, value, mod=None, /)" "Return pow(self, value, mod).",
    operation "__radd__" "($self, value, /)" "Return value+self.",
    operation "__rand__" "($self, value, /)" "Return value&self.",
    operation "__rdivmod__" "($self, value, /)" "Return divmod(value, self).",
    operation "__repr__" "($self, /)" "Return repr(self).",
    operation "__rfloordiv__" "($self, value, /)" "Return value//self.",
    operation "__rlshift__" "($self, value, /)" "Return value<<self.",
    operation "__rmod__" "($self, value, /)" "Return value%self.",
    operation "__rmul__" "($self, value, /)" "Return value*self.",
    operation "__ror__" "($self, value, /)" "Return value|self.",
    operation "__rpow__" "($self, value, mod=None, /)" "Return pow(value, self, mod).",
    operation "__rrshift__" "($self, value, /)" "Return value>>self.",
    operation "__rshift__" "($self, value, /)" "Return self>>value.",
    operation "__rsub__" "($self, value, /)" "Return value-self.",
    operation "__rtruediv__" "($self, value, /)" "Return value/self.",
    operation "__rxor__" "($self, value, /)" "Return value^self.",
    operation "__set__" "($self, instance, value, /)" "Set an attribute of instance to value.",
    operation "__setattr__" "($self, name, value, /)" "Implement setattr(self, name, value).",
    operation "__setitem__" "($self, key, value, /)" "Set self[key] to value.",
    operation "__str__" "($self, /)" "Return str(self).",
    operation "__sub__" "($self, value, /)" "Return self-value.",
    operation "__truediv__" "($self, value, /)" "Return self/value.",
    operation "__xor__" "($self, value, /)" "Return self^value."]

end Member

def operations (names : List String) : List Member :=
  names.filterMap fun name => Member.allOperations.find? (·.name == name)

def plain (role : Role) (names : List String) : List Member :=
  names.map fun name => ⟨name, role, none, []⟩

end BilingualScript.Text.Item
