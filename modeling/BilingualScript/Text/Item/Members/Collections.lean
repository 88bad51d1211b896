import BilingualScript.Text.Item.Member

/-!
# Members of collections

Rows have parts by number, dictionaries and registers by name.
-/

namespace BilingualScript.Text.Item.Members

def ofRows : List Member :=
  [.maker] ++
  operations
    ["__repr__", "__hash__", "__getattribute__", "__lt__", "__le__", "__eq__", "__ne__", "__gt__",
     "__ge__", "__iter__", "__len__", "__getitem__", "__add__", "__mul__", "__rmul__",
     "__contains__"] ++
  [ ⟨"__getnewargs__", .method, some "($self, /)", []⟩,
    ⟨"index", .method, some "($self, value, start=0, stop=sys.maxsize, /)",
      ["Return first index of value.", "",
       "Raises ValueError if the value is not present."]⟩,
    ⟨"count", .method, some "($self, value, /)", ["Return number of occurrences of value."]⟩,
    ⟨"__class_getitem__", .kindMethod, none, ["See PEP 585"]⟩] ++
  [.constant "__doc__"]

def ofDictionaries : List Member :=
  [.maker] ++
  operations ["__repr__"] ++
  [.constant "__hash__"] ++
  operations
    ["__getattribute__", "__lt__", "__le__", "__eq__", "__ne__", "__gt__", "__ge__", "__iter__",
     "__init__", "__or__", "__ror__", "__ior__", "__len__"] ++
  [ ⟨"__getitem__", .method, none, ["x.__getitem__(y) <==> x[y]"]⟩] ++
  operations ["__setitem__", "__delitem__"] ++
  [ ⟨"__contains__", .method, some "($self, key, /)",
      ["True if the dictionary has the specified key, else False."]⟩,
    ⟨"__sizeof__", .method, none, ["D.__sizeof__() -> size of D in memory, in bytes"]⟩,
    ⟨"get", .method, some "($self, key, default=None, /)",
      ["Return the value for key if key is in the dictionary, else default."]⟩,
    ⟨"setdefault", .method, some "($self, key, default=None, /)",
      ["Insert key with a value of default if key is not in the dictionary.", "",
       "Return the value for key if key is in the dictionary, else default."]⟩,
    ⟨"pop", .method, some "($self, key, default=<unrepresentable>, /)",
      ["D.pop(k[,d]) -> v, remove specified key and return the corresponding value.", "",
       "If the key is not found, return the default if given; otherwise,",
       "raise a KeyError."]⟩,
    ⟨"popitem", .method, some "($self, /)",
      ["Remove and return a (key, value) pair as a 2-tuple.", "",
       "Pairs are returned in LIFO (last-in, first-out) order.",
       "Raises KeyError if the dict is empty."]⟩,
    ⟨"keys", .method, none, ["D.keys() -> a set-like object providing a view on D's keys"]⟩,
    ⟨"items", .method, none, ["D.items() -> a set-like object providing a view on D's items"]⟩,
    ⟨"values", .method, none, ["D.values() -> an object providing a view on D's values"]⟩,
    ⟨"update", .method, none,
      ["D.update([E, ]**F) -> None.  Update D from dict/iterable E and F.",
       "If E is present and has a .keys() method, then does:  for k in E: D[k] = E[k]",
       "If E is present and lacks a .keys() method, then does:  for k, v in E: D[k] = v",
       "In either case, this is followed by: for k in F:  D[k] = F[k]"]⟩,
    ⟨"fromkeys", .kindMethod, some "($type, iterable, value=None, /)",
      ["Create a new dictionary with keys from iterable and values set to value."]⟩,
    ⟨"clear", .method, none, ["D.clear() -> None.  Remove all items from D."]⟩,
    ⟨"copy", .method, none, ["D.copy() -> a shallow copy of D"]⟩,
    ⟨"__reversed__", .method, some "($self, /)",
      ["Return a reverse iterator over the dict keys."]⟩,
    ⟨"__class_getitem__", .kindMethod, none, ["See PEP 585"]⟩] ++
  [.constant "__doc__"]

def ofRegisters : List Member :=
  [.maker] ++
  operations
    ["__repr__", "__str__", "__getattribute__", "__lt__", "__le__", "__eq__", "__ne__", "__gt__",
     "__ge__", "__iter__", "__or__", "__ror__", "__ior__", "__len__", "__getitem__",
     "__contains__"] ++
  [ ⟨"get", .method, none, ["D.get(k[,d]) -> D[k] if k in D, else d.  d defaults to None."]⟩,
    ⟨"keys", .method, none, ["D.keys() -> a set-like object providing a view on D's keys"]⟩,
    ⟨"values", .method, none, ["D.values() -> an object providing a view on D's values"]⟩,
    ⟨"items", .method, none, ["D.items() -> a set-like object providing a view on D's items"]⟩,
    ⟨"copy", .method, none, ["D.copy() -> a shallow copy of D"]⟩,
    ⟨"__class_getitem__", .kindMethod, none, ["See PEP 585"]⟩,
    ⟨"__reversed__", .method, none, ["D.__reversed__() -> reverse iterator"]⟩] ++
  [.constant "__doc__", .constant "__hash__"]

end BilingualScript.Text.Item.Members
