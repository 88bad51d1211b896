/-!
# Kinds of items

A place of a template leads to an item: a text, or something that a text can be asked for.
Every item has a kind, and kinds are items themselves; theirs is called a sort.
-/

namespace BilingualScript.Text.Item

inductive Kind where
  | object
  | sort
  | text
  | number
  | flag
  | nothing
  | row
  | dictionary
  | register
  | operation
  | method
  | generalOperation
  | generalMethod
  | kindMethod
  | freeMethod
  | storedField
  | derivedField
  | specialKind
  deriving DecidableEq, Repr, Inhabited

namespace Kind

def name : Kind → String
  | .object => "object"
  | .sort => "type"
  | .text => "str"
  | .number => "int"
  | .flag => "bool"
  | .nothing => "NoneType"
  | .row => "tuple"
  | .dictionary => "dict"
  | .register => "mappingproxy"
  | .operation => "method-wrapper"
  | .method => "builtin_function_or_method"
  | .generalOperation => "wrapper_descriptor"
  | .generalMethod => "method_descriptor"
  | .kindMethod => "classmethod_descriptor"
  | .freeMethod => "staticmethod"
  | .storedField => "member_descriptor"
  | .derivedField => "getset_descriptor"
  | .specialKind => "GenericAlias"

def home : Kind → String
  | .specialKind => "types"
  | _ => "builtins"

/-- The name with the home of the kind, unless that goes without saying. -/
def fullName (kind : Kind) : String :=
  if kind.home = "builtins" then kind.name else kind.home ++ "." ++ kind.name

def lineage : Kind → List Kind
  | .object => [.object]
  | .flag => [.flag, .number, .object]
  | kind => [kind, .object]

def isGeneral : Kind → Bool
  | .sort | .row | .dictionary | .register => true
  | _ => false

def notes : Kind → List String
  | .object =>
    ["The base class of the class hierarchy.", "",
     "When called, it accepts no arguments and returns a new featureless",
     "instance that has no instance attributes and cannot be given any.", ""]
  | .sort =>
    ["type(object) -> the object's type",
     "type(name, bases, dict, **kwds) -> a new type"]
  | .text =>
    ["str(object='') -> str",
     "str(bytes_or_buffer[, encoding[, errors]]) -> str", "",
     "Create a new string object from the given object. If encoding or",
     "errors is specified, then the object must expose a data buffer",
     "that will be decoded using the given encoding and error handler.",
     "Otherwise, returns the result of object.__str__() (if defined)",
     "or repr(object).",
     "encoding defaults to sys.getdefaultencoding().",
     "errors defaults to 'strict'."]
  | .number =>
    ["int([x]) -> integer",
     "int(x, base=10) -> integer", "",
     "Convert a number or string to an integer, or return 0 if no arguments",
     "are given.  If x is a number, return x.__int__().  For floating point",
     "numbers, this truncates towards zero.", "",
     "If x is not a number or if base is given, then x must be a string,",
     "bytes, or bytearray instance representing an integer literal in the",
     "given base.  The literal can be preceded by '+' or '-' and be surrounded",
     "by whitespace.  The base defaults to 10.  Valid bases are 0 and 2-36.",
     "Base 0 means to interpret the base from the string as an integer literal.",
     ">>> int('0b100', base=0)",
     "4"]
  | .flag =>
    ["bool(x) -> bool", "",
     "Returns True when the argument x is true, False otherwise.",
     "The builtins True and False are the only two instances of the class bool.",
     "The class bool is a subclass of the class int, and cannot be subclassed."]
  | .row =>
    ["Built-in immutable sequence.", "",
     "If no argument is given, the constructor returns an empty tuple.",
     "If iterable is specified the tuple is initialized from iterable's items.", "",
     "If the argument is a tuple, the return value is the same object."]
  | .dictionary =>
    ["dict() -> new empty dictionary",
     "dict(mapping) -> new dictionary initialized from a mapping object's",
     "    (key, value) pairs",
     "dict(iterable) -> new dictionary initialized as if via:",
     "    d = \x7b\x7d",
     "    for k, v in iterable:",
     "        d[k] = v",
     "dict(**kwargs) -> new dictionary initialized with the name=value pairs",
     "    in the keyword argument list.  For example:  dict(one=1, two=2)"]
  | .freeMethod =>
    ["staticmethod(function) -> method", "",
     "Convert a function to be a static method.", "",
     "A static method does not receive an implicit first argument.",
     "To declare a static method, use this idiom:", "",
     "     class C:",
     "         @staticmethod",
     "         def f(arg1, arg2, argN):",
     "             ...", "",
     "It can be called either on the class (e.g. C.f()) or on an instance",
     "(e.g. C().f()). Both the class and the instance are ignored, and",
     "neither is passed implicitly as the first argument to the method.", "",
     "Static methods in Python are similar to those found in Java or C++.",
     "For a more advanced concept, see the classmethod builtin."]
  | .specialKind =>
    ["Represent a PEP 585 generic type", "",
     "E.g. for t = list[int], t.__origin__ is list and t.__args__ is (int,)."]
  | _ => []

def signature : Kind → Option String
  | .object => some "()"
  | .row => some "(iterable=(), /)"
  | _ => none

/-- How the items of a kind are kept: the space that they take, and where it lies in them. -/
structure Footprint where
  size : Nat
  partSize : Nat
  traits : Nat
  references : Nat
  entries : Nat
  deriving DecidableEq, Repr, Inhabited

def footprint : Kind → Footprint
  | .object => ⟨16, 0, 529664, 0, 0⟩
  | .sort => ⟨904, 40, 2148031744, 368, 264⟩
  | .text => ⟨80, 0, 273159424, 0, 0⟩
  | .number => ⟨24, 4, 21501184, 0, 0⟩
  | .flag => ⟨32, 4, 21500160, 0, 0⟩
  | .nothing => ⟨16, 0, 528640, 0, 0⟩
  | .row => ⟨24, 8, 71849248, 0, 0⟩
  | .dictionary => ⟨48, 0, 541611328, 0, 0⟩
  | .register => ⟨24, 0, 545088, 0, 0⟩
  | .operation => ⟨32, 0, 545152, 0, 0⟩
  | .method => ⟨56, 0, 547200, 40, 0⟩
  | .generalOperation => ⟨56, 0, 676224, 0, 0⟩
  | .generalMethod => ⟨56, 0, 678272, 0, 0⟩
  | .kindMethod => ⟨56, 0, 545152, 0, 0⟩
  | .freeMethod => ⟨32, 0, 546048, 0, 24⟩
  | .storedField | .derivedField => ⟨48, 0, 545152, 0, 0⟩
  | .specialKind => ⟨64, 0, 548096, 40, 0⟩

end Kind

end BilingualScript.Text.Item
