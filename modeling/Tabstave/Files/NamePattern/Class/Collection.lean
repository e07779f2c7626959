import Tabstave.Files.NamePattern.Class.Basic

/-!
# Members of collections

The members of tuples and dictionaries, and of what can be had of classes. Each has a name, a kind,
the words that describe it and, for a method, what it takes.
-/

namespace Tabstave.NamePattern

/-- The members of tuples. -/
def tupleMembers : List Member := [
  ⟨"__new__", .constructor, some ("Create and return a new object.  See help(type) for " ++
    "accurate signature."), some "($type, *args, **kwargs)"⟩,
  ⟨"__repr__", .slot, some "Return repr(self).", some "($self, /)"⟩,
  ⟨"__hash__", .slot, some "Return hash(self).", some "($self, /)"⟩,
  ⟨"__getattribute__", .slot, some "Return getattr(self, name).", some "($self, name, /)"⟩,
  ⟨"__lt__", .slot, some "Return self<value.", some "($self, value, /)"⟩,
  ⟨"__le__", .slot, some "Return self<=value.", some "($self, value, /)"⟩,
  ⟨"__eq__", .slot, some "Return self==value.", some "($self, value, /)"⟩,
  ⟨"__ne__", .slot, some "Return self!=value.", some "($self, value, /)"⟩,
  ⟨"__gt__", .slot, some "Return self>value.", some "($self, value, /)"⟩,
  ⟨"__ge__", .slot, some "Return self>=value.", some "($self, value, /)"⟩,
  ⟨"__iter__", .slot, some "Implement iter(self).", some "($self, /)"⟩,
  ⟨"__len__", .slot, some "Return len(self).", some "($self, /)"⟩,
  ⟨"__getitem__", .slot, some "Return self[key].", some "($self, key, /)"⟩,
  ⟨"__add__", .slot, some "Return self+value.", some "($self, value, /)"⟩,
  ⟨"__mul__", .slot, some "Return self*value.", some "($self, value, /)"⟩,
  ⟨"__rmul__", .slot, some "Return value*self.", some "($self, value, /)"⟩,
  ⟨"__contains__", .slot, some "Return key in self.", some "($self, key, /)"⟩,
  ⟨"__getnewargs__", .method, none, some "($self, /)"⟩,
  ⟨"index", .method, some ("Return first index of value.\n\nRaises ValueError if the value " ++
    "is not present."), some "($self, value, start=0, stop=sys.maxsize, /)"⟩,
  ⟨"count", .method, some "Return number of occurrences of value.", some "($self, value, /)"⟩,
  ⟨"__class_getitem__", .classMethod, some "See PEP 585", none⟩,
  ⟨"__doc__", .text, some ("Built-in immutable sequence.\n\nIf no argument is given, the " ++
    "constructor returns an empty tuple.\nIf iterable is specified the tuple is initialized " ++
    "from iterable's items.\n\nIf the argument is a tuple, the return value is the same " ++
    "object."), none⟩]

/-- The class of tuples. -/
def tupleClass : ClassInfo where
  name := "tuple"
  signature := some "(iterable=(), /)"
  parent := some .thing
  size := 24
  itemSize := 8
  flags := 71849248
  members := tupleMembers

/-- The members of dictionaries. -/
def dictionaryMembers : List Member := [
  ⟨"__new__", .constructor, some ("Create and return a new object.  See help(type) for " ++
    "accurate signature."), some "($type, *args, **kwargs)"⟩,
  ⟨"__repr__", .slot, some "Return repr(self).", some "($self, /)"⟩,
  ⟨"__hash__", .absent, none, none⟩,
  ⟨"__getattribute__", .slot, some "Return getattr(self, name).", some "($self, name, /)"⟩,
  ⟨"__lt__", .slot, some "Return self<value.", some "($self, value, /)"⟩,
  ⟨"__le__", .slot, some "Return self<=value.", some "($self, value, /)"⟩,
  ⟨"__eq__", .slot, some "Return self==value.", some "($self, value, /)"⟩,
  ⟨"__ne__", .slot, some "Return self!=value.", some "($self, value, /)"⟩,
  ⟨"__gt__", .slot, some "Return self>value.", some "($self, value, /)"⟩,
  ⟨"__ge__", .slot, some "Return self>=value.", some "($self, value, /)"⟩,
  ⟨"__iter__", .slot, some "Implement iter(self).", some "($self, /)"⟩,
  ⟨"__init__", .slot, some "Initialize self.  See help(type(self)) for accurate signature.",
    some "($self, /, *args, **kwargs)"⟩,
  ⟨"__or__", .slot, some "Return self|value.", some "($self, value, /)"⟩,
  ⟨"__ror__", .slot, some "Return value|self.", some "($self, value, /)"⟩,
  ⟨"__ior__", .slot, some "Return self|=value.", some "($self, value, /)"⟩,
  ⟨"__len__", .slot, some "Return len(self).", some "($self, /)"⟩,
  ⟨"__getitem__", .method, some "x.__getitem__(y) <==> x[y]", none⟩,
  ⟨"__setitem__", .slot, some "Set self[key] to value.", some "($self, key, value, /)"⟩,
  ⟨"__delitem__", .slot, some "Delete self[key].", some "($self, key, /)"⟩,
  ⟨"__contains__", .method, some "True if the dictionary has the specified key, else False.",
    some "($self, key, /)"⟩,
  ⟨"__sizeof__", .method, some "D.__sizeof__() -> size of D in memory, in bytes", none⟩,
  ⟨"get", .method, some "Return the value for key if key is in the dictionary, else default.",
    some "($self, key, default=None, /)"⟩,
  ⟨"setdefault", .method, some ("Insert key with a value of default if key is not in the " ++
    "dictionary.\n\nReturn the value for key if key is in the dictionary, else default."),
    some "($self, key, default=None, /)"⟩,
  ⟨"pop", .method, some ("D.pop(k[,d]) -> v, remove specified key and return the " ++
    "corresponding value.\n\nIf the key is not found, return the default if given; " ++
    "otherwise,\nraise a KeyError."), some "($self, key, default=<unrepresentable>, /)"⟩,
  ⟨"popitem", .method, some ("Remove and return a (key, value) pair as a 2-tuple.\n\nPairs " ++
    "are returned in LIFO (last-in, first-out) order.\nRaises KeyError if the dict is empty."),
    some "($self, /)"⟩,
  ⟨"keys", .method, some "D.keys() -> a set-like object providing a view on D's keys", none⟩,
  ⟨"items", .method, some "D.items() -> a set-like object providing a view on D's items", none⟩,
  ⟨"values", .method, some "D.values() -> an object providing a view on D's values", none⟩,
  ⟨"update", .method, some ("D.update([E, ]**F) -> None.  Update D from dict/iterable E and " ++
    "F.\nIf E is present and has a .keys() method, then does:  for k in E: D[k] = E[k]\nIf " ++
    "E is present and lacks a .keys() method, then does:  for k, v in E: D[k] = v\nIn " ++
    "either case, this is followed by: for k in F:  D[k] = F[k]"), none⟩,
  ⟨"fromkeys", .classMethod, some ("Create a new dictionary with keys from iterable and " ++
    "values set to value."), some "($type, iterable, value=None, /)"⟩,
  ⟨"clear", .method, some "D.clear() -> None.  Remove all items from D.", none⟩,
  ⟨"copy", .method, some "D.copy() -> a shallow copy of D", none⟩,
  ⟨"__reversed__", .method, some "Return a reverse iterator over the dict keys.",
    some "($self, /)"⟩,
  ⟨"__class_getitem__", .classMethod, some "See PEP 585", none⟩,
  ⟨"__doc__", .text, some ("dict() -> new empty dictionary\ndict(mapping) -> new dictionary " ++
    "initialized from a mapping object's\n    (key, value) pairs\ndict(iterable) -> new " ++
    "dictionary initialized as if via:\n    d = \x7b\x7d\n    for k, v in " ++
    "iterable:\n        d[k] = v\ndict(**kwargs) -> new dictionary initialized with the " ++
    "name=value pairs\n    in the keyword argument list.  For example:  dict(one=1, two=2)"),
    none⟩]

/-- The class of dictionaries. -/
def dictionaryClass : ClassInfo where
  name := "dict"
  parent := some .thing
  size := 48
  flags := 541611328
  members := dictionaryMembers

/-- The members of dictionaries of members. -/
def membersMembers : List Member := [
  ⟨"__new__", .constructor, some ("Create and return a new object.  See help(type) for " ++
    "accurate signature."), some "($type, *args, **kwargs)"⟩,
  ⟨"__repr__", .slot, some "Return repr(self).", some "($self, /)"⟩,
  ⟨"__str__", .slot, some "Return str(self).", some "($self, /)"⟩,
  ⟨"__getattribute__", .slot, some "Return getattr(self, name).", some "($self, name, /)"⟩,
  ⟨"__lt__", .slot, some "Return self<value.", some "($self, value, /)"⟩,
  ⟨"__le__", .slot, some "Return self<=value.", some "($self, value, /)"⟩,
  ⟨"__eq__", .slot, some "Return self==value.", some "($self, value, /)"⟩,
  ⟨"__ne__", .slot, some "Return self!=value.", some "($self, value, /)"⟩,
  ⟨"__gt__", .slot, some "Return self>value.", some "($self, value, /)"⟩,
  ⟨"__ge__", .slot, some "Return self>=value.", some "($self, value, /)"⟩,
  ⟨"__iter__", .slot, some "Implement iter(self).", some "($self, /)"⟩,
  ⟨"__or__", .slot, some "Return self|value.", some "($self, value, /)"⟩,
  ⟨"__ror__", .slot, some "Return value|self.", some "($self, value, /)"⟩,
  ⟨"__ior__", .slot, some "Return self|=value.", some "($self, value, /)"⟩,
  ⟨"__len__", .slot, some "Return len(self).", some "($self, /)"⟩,
  ⟨"__getitem__", .slot, some "Return self[key].", some "($self, key, /)"⟩,
  ⟨"__contains__", .slot, some "Return key in self.", some "($self, key, /)"⟩,
  ⟨"get", .method, some "D.get(k[,d]) -> D[k] if k in D, else d.  d defaults to None.", none⟩,
  ⟨"keys", .method, some "D.keys() -> a set-like object providing a view on D's keys", none⟩,
  ⟨"values", .method, some "D.values() -> an object providing a view on D's values", none⟩,
  ⟨"items", .method, some "D.items() -> a set-like object providing a view on D's items", none⟩,
  ⟨"copy", .method, some "D.copy() -> a shallow copy of D", none⟩,
  ⟨"__class_getitem__", .classMethod, some "See PEP 585", none⟩,
  ⟨"__reversed__", .method, some "D.__reversed__() -> reverse iterator", none⟩,
  ⟨"__doc__", .absent, none, none⟩,
  ⟨"__hash__", .absent, none, none⟩]

/-- The class of dictionaries of members. -/
def membersClass : ClassInfo where
  name := "mappingproxy"
  parent := some .thing
  size := 24
  flags := 545088
  members := membersMembers

/-- The members of classes with something in brackets. -/
def subscriptedMembers : List Member := [
  ⟨"__new__", .constructor, some ("Create and return a new object.  See help(type) for " ++
    "accurate signature."), some "($type, *args, **kwargs)"⟩,
  ⟨"__repr__", .slot, some "Return repr(self).", some "($self, /)"⟩,
  ⟨"__hash__", .slot, some "Return hash(self).", some "($self, /)"⟩,
  ⟨"__call__", .slot, some "Call self as a function.", some "($self, /, *args, **kwargs)"⟩,
  ⟨"__getattribute__", .slot, some "Return getattr(self, name).", some "($self, name, /)"⟩,
  ⟨"__lt__", .slot, some "Return self<value.", some "($self, value, /)"⟩,
  ⟨"__le__", .slot, some "Return self<=value.", some "($self, value, /)"⟩,
  ⟨"__eq__", .slot, some "Return self==value.", some "($self, value, /)"⟩,
  ⟨"__ne__", .slot, some "Return self!=value.", some "($self, value, /)"⟩,
  ⟨"__gt__", .slot, some "Return self>value.", some "($self, value, /)"⟩,
  ⟨"__ge__", .slot, some "Return self>=value.", some "($self, value, /)"⟩,
  ⟨"__iter__", .slot, some "Implement iter(self).", some "($self, /)"⟩,
  ⟨"__or__", .slot, some "Return self|value.", some "($self, value, /)"⟩,
  ⟨"__ror__", .slot, some "Return value|self.", some "($self, value, /)"⟩,
  ⟨"__getitem__", .slot, some "Return self[key].", some "($self, key, /)"⟩,
  ⟨"__mro_entries__", .method, none, none⟩,
  ⟨"__instancecheck__", .method, none, none⟩,
  ⟨"__subclasscheck__", .method, none, none⟩,
  ⟨"__reduce__", .method, none, none⟩,
  ⟨"__dir__", .method, none, none⟩,
  ⟨"__origin__", .field, none, none⟩,
  ⟨"__args__", .field, none, none⟩,
  ⟨"__unpacked__", .field, none, none⟩,
  ⟨"__parameters__", .attribute, some "Type variables in the GenericAlias.", none⟩,
  ⟨"__typing_unpacked_tuple_args__", .attribute, none, none⟩,
  ⟨"__doc__", .text, some ("Represent a PEP 585 generic type\n\nE.g. for t = list[int], " ++
    "t.__origin__ is list and t.__args__ is (int,)."), none⟩]

/-- The class of classes with something in brackets. -/
def subscriptedClass : ClassInfo where
  name := "GenericAlias"
  home := "types"
  parent := some .thing
  size := 64
  flags := 548096
  referenceOffset := 40
  members := subscriptedMembers

end Tabstave.NamePattern
