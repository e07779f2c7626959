import Tabstave.Files.NamePattern.Class.Basic

/-!
# Members of everything

The members that all things have, and those that classes have. Each has a name, a kind,
the words that describe it and, for a method, what it takes.
-/

namespace Tabstave.NamePattern

/-- The members of everything. -/
def thingMembers : List Member := [
  ⟨"__new__", .constructor, some ("Create and return a new object.  See help(type) for " ++
    "accurate signature."), some "($type, *args, **kwargs)"⟩,
  ⟨"__repr__", .slot, some "Return repr(self).", some "($self, /)"⟩,
  ⟨"__hash__", .slot, some "Return hash(self).", some "($self, /)"⟩,
  ⟨"__str__", .slot, some "Return str(self).", some "($self, /)"⟩,
  ⟨"__getattribute__", .slot, some "Return getattr(self, name).", some "($self, name, /)"⟩,
  ⟨"__setattr__", .slot, some "Implement setattr(self, name, value).",
    some "($self, name, value, /)"⟩,
  ⟨"__delattr__", .slot, some "Implement delattr(self, name).", some "($self, name, /)"⟩,
  ⟨"__lt__", .slot, some "Return self<value.", some "($self, value, /)"⟩,
  ⟨"__le__", .slot, some "Return self<=value.", some "($self, value, /)"⟩,
  ⟨"__eq__", .slot, some "Return self==value.", some "($self, value, /)"⟩,
  ⟨"__ne__", .slot, some "Return self!=value.", some "($self, value, /)"⟩,
  ⟨"__gt__", .slot, some "Return self>value.", some "($self, value, /)"⟩,
  ⟨"__ge__", .slot, some "Return self>=value.", some "($self, value, /)"⟩,
  ⟨"__init__", .slot, some "Initialize self.  See help(type(self)) for accurate signature.",
    some "($self, /, *args, **kwargs)"⟩,
  ⟨"__reduce_ex__", .method, some "Helper for pickle.", some "($self, protocol, /)"⟩,
  ⟨"__reduce__", .method, some "Helper for pickle.", some "($self, /)"⟩,
  ⟨"__getstate__", .method, some "Helper for pickle.", some "($self, /)"⟩,
  ⟨"__subclasshook__", .classMethod, some ("Abstract classes can override this to customize " ++
    "issubclass().\n\nThis is invoked early on by abc.ABCMeta.__subclasscheck__().\nIt " ++
    "should return True, False or NotImplemented.  If it returns\nNotImplemented, the " ++
    "normal algorithm is used.  Otherwise, it\noverrides the normal algorithm (and the " ++
    "outcome is cached).\n"), none⟩,
  ⟨"__init_subclass__", .classMethod, some ("This method is called when a class is " ++
    "subclassed.\n\nThe default implementation does nothing. It may be\noverridden to " ++
    "extend subclasses.\n"), none⟩,
  ⟨"__format__", .method, some "Default object formatter.", some "($self, format_spec, /)"⟩,
  ⟨"__sizeof__", .method, some "Size of object in memory, in bytes.", some "($self, /)"⟩,
  ⟨"__dir__", .method, some "Default dir() implementation.", some "($self, /)"⟩,
  ⟨"__class__", .attribute, some "the object's class", none⟩,
  ⟨"__doc__", .text, some ("The base class of the class hierarchy.\n\nWhen called, it " ++
    "accepts no arguments and returns a new featureless\ninstance that has no instance " ++
    "attributes and cannot be given any.\n"), none⟩]

/-- The class of everything. -/
def thingClass : ClassInfo where
  name := "object"
  signature := some "()"
  size := 16
  flags := 529664
  members := thingMembers

/-- The members of classes. -/
def kindMembers : List Member := [
  ⟨"__new__", .constructor, some ("Create and return a new object.  See help(type) for " ++
    "accurate signature."), some "($type, *args, **kwargs)"⟩,
  ⟨"__repr__", .slot, some "Return repr(self).", some "($self, /)"⟩,
  ⟨"__call__", .slot, some "Call self as a function.", some "($self, /, *args, **kwargs)"⟩,
  ⟨"__getattribute__", .slot, some "Return getattr(self, name).", some "($self, name, /)"⟩,
  ⟨"__setattr__", .slot, some "Implement setattr(self, name, value).",
    some "($self, name, value, /)"⟩,
  ⟨"__delattr__", .slot, some "Implement delattr(self, name).", some "($self, name, /)"⟩,
  ⟨"__init__", .slot, some "Initialize self.  See help(type(self)) for accurate signature.",
    some "($self, /, *args, **kwargs)"⟩,
  ⟨"__or__", .slot, some "Return self|value.", some "($self, value, /)"⟩,
  ⟨"__ror__", .slot, some "Return value|self.", some "($self, value, /)"⟩,
  ⟨"mro", .method, some "Return a type's method resolution order.", some "($self, /)"⟩,
  ⟨"__subclasses__", .method, some "Return a list of immediate subclasses.", some "($self, /)"⟩,
  ⟨"__prepare__", .classMethod, some ("__prepare__() -> dict\nused to create the namespace " ++
    "for the class statement"), none⟩,
  ⟨"__instancecheck__", .method, some "Check if an object is an instance.",
    some "($self, instance, /)"⟩,
  ⟨"__subclasscheck__", .method, some "Check if a class is a subclass.",
    some "($self, subclass, /)"⟩,
  ⟨"__dir__", .method, some "Specialized __dir__ implementation for types.", some "($self, /)"⟩,
  ⟨"__sizeof__", .method, some "Return memory consumption of the type object.",
    some "($self, /)"⟩,
  ⟨"__basicsize__", .field, none, none⟩,
  ⟨"__itemsize__", .field, none, none⟩,
  ⟨"__flags__", .field, none, none⟩,
  ⟨"__weakrefoffset__", .field, none, none⟩,
  ⟨"__base__", .field, none, none⟩,
  ⟨"__dictoffset__", .field, none, none⟩,
  ⟨"__mro__", .field, none, none⟩,
  ⟨"__name__", .attribute, none, none⟩,
  ⟨"__qualname__", .attribute, none, none⟩,
  ⟨"__bases__", .attribute, none, none⟩,
  ⟨"__module__", .attribute, none, none⟩,
  ⟨"__abstractmethods__", .attribute, none, none⟩,
  ⟨"__dict__", .attribute, none, none⟩,
  ⟨"__doc__", .attribute, none, none⟩,
  ⟨"__text_signature__", .attribute, none, none⟩,
  ⟨"__annotations__", .attribute, none, none⟩]

/-- The class of classes. -/
def kindClass : ClassInfo where
  name := "type"
  doc := some ("type(object) -> the object's type\ntype(name, bases, dict, **kwds) -> a new " ++
    "type")
  parent := some .thing
  size := 904
  itemSize := 40
  flags := 2148031744
  dictionaryOffset := 264
  referenceOffset := 368
  members := kindMembers

end Tabstave.NamePattern
