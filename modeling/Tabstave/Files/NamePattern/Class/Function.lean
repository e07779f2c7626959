import Tabstave.Files.NamePattern.Class.Basic

/-!
# Members of members

Members are things themselves, with members of their own. Each has a name, a kind,
the words that describe it and, for a method, what it takes.
-/

namespace Tabstave.NamePattern

/-- The members of methods of one thing. -/
def functionMembers : List Member := [
  ⟨"__repr__", .slot, some "Return repr(self).", some "($self, /)"⟩,
  ⟨"__hash__", .slot, some "Return hash(self).", some "($self, /)"⟩,
  ⟨"__call__", .slot, some "Call self as a function.", some "($self, /, *args, **kwargs)"⟩,
  ⟨"__getattribute__", .slot, some "Return getattr(self, name).", some "($self, name, /)"⟩,
  ⟨"__lt__", .slot, some "Return self<value.", some "($self, value, /)"⟩,
  ⟨"__le__", .slot, some "Return self<=value.", some "($self, value, /)"⟩,
  ⟨"__eq__", .slot, some "Return self==value.", some "($self, value, /)"⟩,
  ⟨"__ne__", .slot, some "Return self!=value.", some "($self, value, /)"⟩,
  ⟨"__gt__", .slot, some "Return self>value.", some "($self, value, /)"⟩,
  ⟨"__ge__", .slot, some "Return self>=value.", some "($self, value, /)"⟩,
  ⟨"__reduce__", .method, none, none⟩,
  ⟨"__module__", .field, none, none⟩,
  ⟨"__doc__", .attribute, none, none⟩,
  ⟨"__name__", .attribute, none, none⟩,
  ⟨"__qualname__", .attribute, none, none⟩,
  ⟨"__self__", .attribute, none, none⟩,
  ⟨"__text_signature__", .attribute, none, none⟩]

/-- The class of methods of one thing. -/
def functionClass : ClassInfo where
  name := "builtin_function_or_method"
  parent := some .thing
  size := 56
  flags := 547200
  referenceOffset := 40
  members := functionMembers

/-- The members of methods of one thing that an operator uses. -/
def wrapperMembers : List Member := [
  ⟨"__repr__", .slot, some "Return repr(self).", some "($self, /)"⟩,
  ⟨"__hash__", .slot, some "Return hash(self).", some "($self, /)"⟩,
  ⟨"__call__", .slot, some "Call self as a function.", some "($self, /, *args, **kwargs)"⟩,
  ⟨"__getattribute__", .slot, some "Return getattr(self, name).", some "($self, name, /)"⟩,
  ⟨"__lt__", .slot, some "Return self<value.", some "($self, value, /)"⟩,
  ⟨"__le__", .slot, some "Return self<=value.", some "($self, value, /)"⟩,
  ⟨"__eq__", .slot, some "Return self==value.", some "($self, value, /)"⟩,
  ⟨"__ne__", .slot, some "Return self!=value.", some "($self, value, /)"⟩,
  ⟨"__gt__", .slot, some "Return self>value.", some "($self, value, /)"⟩,
  ⟨"__ge__", .slot, some "Return self>=value.", some "($self, value, /)"⟩,
  ⟨"__reduce__", .method, none, none⟩,
  ⟨"__self__", .field, none, none⟩,
  ⟨"__objclass__", .attribute, none, none⟩,
  ⟨"__name__", .attribute, none, none⟩,
  ⟨"__qualname__", .attribute, none, none⟩,
  ⟨"__doc__", .attribute, none, none⟩,
  ⟨"__text_signature__", .attribute, none, none⟩]

/-- The class of methods of one thing that an operator uses. -/
def wrapperClass : ClassInfo where
  name := "method-wrapper"
  parent := some .thing
  size := 32
  flags := 545152
  members := wrapperMembers

/-- The members of methods. -/
def methodMembers : List Member := [
  ⟨"__repr__", .slot, some "Return repr(self).", some "($self, /)"⟩,
  ⟨"__call__", .slot, some "Call self as a function.", some "($self, /, *args, **kwargs)"⟩,
  ⟨"__getattribute__", .slot, some "Return getattr(self, name).", some "($self, name, /)"⟩,
  ⟨"__get__", .slot, some "Return an attribute of instance, which is of type owner.",
    some "($self, instance, owner=None, /)"⟩,
  ⟨"__reduce__", .method, none, none⟩,
  ⟨"__objclass__", .field, none, none⟩,
  ⟨"__name__", .field, none, none⟩,
  ⟨"__doc__", .attribute, none, none⟩,
  ⟨"__qualname__", .attribute, none, none⟩,
  ⟨"__text_signature__", .attribute, none, none⟩]

/-- The class of methods. -/
def methodClass : ClassInfo where
  name := "method_descriptor"
  parent := some .thing
  size := 56
  flags := 678272
  members := methodMembers

/-- The members of methods that an operator uses. -/
def slotMembers : List Member := [
  ⟨"__repr__", .slot, some "Return repr(self).", some "($self, /)"⟩,
  ⟨"__call__", .slot, some "Call self as a function.", some "($self, /, *args, **kwargs)"⟩,
  ⟨"__getattribute__", .slot, some "Return getattr(self, name).", some "($self, name, /)"⟩,
  ⟨"__get__", .slot, some "Return an attribute of instance, which is of type owner.",
    some "($self, instance, owner=None, /)"⟩,
  ⟨"__reduce__", .method, none, none⟩,
  ⟨"__objclass__", .field, none, none⟩,
  ⟨"__name__", .field, none, none⟩,
  ⟨"__doc__", .attribute, none, none⟩,
  ⟨"__qualname__", .attribute, none, none⟩,
  ⟨"__text_signature__", .attribute, none, none⟩]

/-- The class of methods that an operator uses. -/
def slotClass : ClassInfo where
  name := "wrapper_descriptor"
  parent := some .thing
  size := 56
  flags := 676224
  members := slotMembers

/-- The members of attributes. -/
def attributeMembers : List Member := [
  ⟨"__repr__", .slot, some "Return repr(self).", some "($self, /)"⟩,
  ⟨"__getattribute__", .slot, some "Return getattr(self, name).", some "($self, name, /)"⟩,
  ⟨"__get__", .slot, some "Return an attribute of instance, which is of type owner.",
    some "($self, instance, owner=None, /)"⟩,
  ⟨"__set__", .slot, some "Set an attribute of instance to value.",
    some "($self, instance, value, /)"⟩,
  ⟨"__delete__", .slot, some "Delete an attribute of instance.", some "($self, instance, /)"⟩,
  ⟨"__objclass__", .field, none, none⟩,
  ⟨"__name__", .field, none, none⟩,
  ⟨"__doc__", .attribute, none, none⟩,
  ⟨"__qualname__", .attribute, none, none⟩]

/-- The class of attributes. -/
def attributeClass : ClassInfo where
  name := "getset_descriptor"
  parent := some .thing
  size := 48
  flags := 545152
  members := attributeMembers

/-- The members of fields. -/
def fieldMembers : List Member := [
  ⟨"__repr__", .slot, some "Return repr(self).", some "($self, /)"⟩,
  ⟨"__getattribute__", .slot, some "Return getattr(self, name).", some "($self, name, /)"⟩,
  ⟨"__get__", .slot, some "Return an attribute of instance, which is of type owner.",
    some "($self, instance, owner=None, /)"⟩,
  ⟨"__set__", .slot, some "Set an attribute of instance to value.",
    some "($self, instance, value, /)"⟩,
  ⟨"__delete__", .slot, some "Delete an attribute of instance.", some "($self, instance, /)"⟩,
  ⟨"__reduce__", .method, none, none⟩,
  ⟨"__objclass__", .field, none, none⟩,
  ⟨"__name__", .field, none, none⟩,
  ⟨"__doc__", .attribute, none, none⟩,
  ⟨"__qualname__", .attribute, none, none⟩]

/-- The class of fields. -/
def fieldClass : ClassInfo where
  name := "member_descriptor"
  parent := some .thing
  size := 48
  flags := 545152
  members := fieldMembers

/-- The members of methods of a class itself. -/
def classMethodMembers : List Member := [
  ⟨"__repr__", .slot, some "Return repr(self).", some "($self, /)"⟩,
  ⟨"__call__", .slot, some "Call self as a function.", some "($self, /, *args, **kwargs)"⟩,
  ⟨"__getattribute__", .slot, some "Return getattr(self, name).", some "($self, name, /)"⟩,
  ⟨"__get__", .slot, some "Return an attribute of instance, which is of type owner.",
    some "($self, instance, owner=None, /)"⟩,
  ⟨"__objclass__", .field, none, none⟩,
  ⟨"__name__", .field, none, none⟩,
  ⟨"__doc__", .attribute, none, none⟩,
  ⟨"__qualname__", .attribute, none, none⟩,
  ⟨"__text_signature__", .attribute, none, none⟩]

/-- The class of methods of a class itself. -/
def classMethodClass : ClassInfo where
  name := "classmethod_descriptor"
  parent := some .thing
  size := 56
  flags := 545152
  members := classMethodMembers

/-- The members of methods that belong to nothing. -/
def staticMethodMembers : List Member := [
  ⟨"__new__", .constructor, some ("Create and return a new object.  See help(type) for " ++
    "accurate signature."), some "($type, *args, **kwargs)"⟩,
  ⟨"__repr__", .slot, some "Return repr(self).", some "($self, /)"⟩,
  ⟨"__call__", .slot, some "Call self as a function.", some "($self, /, *args, **kwargs)"⟩,
  ⟨"__get__", .slot, some "Return an attribute of instance, which is of type owner.",
    some "($self, instance, owner=None, /)"⟩,
  ⟨"__init__", .slot, some "Initialize self.  See help(type(self)) for accurate signature.",
    some "($self, /, *args, **kwargs)"⟩,
  ⟨"__func__", .field, none, none⟩,
  ⟨"__wrapped__", .field, none, none⟩,
  ⟨"__isabstractmethod__", .attribute, none, none⟩,
  ⟨"__dict__", .attribute, none, none⟩,
  ⟨"__doc__", .text, some ("staticmethod(function) -> method\n\nConvert a function to be a " ++
    "static method.\n\nA static method does not receive an implicit first argument.\nTo " ++
    "declare a static method, use this idiom:\n\n     class C:\n         " ++
    "@staticmethod\n         def f(arg1, arg2, argN):\n             ...\n\nIt can be called " ++
    "either on the class (e.g. C.f()) or on an instance\n(e.g. C().f()). Both the class and " ++
    "the instance are ignored, and\nneither is passed implicitly as the first argument to " ++
    "the method.\n\nStatic methods in Python are similar to those found in Java or C++.\n" ++
    "For a more advanced concept, see the classmethod builtin."), none⟩]

/-- The class of methods that belong to nothing. -/
def staticMethodClass : ClassInfo where
  name := "staticmethod"
  parent := some .thing
  size := 32
  flags := 546048
  dictionaryOffset := 24
  members := staticMethodMembers

end Tabstave.NamePattern
