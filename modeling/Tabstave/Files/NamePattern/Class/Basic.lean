/-!
# Classes and members

What a field stands for belongs to a class, and its class says which members can be picked of it. A
class is a thing as well, and so are its members, so that members of these can be picked in turn.

`ClassInfo` holds what is known of a class: its name, its parent, its sizes and the members that it
adds to those of its parent.
-/

namespace Tabstave.NamePattern

/-- The classes of things that a field can come to. -/
inductive Class
  | text
  | number
  | truth
  | nothing
  | tuple
  | dictionary
  /-- The class that everything belongs to. -/
  | thing
  /-- The class of classes. -/
  | kind
  /-- A method together with the thing whose method it is. -/
  | function
  /-- A method that an operator uses, together with the thing whose method it is. -/
  | wrapper
  | method
  /-- A method that an operator uses. -/
  | slot
  /-- A member that is worked out. -/
  | attribute
  /-- A member that is stored. -/
  | field
  | classMethod
  | staticMethod
  /-- The dictionary of the members of a class. -/
  | members
  /-- A class with something in brackets. -/
  | subscripted
  deriving DecidableEq, Repr

/-- What a member of a class is. -/
inductive MemberKind
  | method
  | slot
  | attribute
  | field
  | classMethod
  | staticMethod
  /-- What makes new things of the class. -/
  | constructor
  /-- A text, which the member has for its description. -/
  | text
  /-- A member that is there to say that there is none. -/
  | absent
  deriving DecidableEq, Repr

/-- A member of a class. -/
structure Member where
  name : String
  kind : MemberKind
  /-- The words that describe the member. -/
  doc : Option String
  /-- What a method takes. -/
  signature : Option String
  deriving DecidableEq, Repr

/-- What is known of a class. -/
structure ClassInfo where
  name : String
  /-- The module that the class belongs to. -/
  home : String := "builtins"
  /-- The words that describe the class, where no member holds them. -/
  doc : Option String := none
  /-- What makes new things of the class takes. -/
  signature : Option String := none
  parent : Option Class := none
  size : Nat
  itemSize : Nat := 0
  flags : Nat
  dictionaryOffset : Nat := 0
  referenceOffset : Nat := 0
  members : List Member

end Tabstave.NamePattern
