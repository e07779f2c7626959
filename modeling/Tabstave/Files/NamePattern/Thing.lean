import Tabstave.Fault
import Tabstave.Files.NamePattern.Class.Lookup

/-!
# What a field stands for

A field stands for a text, but what is picked of it may be something else: a class, a method, a
number, several things at once. `Thing.member` picks a member by its name, and `Thing.item` one by a
position or a key in brackets.

A member that a class keeps for its things is bound to the thing that it is picked of. A class has
the members that it keeps for its things, unbound, and those that all classes have; of these, an
attribute or a field goes before any other member of the same name.
-/

namespace Tabstave.NamePattern

/-- What a field can come to. -/
inductive Thing
  | text (cs : List Char)
  | number (n : Int)
  | truth (b : Bool)
  | nothing
  | tuple (items : List Thing)
  /-- A dictionary without entries. -/
  | emptyDictionary
  | class (c : Class)
  /-- A method of this thing. -/
  | function (owner : Thing) (member : Member)
  /-- A method of this thing that an operator uses, and the class that has it. -/
  | wrapper (owner : Thing) (home : Class) (member : Member)
  /-- A member of a class, bound to nothing. -/
  | unbound (home : Class) (member : Member)
  /-- The dictionary of the members of a class. -/
  | members (c : Class)
  /-- A class with something in brackets. -/
  | subscripted (origin : Class) (argument : Thing)

namespace Thing

/-- The class of the members of a kind, as they are when they are bound to nothing. -/
def classOfMember : MemberKind → Class
  | .method => .method
  | .slot => .slot
  | .attribute => .attribute
  | .field => .field
  | .classMethod => .classMethod
  | .staticMethod => .staticMethod
  | .constructor => .function
  | .text => .text
  | .absent => .nothing

/-- The class of a thing. -/
def kind : Thing → Class
  | .text _ => .text
  | .number _ => .number
  | .truth _ => .truth
  | .nothing => .nothing
  | .tuple _ => .tuple
  | .emptyDictionary => .dictionary
  | .class _ => .kind
  | .function _ _ => .function
  | .wrapper _ _ _ => .wrapper
  | .unbound _ member => classOfMember member.kind
  | .members _ => .members
  | .subscripted _ _ => .subscripted

/-- The place in memory that is shown for things that are told apart by it. -/
def place : String :=
  "0x7f0000000000"

/-- How a member that is bound to a thing of a class is shown. -/
def showBound (lead : String) (name : String) (owner : Class) : String :=
  "<" ++ lead ++ " " ++ name ++ " of " ++ owner.fullName ++ " object at " ++ place ++ ">"

/-- How a member is shown that is bound to nothing. -/
def showUnbound (home : Class) (member : Member) : String :=
  let lead (words : String) : String :=
    "<" ++ words ++ " '" ++ member.name ++ "' of '" ++ home.fullName ++ "' objects>"
  match member.kind with
  | .method | .classMethod => lead "method"
  | .slot => lead "slot wrapper"
  | .attribute => lead "attribute"
  | .field => lead "member"
  | .staticMethod => "<staticmethod(" ++ showBound "built-in method" member.name .kind ++ ")>"
  | .constructor => showBound "built-in method" member.name .kind
  | .text => Text.showString (member.doc.getD "")
  | .absent => "None"

/-- How the dictionary of the members of a class is shown. -/
def showMembers (c : Class) : String :=
  let entries := c.info.members.map fun member ↦
    Text.showString member.name ++ ": " ++ showUnbound c member
  "mappingproxy(\x7b" ++ String.intercalate ", " entries ++ "\x7d)"

mutual

/-- How a thing is shown. -/
def shown : Thing → String
  | .text cs => String.ofList (Text.quoted cs)
  | .number n => toString n
  | .truth b => if b then "True" else "False"
  | .nothing => "None"
  | .tuple items =>
    match items with
    | [item] => "(" ++ shown item ++ ",)"
    | items => "(" ++ String.intercalate ", " (shownAll items) ++ ")"
  | .emptyDictionary => "\x7b\x7d"
  | .class c => "<class '" ++ c.fullName ++ "'>"
  | .function owner member => showBound "built-in method" member.name owner.kind
  | .wrapper owner _ member => showBound "method-wrapper" ("'" ++ member.name ++ "'") owner.kind
  | .unbound home member => showUnbound home member
  | .members c => showMembers c
  | .subscripted origin argument => origin.fullName ++ "[" ++ shown argument ++ "]"
termination_by structural thing => thing

/-- How several things are shown. -/
def shownAll : List Thing → List String
  | [] => []
  | thing :: rest => shown thing :: shownAll rest
termination_by structural things => things

end

/-- A text, or nothing. -/
def ofText? : Option String → Thing
  | some s => .text s.toList
  | none => .nothing

/-- A text. -/
def ofText (s : String) : Thing :=
  .text s.toList

/-- What a member is by itself, of the class that has it. -/
def ofMember (home : Class) (member : Member) : Thing :=
  match member.kind with
  | .constructor => .function (.class home) member
  | .text => ofText? member.doc
  | .absent => .nothing
  | _ => .unbound home member

/-- A member bound to a thing. -/
def bind (thing : Thing) (home : Class) (member : Member) : Thing :=
  match member.kind with
  | .method => .function thing member
  | .slot => .wrapper thing home member
  | .classMethod => .function (.class thing.kind) member
  | .staticMethod => .function (.class home) member
  | _ => ofMember home member

/-- A member as a class has it for its things. -/
def ofClass (c home : Class) (member : Member) : Thing :=
  match member.kind with
  | .classMethod => .function (.class c) member
  | .staticMethod => .function (.class home) member
  | _ => ofMember home member

/-- The description of a class. -/
def describeClass (c : Class) : Thing :=
  match c.info.doc, c.own? "__doc__" with
  | some doc, _ => ofText doc
  | none, some member => ofMember c member
  | none, none => .nothing

/-- What classes say of themselves. -/
def ofClassInfo (c : Class) (name : String) : Except PatternFault Thing :=
  match name with
  | "__name__" | "__qualname__" => .ok (ofText c.name)
  | "__bases__" => .ok (.tuple (c.info.parent.toList.map .class))
  | "__module__" => .ok (ofText c.info.home)
  | "__dict__" => .ok (.members c)
  | "__doc__" => .ok (describeClass c)
  | "__text_signature__" => .ok (ofText? c.info.signature)
  | "__basicsize__" => .ok (.number c.info.size)
  | "__itemsize__" => .ok (.number c.info.itemSize)
  | "__flags__" => .ok (.number c.info.flags)
  | "__dictoffset__" => .ok (.number c.info.dictionaryOffset)
  | "__weakrefoffset__" => .ok (.number c.info.referenceOffset)
  | "__base__" =>
    .ok (match c.info.parent with
      | some parent => .class parent
      | none => .nothing)
  | "__mro__" => .ok (.tuple (c.lineage.map .class))
  | "__abstractmethods__" => .error (.unsetPart name)
  | _ => .error (.noSuchClassPart c.fullName name)

/-- What members say of themselves: their name and description and the class that has them. -/
def ofMemberInfo (home : Class) (member : Member) (name : String) : Thing :=
  match name with
  | "__name__" => ofText member.name
  | "__qualname__" => ofText (home.name ++ "." ++ member.name)
  | "__objclass__" => .class home
  | "__text_signature__" => ofText? member.signature
  | _ => ofText? member.doc

/-- What an attribute or a field is for a thing. -/
def read (thing : Thing) (name : String) : Except PatternFault Thing :=
  match thing, name with
  | thing, "__class__" => .ok (.class thing.kind)
  | .class c, name => ofClassInfo c name
  | .number n, "real" | .number n, "numerator" => .ok (.number n)
  | .truth b, "real" | .truth b, "numerator" => .ok (.number (if b then 1 else 0))
  | .number _, "imag" | .truth _, "imag" => .ok (.number 0)
  | .number _, _ | .truth _, _ => .ok (.number 1)
  | .function owner member, "__self__" =>
    .ok (if member.kind == .staticMethod then .nothing else owner)
  | .function _ _, "__module__" => .ok .nothing
  | .function (.class c) member, name => .ok (ofMemberInfo c member name)
  | .function owner member, name => .ok (ofMemberInfo owner.kind member name)
  | .wrapper owner _ _, "__self__" => .ok owner
  | .wrapper _ home member, name => .ok (ofMemberInfo home member name)
  | .unbound home member, name =>
    match member.kind, name with
    | .staticMethod, "__isabstractmethod__" => .ok (.truth false)
    | .staticMethod, "__dict__" => .ok .emptyDictionary
    | .staticMethod, _ => .ok (.function (.class home) member)
    | _, name => .ok (ofMemberInfo home member name)
  | .subscripted origin _, "__origin__" => .ok (.class origin)
  | .subscripted _ argument, "__args__" => .ok (.tuple [argument])
  | .subscripted _ _, "__parameters__" => .ok (.tuple [])
  | .subscripted _ _, "__unpacked__" => .ok (.truth false)
  | _, _ => .ok .nothing

/-- Whether a member is worked out or stored for each thing, and not bound to it. -/
def isRead (member : Member) : Bool :=
  member.kind == .attribute || member.kind == .field

/-- A member of a class as a thing. -/
def memberOfClass (c : Class) (name : String) : Except PatternFault Thing :=
  match Class.find? .kind name, c.find? name with
  | some (home, member), own =>
    if isRead member then read (.class c) name
    else
      match own with
      | some (home, member) => .ok (ofClass c home member)
      | none => .ok (bind (.class c) home member)
  | none, some (home, member) => .ok (ofClass c home member)
  | none, none => .error (.noSuchClassPart c.fullName name)

/-- The members that a class with something in brackets has of its own; any other is one of the
class. -/
def subscriptedParts : List String :=
  ["__class__", "__origin__", "__args__", "__unpacked__", "__parameters__",
    "__typing_unpacked_tuple_args__", "__mro_entries__", "__reduce_ex__", "__reduce__", "__copy__",
    "__deepcopy__"]

/-- A member of a thing. -/
def member (thing : Thing) (name : String) : Except PatternFault Thing :=
  let general : Except PatternFault Thing :=
    match thing.kind.find? name with
    | some (home, member) =>
      if isRead member then read thing name else .ok (bind thing home member)
    | none => .error (.noSuchPart thing.kind.fullName name)
  match thing with
  | .class c => memberOfClass c name
  | .subscripted origin _ =>
    if subscriptedParts.contains name then general else memberOfClass origin name
  | _ => general

/-- Something picked of a class in brackets. -/
def subscript (c : Class) (argument : Thing) : Except PatternFault Thing :=
  if c == .kind || (c.find? "__class_getitem__").isSome then .ok (.subscripted c argument)
  else .error (.classNotSubscriptable c.fullName)

/-- The item at a position. -/
def itemAt (thing : Thing) (index : Nat) : Except PatternFault Thing :=
  match thing with
  | .text cs =>
    match cs[index]? with
    | some c => .ok (.text [c])
    | none => .error .noSuchCharacter
  | .tuple items =>
    match items[index]? with
    | some item => .ok item
    | none => .error .noSuchItem
  | .emptyDictionary | .members _ => .error (.noSuchKey (toString index))
  | .class c => subscript c (.number index)
  | .subscripted _ _ => .error (.notGeneric thing.shown)
  | thing => .error (.notSubscriptable thing.kind.fullName)

/-- The item of a key that is no position. -/
def itemOf (thing : Thing) (key : List Char) : Except PatternFault Thing :=
  match thing with
  | .text _ => .error .notAPosition
  | .tuple _ => .error .notATuplePosition
  | .emptyDictionary => .error (.noSuchKey (String.ofList (Text.quoted key)))
  | .members c =>
    match c.own? (String.ofList key) with
    | some member => .ok (ofMember c member)
    | none => .error (.noSuchKey (String.ofList (Text.quoted key)))
  | .class c => subscript c (.text key)
  | .subscripted _ _ => .error (.notGeneric thing.shown)
  | thing => .error (.notSubscriptable thing.kind.fullName)

end Thing

end Tabstave.NamePattern
