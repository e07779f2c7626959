import Tabstave.Files.NamePattern.Class.Base
import Tabstave.Files.NamePattern.Class.Collection
import Tabstave.Files.NamePattern.Class.Function
import Tabstave.Files.NamePattern.Class.Number
import Tabstave.Files.NamePattern.Class.Text

/-!
# Looking up members

A member is looked for in the class of a thing, then in the parent of the class, and so on:
`Class.find?` gives the member and the class that has it.
-/

namespace Tabstave.NamePattern.Class

/-- What is known of a class. -/
def info : Class → ClassInfo
  | .text => textClass
  | .number => numberClass
  | .truth => truthClass
  | .nothing => nothingClass
  | .tuple => tupleClass
  | .dictionary => dictionaryClass
  | .thing => thingClass
  | .kind => kindClass
  | .function => functionClass
  | .wrapper => wrapperClass
  | .method => methodClass
  | .slot => slotClass
  | .attribute => attributeClass
  | .field => fieldClass
  | .classMethod => classMethodClass
  | .staticMethod => staticMethodClass
  | .members => membersClass
  | .subscripted => subscriptedClass

/-- The name of a class without its module. -/
def name (c : Class) : String :=
  c.info.name

/-- The name of a class, with its module unless it is built in. -/
def fullName (c : Class) : String :=
  if c.info.home == "builtins" then c.name else c.info.home ++ "." ++ c.name

/-- The class, its parent, and so on. -/
def lineage : Class → List Class
  | .thing => [.thing]
  | .truth => [.truth, .number, .thing]
  | c => [c, .thing]

/-- A member that the class itself has. -/
def own? (c : Class) (name : String) : Option Member :=
  c.info.members.find? (·.name == name)

/-- A member of a class, and which class of its lineage has it. -/
def find? (c : Class) (name : String) : Option (Class × Member) :=
  c.lineage.findSome? fun home ↦ (home.own? name).map (home, ·)

/-- The parent of a class stands next in its lineage. -/
theorem lineage_parent (c : Class) : c.lineage[1]? = c.info.parent := by
  cases c <;> rfl

end Tabstave.NamePattern.Class
