import Tabstave.Files.NamePattern.Layout
import Tabstave.Files.NamePattern.Thing

/-!
# Filling in a pattern

`fill` puts in the place of each field what it stands for. A name may be followed by points and
names of members, and by positions or keys in brackets; what is picked so is quoted if asked for,
and laid out. Texts and numbers can be laid out in many ways; anything else only as it is shown.
-/

namespace Tabstave.NamePattern

/-- Pick of a thing what the rest of the name of a field says: a point and a name, or a position or
key in brackets, again and again. -/
def pick (fuel : Nat) (thing : Thing) : List Char → Except PatternFault Thing
  | [] => .ok thing
  | c :: rest =>
    match fuel with
    | 0 => .ok thing
    | fuel + 1 =>
      if c == '.' then do
        let name := rest.takeWhile fun c ↦ c != '.' && c != '['
        if name.isEmpty then throw .emptyPart
        pick fuel (← thing.member (String.ofList name)) (rest.drop name.length)
      else if c == '[' then do
        let inside := rest.takeWhile (· != ']')
        let index ← position? inside
        if inside.isEmpty then throw .emptyPart
        let item ← match index with
          | none => thing.itemOf inside
          | some index => thing.itemAt index
        pick fuel item ((rest.dropWhile (· != ']')).drop 1)
      else .error .strayAfterBracket

/-- What a field stands for, before it is quoted or laid out. -/
def lookup (fields : List (String × String)) (name : List Char) : Except PatternFault Thing := do
  let first := name.takeWhile fun c ↦ c != '.' && c != '['
  match ← position? first with
  | some index => throw (.numberedField index)
  | none =>
    if first.isEmpty then throw (.numberedField 0)
    match fields.lookup (String.ofList first) with
    | none => throw (.unknownField (String.ofList first))
    | some text => pick name.length (.ofText text) (name.drop first.length)

/-- A thing as a text, without quotes if it is one already. -/
def plain : Thing → List Char
  | .text cs => cs
  | thing => thing.shown.toList

/-- Quote a thing as the conversion of a field asks for. -/
def convert (conversion : Option Char) (thing : Thing) : Except PatternFault Thing :=
  match conversion with
  | none => .ok thing
  | some 's' => .ok (.text (plain thing))
  | some 'r' => .ok (.text thing.shown.toList)
  | some 'a' => .ok (.text (thing.shown.toList.flatMap Text.asciiChar))
  | some c => .error (.unknownConversion c)

section Memory

variable (memory : Memory)

/-- Lay out a thing. -/
def layOut (spec : List Char) (thing : Thing) : Except PatternFault Laid :=
  match thing with
  | .text cs => layOutText memory spec cs
  | thing =>
    if spec.isEmpty then .ok { body := plain thing }
    else
      match thing with
      | .number n => layOutNumber memory thing.kind.name spec n
      | .truth b => layOutNumber memory thing.kind.name spec (if b then 1 else 0)
      | thing => .error (.layoutNotAllowed thing.kind.fullName)

/-- Put together what was laid out. -/
def join (parts : List Laid) : Except PatternFault (List Char) :=
  if memory.crowded ≤ (parts.map Laid.length).foldl (· + ·) 0 then .error .outOfMemory
  else .ok (parts.flatMap Laid.toList)

/-- Fill in a pattern. `depth` says how far fields may be nested. -/
def fillWithin (fields : List (String × String)) (depth : Nat) (pattern : List Char) :
    Except PatternFault (List Char) :=
  match depth with
  | 0 => .error .tooDeep
  | depth + 1 => do
    let (pieces, fault) := pieces pattern
    let parts ← pieces.mapM fun piece ↦
      match piece with
      | .text text => pure { body := text }
      | .field field => do
        let thing ← convert field.conversion (← lookup fields field.name)
        let spec ← if field.nested then fillWithin fields depth field.spec else pure field.spec
        layOut memory spec thing
    match fault with
    | some fault => throw fault
    | none => join memory parts

/-- Fill in a pattern with what its fields stand for. -/
def fill (fields : List (String × String)) (pattern : String) : Except Fault String :=
  match fillWithin memory fields 2 pattern.toList with
  | .ok text => .ok (String.ofList text)
  | .error fault => .error (.pattern fault)

end Memory

end Tabstave.NamePattern
