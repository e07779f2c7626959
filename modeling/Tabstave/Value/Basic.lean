import Tabstave.Fault
import Tabstave.Line.Kind
import Tabstave.Number.Binary64

/-!
# Dynamic values

A configuration can hold anything that its language can say, and a report can be asked of any data,
so both are read as a `Value`. A dictionary keeps its entries in the order in which their keys first
came, with one entry for each key.

`Value.isTruthy` says which values count as *yes* where a flag is expected, and `Value.elements`
which can be gone through.
-/

namespace Tabstave

/-- A value of whatever type. -/
inductive Value
  | null
  | bool (b : Bool)
  | int (n : Int)
  | float (x : Binary64)
  | str (s : String)
  /-- A text that is no sequence of characters, since some of its code points are halves of surrogate
  pairs. -/
  | halves (codes : List Nat)
  | bytes (bs : List UInt8)
  | list (items : List Value)
  | tuple (items : List Value)
  | set (items : List Value)
  | dict (entries : List (Value × Value))
  | path (s : String)
  | lineKind (kind : LineKind)
  /-- A caret, whose line and column may be anything. -/
  | cursor (line column : Value)
  /-- An entry of a line map, whose numbers may be anything. -/
  | mapping (sourceLine expandedLine columnOffset : Value) (kind : LineKind)
  | date (year month day : Nat)
  | moment (year month day hour minute second microsecond : Nat) (offsetMinutes : Option Int)
  /-- A thing that is like nothing else. -/
  | thing
deriving Inhabited

namespace Value

/-- The name of the type of a value, as messages give it. -/
def typeName : Value → String
  | .null => "NoneType"
  | .bool _ => "bool"
  | .int _ => "int"
  | .float _ => "float"
  | .str _ => "str"
  | .halves _ => "str"
  | .bytes _ => "bytes"
  | .list _ => "list"
  | .tuple _ => "tuple"
  | .set _ => "set"
  | .dict _ => "dict"
  | .path _ => "PosixPath"
  | .lineKind _ => "LineKind"
  | .cursor _ _ => "CursorLocation"
  | .mapping _ _ _ _ => "LineMapping"
  | .date _ _ _ => "datetime.date"
  | .moment _ _ _ _ _ _ _ _ => "datetime.datetime"
  | .thing => "object"

/-- Whether a value counts as *yes*: it is not zero and not empty. -/
def isTruthy : Value → Bool
  | .null => false
  | .bool b => b
  | .int n => n != 0
  | .float x => !x.isZero
  | .str s => !s.isEmpty
  | .bytes bs => !bs.isEmpty
  | .list items => !items.isEmpty
  | .tuple items => !items.isEmpty
  | .set items => !items.isEmpty
  | .dict entries => !entries.isEmpty
  | _ => true

/-- The text with these code points. -/
def ofCodes (codes : List Nat) : Value :=
  match Text.characters? codes with
  | some text => .str (String.ofList text)
  | none => .halves codes

/-- The elements of a value: the items of a collection, the keys of a dictionary, the characters of
a text, the numbers of bytes. -/
def elements : Value → Except Fault (List Value)
  | .list items => .ok items
  | .tuple items => .ok items
  | .set items => .ok items
  | .dict entries => .ok (entries.map Prod.fst)
  | .str s => .ok (s.toList.map fun c ↦ .str (String.singleton c))
  | .halves codes => .ok (codes.map fun code ↦ ofCodes [code])
  | .bytes bs => .ok (bs.map fun b ↦ .int b.toNat)
  | v => .error (.notIterable v.typeName)

/-- A whole number that a value stands for: truth values count as one and zero. -/
def asInt? : Value → Option Int
  | .bool b => some (if b then 1 else 0)
  | .int n => some n
  | _ => none

end Value

end Tabstave
