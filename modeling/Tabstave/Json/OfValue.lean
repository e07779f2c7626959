import Tabstave.Json.Basic
import Tabstave.Sorting.Basic
import Tabstave.Value.Order

/-!
# Values as JSON

Not every value can be written as JSON. Sequences become arrays, a set becomes the array of its
members in ascending order, the kinds of lines and paths become texts, and a cursor or an entry of a
line map becomes the object of its fields. The keys of an object are texts; numbers, truth values
and nothing are written as texts when they are keys, after the keys have been put in order. What is
written is a sequence of characters, so a text that is none is refused.
-/

namespace Tabstave.Value

/-- The text of a key. -/
def keyText : Value → Except Fault String
  | .str s => .ok s
  | .halves codes => .error (.halves codes)
  | .float x => .ok (String.ofList (Json.renderFloat x))
  | .bool b => .ok (String.ofList (Json.renderBool b))
  | .null => .ok "null"
  | .int n => .ok (String.ofList (Json.renderInt n))
  | v => .error (.keyType v.typeName)

/-- An object of a key, a value and what the value becomes, the keys put in order if asked for. -/
def objectOf (sortKeys : Bool) (entries : List (Value × Except Fault Json)) : Except Fault Json := do
  let entries ←
    if sortKeys then Sorting.sort (fun a b ↦ less a.1 b.1) entries else pure entries
  let members ← entries.mapM fun (key, value) ↦ do return (← keyText key, ← value)
  return .obj members

/-- The array of the members of a set, in ascending order. -/
def arrayOfSet (members : List (Value × Except Fault Json)) : Except Fault Json := do
  let members ← Sorting.sort (fun a b ↦ less a.1 b.1) members
  return .arr (← members.mapM Prod.snd)

mutual

/-- What a value becomes in JSON. -/
def toJson (sortKeys : Bool) : Value → Except Fault Json
  | .null => .ok .null
  | .bool b => .ok (.bool b)
  | .int n => .ok (.int n)
  | .float x => .ok (.float x)
  | .str s => .ok (.str s)
  | .halves codes => .error (.halves codes)
  | .list items => do return .arr (← (itemsToJson sortKeys items).mapM Prod.snd)
  | .tuple items => do return .arr (← (itemsToJson sortKeys items).mapM Prod.snd)
  | .set items => arrayOfSet (itemsToJson sortKeys items)
  | .dict entries => objectOf sortKeys (entriesToJson sortKeys entries)
  | .path s => .ok (.str s)
  | .lineKind kind => .ok (.str kind.name)
  | .cursor line column =>
    objectOf sortKeys
      [(.str "line", toJson sortKeys line), (.str "column", toJson sortKeys column)]
  | .mapping sourceLine expandedLine columnOffset kind =>
    objectOf sortKeys
      [(.str "original_line", toJson sortKeys sourceLine),
        (.str "processed_line", toJson sortKeys expandedLine),
        (.str "column_offset", toJson sortKeys columnOffset),
        (.str "kind", .ok (.str kind.name))]
  | v => .error (.notSerializable v.typeName)
termination_by structural v => v

/-- The items of a collection, each with what it becomes. -/
def itemsToJson (sortKeys : Bool) : List Value → List (Value × Except Fault Json)
  | [] => []
  | item :: rest => (item, toJson sortKeys item) :: itemsToJson sortKeys rest
termination_by structural items => items

/-- The keys of a dictionary, each with what its value becomes. -/
def entriesToJson (sortKeys : Bool) : List (Value × Value) → List (Value × Except Fault Json)
  | [] => []
  | (key, value) :: rest => (key, toJson sortKeys value) :: entriesToJson sortKeys rest
termination_by structural entries => entries

end

end Tabstave.Value
