import Tabstave.Json.OfValue

/-!
# Writing data as JSON

A `Json.Writer` says how data is written: on one line or indented, with the keys in order or not,
and which parts of a line map report are left out. The parts that are left out are chosen from the
data as it is, so data of any other shape is written whole, unless it is no dictionary at all.

How wide an indentation may be depends on the memory that there is.
-/

namespace Tabstave.Json

/-- How data is written. -/
structure Writer where
  /-- Spread the text over several lines. -/
  prettyPrint : Bool := true
  /-- The unit of indentation: a text, or a number of spaces. -/
  indent : Value := .int 2
  sortKeys : Bool := true
  /-- Keep the kinds of the lines in a report. -/
  includeKinds : Bool := true
  /-- Keep the lines of a report that did not move. -/
  includeUnshifted : Bool := true

/-- The entries of a dictionary made from data: those of a dictionary, or the pairs of a sequence.
-/
def entriesOf (data : Value) : Except Fault (List (Value × Value)) :=
  match data with
  | .dict entries => .ok entries
  | data => do
    let elements ← data.elements
    let step (state : Nat × List (Value × Value)) (element : Value) :
        Except Fault (Nat × List (Value × Value)) := do
      let (index, entries) := state
      match element.elements with
      | .error _ => .error (.elementNotASequence index)
      | .ok [key, value] =>
        Value.checkKey key
        return (index + 1, Value.put key value entries)
      | .ok parts => .error (.elementNotAPair index parts.length)
    return (← elements.foldlM step (0, [])).2

/-- Whether an entry of a report is about a line that moved. -/
def isShifted (entry : Value) : Except Fault Bool := do
  let source ← entry.getText "original_line" .null
  let expanded ← entry.getText "processed_line" .null
  let offset ← entry.getText "column_offset" (.int 0)
  return !source.same expanded || !offset.same (.int 0)

/-- Drop the kind from an entry of a report. -/
def dropKind (entry : Value) : Except Fault Value :=
  match entry with
  | .dict entries => .ok (.dict (entries.filter fun e ↦ !e.1.isText "kind"))
  | entry => .error (.noMember entry.typeName "items")

/-- The entries of a report that are kept, each as it is kept. -/
def keptEntries (includeKinds includeUnshifted : Bool) : List Value → Except Fault (List Value)
  | [] => .ok []
  | entry :: rest => do
    if ← (if includeUnshifted then pure true else isShifted entry) then
      let entry ← if includeKinds then pure entry else dropKind entry
      return entry :: (← keptEntries includeKinds includeUnshifted rest)
    else keptEntries includeKinds includeUnshifted rest

/-- The part of the data that is written. -/
def Writer.select (writer : Writer) (data : Value) : Except Fault Value := do
  if writer.includeKinds && writer.includeUnshifted then return data
  let entries ← entriesOf data
  match Value.find? (.str "lines") entries with
  | some (.list lines) =>
    let kept ← keptEntries writer.includeKinds writer.includeUnshifted lines
    return .dict (Value.put (.str "lines") (.list kept) entries)
  | _ => return .dict entries

/-- Numbers of spaces beyond this cannot be asked for. -/
def maxIndent : Int :=
  Nat.pow 2 63

/-- The layout that the settings ask for. -/
def Writer.layout (writer : Writer) (memory : Memory) : Except Fault Layout :=
  if writer.prettyPrint then
    match writer.indent with
    | .null => .ok .compact
    | .str unit => .ok (.indented 1 unit.toList)
    | .halves codes => .error (.halves codes)
    | indent =>
      match indent.asInt? with
      | some n =>
        if n < -maxIndent || maxIndent ≤ n then .error .repeatTooOften
        else if n.toNat ≥ memory.refused then .error .outOfMemory
        else .ok (.indented n.toNat [' '])
      | none => .error (.repeatCount indent.typeName)
  else .ok .compact

/-- Whether a document in this layout is more than can be put together. -/
def Layout.isTooWide (layout : Layout) (memory : Memory) (json : Json) : Bool :=
  match layout with
  | .compact => false
  | .indented count _ => json.hasLineBreaks && count ≥ memory.crowded

/-- Write data as JSON. A text by itself needs no layout. -/
def Writer.write (writer : Writer) (memory : Memory) (data : Value) : Except Fault (List Char) := do
  match ← writer.select data with
  | .str s => return renderString s
  | .halves codes => throw (.halves codes)
  | data =>
    let layout ← writer.layout memory
    let json ← data.toJson writer.sortKeys
    if layout.isTooWide memory json then throw .outOfMemory
    return render layout 0 json

end Tabstave.Json
