import Tabstave.Value.Members
import Tabstave.Yaml.Node
import Tabstave.Yaml.ScalarValue

/-!
# The value of a configuration text

`Yaml.load` gives the value of the one document of a text. Scalars are read by their tags, sequences
become lists, and mappings become dictionaries, in which a later entry overrides an earlier one with
the same key. The entries of a mapping under the key `<<` are merged into the mapping around it,
where its own entries override them.

Nodes are made into values level by level: a collection is first noted and gets its members when all
that was noted before it has got its own. So of several faults the one that is least deep is
reported, and of those the first. Making a collection only notes which nodes it holds; `valuesTo`
then puts the values together. A collection that holds itself is unrolled, a few levels deeper than
anything looks.
-/

namespace Tabstave.Yaml

/-- What a node has become: a value, or a collection of other nodes. -/
inductive Part
  | atom (value : Value)
  /-- The one value that is no number. -/
  | noNumber
  | list (items : List Nat)
  | pairs (items : List (Nat × Nat))
  | set (items : List Nat)
  | dict (entries : List (Nat × Nat))

/-- Whether what a node has become can be a key. -/
def Part.isKey : Part → Bool
  | .atom _ => true
  | .noNumber => true
  | _ => false

/-- The nodes, what they have become so far, and the collections that have no members yet, in the
order in which they get them. -/
structure Builder where
  graph : Graph
  parts : Array (Option Part)
  waiting : List Nat := []

/-- Making values of nodes. -/
abbrev Build := StateT Builder (Except Fault)

namespace Build

/-- Refuse the document. -/
def refuse {α : Type} : Build α :=
  throw .malformedConfig

/-- The tag of a node. -/
def tagOf (number : Nat) : Build Tag := do
  return (((← get).graph[number]?).map Node.tag).getD .null

/-- What is in a node. -/
def contentOf (number : Nat) : Build Content := do
  return (((← get).graph[number]?).map Node.content).getD (.scalar [])

/-- The entries of a node that is a mapping. -/
def entriesOf (number : Nat) : Build (List (Nat × Nat)) := do
  match ← contentOf number with
  | .mapping entries => return entries
  | _ => refuse

/-- The items of a node that is a sequence. -/
def itemsOf (number : Nat) : Build (List Nat) := do
  match ← contentOf number with
  | .sequence items => return items
  | _ => refuse

/-- Change a node. -/
def change (number : Nat) (f : Node → Node) : Build Unit :=
  modify fun builder ↦ { builder with graph := builder.graph.modify number f }

/-- Set what a node has become. -/
def become (number : Nat) (part : Part) : Build Unit :=
  modify fun builder ↦ { builder with parts := builder.parts.setIfInBounds number (some part) }

/-- What a node has become. -/
def partOf (number : Nat) : Build (Option Part) := do
  return ((← get).parts[number]?).join

/-! ### Scalars -/

/-- The text that a node stands for: that of a scalar, or that of the entry of a mapping under the
mark for its value. -/
def scalarText (graph : Graph) (fuel number : Nat) : Except Fault (List Nat) :=
  match fuel with
  | 0 => .error .endlessScalar
  | fuel + 1 =>
    match (graph[number]?).map Node.content with
    | some (.scalar codes) => .ok codes
    | some (.mapping entries) =>
      match entries.find? fun (key, _) ↦ (graph[key]?).map Node.tag == some .value with
      | some (_, value) => scalarText graph fuel value
      | none => malformed
    | _ => malformed

/-- What a node with a tag for scalars becomes. A date has to be written by itself. -/
def scalarPart (tag : Tag) (number : Nat) : Build Part := do
  let graph := (← get).graph
  let codes ← scalarText graph (graph.size + 1) number
  match tag, ← contentOf number with
  | .timestamp, .scalar codes => return .atom (← scalarValue .timestamp codes)
  | .timestamp, _ => throw .unwrittenDate
  | .float, _ =>
    if isNoNumber codes then return .noNumber else return .atom (← scalarValue .float codes)
  | tag, _ => return .atom (← scalarValue tag codes)

/-- Note a collection that is to get its members later. -/
def note (number : Nat) (empty : Part) : Build Unit := do
  become number empty
  modify fun builder ↦ { builder with waiting := builder.waiting ++ [number] }

/-- Make a node into a value, or note it. -/
def start (number : Nat) : Build Unit := do
  if (← partOf number).isNone then
    match ← tagOf number with
    | .seq => note number (.list [])
    | .map => note number (.dict [])
    | .set => note number (.set [])
    | .omap => note number (.pairs [])
    | .pairs => note number (.pairs [])
    | .merge => refuse
    | .value => refuse
    | .other _ => refuse
    | tag => become number (← scalarPart tag number)

/-! ### Merging -/

/-- The part of a list of entries before the first under the mark for merging, the node of that one,
and the part after it. -/
def splitAtMerge (graph : Graph) :
    List (Nat × Nat) → Option (List (Nat × Nat) × Nat × List (Nat × Nat))
  | [] => none
  | (key, value) :: rest =>
    if (graph[key]?).map Node.tag == some .merge then some ([], value, rest)
    else
      (splitAtMerge graph rest).map fun (before, merged, after) ↦
        ((key, value) :: before, merged, after)

/-- Merge into a mapping what its entries under the mark for merging say, after the entries `merged`
that have been collected so far. Marks for values are ordinary texts in a mapping. -/
def flatten (fuel number : Nat) (merged : List (Nat × Nat)) : Build Unit :=
  match fuel with
  | 0 => refuse
  | fuel + 1 => do
    let entries ← entriesOf number
    match splitAtMerge (← get).graph entries with
    | none =>
      entries.forM fun (key, _) ↦ do
        if (← tagOf key) == .value then change key fun node ↦ { node with tag := .str }
      change number fun node ↦ { node with content := .mapping (merged ++ entries) }
    | some (before, source, after) =>
      change number fun node ↦ { node with content := .mapping (before ++ after) }
      let flat (number : Nat) : Build (List (Nat × Nat)) := do
        let _ ← entriesOf number
        flatten fuel number []
        entriesOf number
      let more ← match ← contentOf source with
        | .sequence items => pure (← items.mapM flat).reverse.flatten
        | _ => flat source
      flatten fuel number (merged ++ more)

/-- How many entries are under the mark for merging, in all mappings. -/
def countMerges (graph : Graph) : Nat :=
  (graph.toList.map fun node ↦
    match node.content with
    | .mapping entries =>
      (entries.filter fun (key, _) ↦ (graph[key]?).map Node.tag == some .merge).length
    | _ => 0).foldl (· + ·) 0

/-! ### Collections -/

/-- Whether two nodes that can be keys have become the same key. -/
def sameKey (parts : Array (Option Part)) (a b : Nat) : Bool :=
  a == b ||
    match (parts[a]?).join, (parts[b]?).join with
    | some (.atom x), some (.atom y) => x.same y
    | some .noNumber, some .noNumber => true
    | _, _ => false

/-- Set the value of a key. The entry of a key that is there keeps its place and its key. -/
def putEntry (parts : Array (Option Part)) (key value : Nat) : List (Nat × Nat) → List (Nat × Nat)
  | [] => [(key, value)]
  | entry :: rest =>
    if sameKey parts entry.1 key then (entry.1, value) :: rest
    else entry :: putEntry parts key value rest

/-- The entries of the dictionary that a mapping becomes. -/
def dictEntries (number : Nat) : Build (List (Nat × Nat)) := do
  flatten (countMerges (← get).graph + 1) number []
  (← entriesOf number).foldlM (fun entries (key, value) ↦ do
    start key
    if !(← partOf key).any Part.isKey then refuse
    start value
    return putEntry (← get).parts key value entries) []

/-- The pair that an item of a list of pairs becomes. -/
def pairOf (number : Nat) : Build (Nat × Nat) := do
  match ← entriesOf number with
  | [(key, value)] =>
    start key
    start value
    return (key, value)
  | _ => refuse

/-- Give a collection its members. -/
def finish (number : Nat) : Build Unit := do
  match ← tagOf number with
  | .seq =>
    let items ← itemsOf number
    items.forM start
    become number (.list items)
  | .map => become number (.dict (← dictEntries number))
  | .set => become number (.set ((← dictEntries number).map Prod.fst))
  | _ => become number (.pairs (← (← itemsOf number).mapM pairOf))

/-- Give all collections their members, those that were noted first before the others. -/
def finishAll (fuel : Nat) : Build Unit :=
  match fuel with
  | 0 => pure ()
  | fuel + 1 => do
    match (← get).waiting with
    | [] => pure ()
    | number :: rest =>
      modify fun builder ↦ { builder with waiting := rest }
      finish number
      finishAll fuel

/-- Make the nodes that a node leads to into values. -/
def build (number : Nat) : Build Unit := do
  start number
  finishAll ((← get).graph.size + 1)

end Build

/-! ### Putting values together -/

/-- The value of a node, given those of all nodes one level less deep. -/
def Part.value (below : Array Value) : Part → Value
  | .atom value => value
  | .noNumber => .float .nan
  | .list items => .list (items.map (below.getD · .null))
  | .pairs items =>
    .list (items.map fun (key, value) ↦ .tuple [below.getD key .null, below.getD value .null])
  | .set items => .setOfKeys (items.map (below.getD · .null))
  | .dict entries =>
    .dict (entries.map fun (key, value) ↦ (below.getD key .null, below.getD value .null))

/-- The values of all nodes, collections being put together to so many levels. -/
def valuesTo (parts : Array Part) : Nat → Array Value
  | 0 => parts.map (Part.value #[])
  | depth + 1 => parts.map (Part.value (valuesTo parts depth))

/-- The nodes that what a node has become holds. -/
def Part.members : Part → List Nat
  | .atom _ => []
  | .noNumber => []
  | .list items => items
  | .pairs items => items.flatMap fun (key, value) ↦ [key, value]
  | .set items => items
  | .dict entries => entries.flatMap fun (key, value) ↦ [key, value]

/-- How many levels there are below each node, given that of all nodes when one level less is looked
at. -/
def heightsFrom (parts : Array Part) (heights : Array Nat) : Array Nat :=
  parts.map fun part ↦ part.members.foldl (fun most number ↦ max most (heights.getD number 0 + 1)) 0

/-- How many levels there are, `count` being known already; no more than `limit` others are looked
at. -/
def levels (parts : Array Part) (heights : Array Nat) (count : Nat) : Nat → Nat
  | 0 => count
  | limit + 1 =>
    let higher := heightsFrom parts heights
    if higher = heights then count else levels parts higher (count + 1) limit

/-- How many levels more than there are collections a collection that holds itself is unrolled. -/
def spareLevels : Nat :=
  4

/-- The value of a node. -/
def valueOf (parts : Array Part) (number : Nat) : Value :=
  let collections := (parts.filter fun part ↦ !part.isKey).size
  let depth := levels parts (parts.map fun _ ↦ 0) 0 (collections + spareLevels)
  (valuesTo parts depth).getD number .null

/-- The value of the one document of a text; a text without any is worth nothing. -/
def load (text : List Char) : Except Fault Value := do
  match ← compose text with
  | (_, none) => return .null
  | (graph, some root) =>
    let (_, builder) ← (Build.build root).run { graph, parts := graph.map fun _ ↦ none }
    return valueOf (builder.parts.map (·.getD (.atom .null))) root

end Tabstave.Yaml
