import Tabstave.Yaml.Resolve
import Tabstave.Yaml.Token

/-!
# Nodes of a configuration text

A text holds one document, and a document is made of nodes: scalars, sequences and mappings, each
with a tag that says what kind of value it is. A `Graph` holds the nodes by number. An alias is the
number of the node with the anchor of that name; the node need not be complete, so a collection may
hold itself.

Tokens are asked for one at a time. If the text goes wrong before the next token, that is what is
reported, but only once the token is needed: a mistake in the order of the tokens before it comes
first.
-/

namespace Tabstave.Yaml

/-- What is in a node: a text by its code points, or other nodes by their numbers. -/
inductive Content
  | scalar (codes : List Nat)
  | sequence (items : List Nat)
  | mapping (entries : List (Nat × Nat))
  deriving DecidableEq, Repr, Inhabited

/-- A node. -/
structure Node where
  tag : Tag
  content : Content
  deriving DecidableEq, Repr

/-- Nodes by their numbers. -/
abbrev Graph := Array Node

/-- What is known while a document is read: the tokens to come, what is wrong after them, the
prefixes that handles of tags stand for, the anchors so far, and the nodes so far. -/
structure Reader where
  tokens : List Token
  fault : Fault
  handles : List (List Char × String) := []
  anchors : List (List Char × Nat) := []
  nodes : Graph := #[]

/-- Reading a part of a document. -/
abbrev Read := StateT Reader (Except Fault)

namespace Read

/-- Refuse the document. -/
def refuse {α : Type} : Read α :=
  throw .malformedConfig

/-- The next token. -/
def peek : Read Token := do
  let reader ← get
  match reader.tokens with
  | token :: _ => return token
  | [] => throw reader.fault

/-- Go past the next token. -/
def skip : Read Unit :=
  modify fun reader ↦ { reader with tokens := reader.tokens.tail }

/-- Whether the next token is one of these. -/
def sees (tokens : List Token) : Read Bool := do
  return tokens.contains (← peek)

/-- Add a node. -/
def add (node : Node) : Read Nat := do
  let reader ← get
  set { reader with nodes := reader.nodes.push node }
  return reader.nodes.size

/-- Set what is in a node. -/
def fill (number : Nat) (content : Content) : Read Unit :=
  modify fun reader ↦ { reader with
    nodes := reader.nodes.modify number fun node ↦ { node with content } }

/-- Give a node the anchor in front of it, if there is one. -/
def bind (anchor : Option (List Char)) (number : Nat) : Read Unit :=
  match anchor with
  | some name => modify fun reader ↦ { reader with anchors := (name, number) :: reader.anchors }
  | none => pure ()

/-- Add the node that stands where nothing is written. -/
def addEmpty : Read Nat :=
  add ⟨.null, .scalar []⟩

/-- The full name of a tag. -/
def tagName (handle : Option (List Char)) (suffix : List Char) : Read String := do
  match handle with
  | none => return String.ofList suffix
  | some handle =>
    match (← get).handles.lookup handle with
    | some home => return home ++ String.ofList suffix
    | none => refuse

/-- The anchor in front of a node, if it comes next. -/
def anchor? : Read (Option (List Char)) := do
  match ← peek with
  | .anchor name =>
    skip
    return some name
  | _ => return none

/-- The tag in front of a node, if it comes next. -/
def tag? : Read (Option (Option (List Char) × List Char)) := do
  match ← peek with
  | .tag handle suffix =>
    skip
    return some (handle, suffix)
  | _ => return none

/-- The anchor and the full name of the tag in front of a node, in either order. -/
def properties : Read (Option (List Char) × Option String) := do
  let first ← anchor?
  let tag ← tag?
  let anchor ← if first.isNone && tag.isSome then anchor? else pure first
  match tag with
  | some (handle, suffix) => return (anchor, some (← tagName handle suffix))
  | none => return (anchor, none)

/-- The tag of a collection; one that is absent or does not commit itself is the usual one. -/
def collectionTag (name : Option String) (usual : Tag) : Tag :=
  match name with
  | some name => if name == "!" then usual else Tag.ofName name
  | none => usual

/-- The tag of a scalar. One that is plain, or whose tag does not commit itself, is what it looks
like. -/
def scalarTag (name : Option String) (plain : Bool) (codes : List Nat) : Tag :=
  -- What has halves of surrogate pairs in it looks like nothing but a text.
  let resolved := ((Text.characters? codes).map resolve).getD .str
  match name with
  | some name => if name == "!" then resolved else Tag.ofName name
  | none => if plain then resolved else .str

/-- Whether and how a node may be a sequence that is not indented further than its key. -/
inductive Place
  | block
  | blockValue
  | flow
  deriving DecidableEq, Repr

/-- How a node goes on after its anchor and its tag. -/
inductive Opening
  | scalar (codes : List Nat) (plain : Bool)
  | empty
  | flowSequence
  | flowMapping
  | looseSequence
  | blockSequence
  | blockMapping
  deriving DecidableEq, Repr

/-- How a node goes on with a token; the second part says whether the token has been used. One that
has an anchor or a tag need not go on at all. -/
def opening? (place : Place) (marked : Bool) (token : Token) : Option (Opening × Bool) :=
  match token with
  | .scalar codes plain => some (.scalar codes plain, true)
  | .flowSequenceStart => some (.flowSequence, true)
  | .flowMappingStart => some (.flowMapping, true)
  | token =>
    if place = .blockValue && token = .blockEntry then some (.looseSequence, false)
    else if place ≠ .flow && token = .blockSequenceStart then some (.blockSequence, true)
    else if place ≠ .flow && token = .blockMappingStart then some (.blockMapping, true)
    else if marked then some (.empty, false)
    else none

/-- How a node goes on. -/
def opening (place : Place) (marked : Bool) : Read Opening := do
  match opening? place marked (← peek) with
  | some (opening, used) =>
    if used then skip
    return opening
  | none => refuse

mutual

/-- Read a node. No two nodes may have the same anchor. -/
def node (fuel : Nat) (place : Place) : Read Nat :=
  match fuel with
  | 0 => refuse
  | fuel + 1 => do
    match ← peek with
    | .alias name =>
      skip
      match (← get).anchors.lookup name with
      | some number => return number
      | none => refuse
    | _ =>
      let (anchor, name) ← properties
      let opening ← opening place (anchor.isSome || name.isSome)
      let known := (← get).anchors
      if anchor.any fun name ↦ (known.lookup name).isSome then refuse
      let collection (tag : Tag) (content : Read Content) : Read Nat := do
        let number ← add ⟨tag, .scalar []⟩
        bind anchor number
        fill number (← content)
        return number
      let scalar (tag : Tag) (codes : List Nat) : Read Nat := do
        let number ← add ⟨tag, .scalar codes⟩
        bind anchor number
        return number
      let sequence := collection (collectionTag name .seq)
      let mapping := collection (collectionTag name .map)
      match opening with
      | .scalar codes plain => scalar (scalarTag name plain codes) codes
      | .empty => scalar (scalarTag name name.isNone []) []
      | .flowSequence => sequence (.sequence <$> flowItems fuel true)
      | .flowMapping => mapping (.mapping <$> flowEntries fuel true)
      | .looseSequence => sequence (.sequence <$> looseItems fuel)
      | .blockSequence => sequence (.sequence <$> blockItems fuel)
      | .blockMapping => mapping (.mapping <$> blockEntries fuel)

/-- Read a node, or nothing where one of these tokens follows. -/
def optionalNode (fuel : Nat) (place : Place) (stops : List Token) : Read Nat :=
  match fuel with
  | 0 => refuse
  | fuel + 1 => do
    if ← sees stops then addEmpty else node fuel place

/-- Read the value of a key after its colon, or nothing if there is no colon. -/
def optionalValue (fuel : Nat) (place : Place) (stops : List Token) : Read Nat :=
  match fuel with
  | 0 => refuse
  | fuel + 1 => do
    if ← sees [.value] then
      skip
      optionalNode fuel place stops
    else addEmpty

/-- Read the items of a sequence in block style. -/
def blockItems (fuel : Nat) : Read (List Nat) :=
  match fuel with
  | 0 => refuse
  | fuel + 1 => do
    match ← peek with
    | .blockEntry =>
      skip
      let item ← optionalNode fuel .block [.blockEntry, .blockEnd]
      return item :: (← blockItems fuel)
    | .blockEnd =>
      skip
      return []
    | _ => refuse

/-- Read the items of a sequence that is not indented further than its key. -/
def looseItems (fuel : Nat) : Read (List Nat) :=
  match fuel with
  | 0 => refuse
  | fuel + 1 => do
    if ← sees [.blockEntry] then
      skip
      let item ← optionalNode fuel .block [.blockEntry, .key, .value, .blockEnd]
      return item :: (← looseItems fuel)
    else return []

/-- Read the entries of a mapping in block style. -/
def blockEntries (fuel : Nat) : Read (List (Nat × Nat)) :=
  match fuel with
  | 0 => refuse
  | fuel + 1 => do
    match ← peek with
    | .key =>
      skip
      let key ← optionalNode fuel .blockValue [.key, .value, .blockEnd]
      let value ← optionalValue fuel .blockValue [.key, .value, .blockEnd]
      return (key, value) :: (← blockEntries fuel)
    | .blockEnd =>
      skip
      return []
    | _ => refuse

/-- Read the items of a sequence in brackets. An item that is a key makes a mapping of one entry. -/
def flowItems (fuel : Nat) (first : Bool) : Read (List Nat) :=
  match fuel with
  | 0 => refuse
  | fuel + 1 => do
    if ← sees [.flowSequenceEnd] then
      skip
      return []
    if !first then
      if ← sees [.flowEntry] then skip else refuse
    match ← peek with
    | .flowSequenceEnd =>
      skip
      return []
    | .key =>
      skip
      let number ← add ⟨.map, .scalar []⟩
      let key ← optionalNode fuel .flow [.value, .flowEntry, .flowSequenceEnd]
      let value ← optionalValue fuel .flow [.flowEntry, .flowSequenceEnd]
      fill number (.mapping [(key, value)])
      return number :: (← flowItems fuel false)
    | _ =>
      let item ← node fuel .flow
      return item :: (← flowItems fuel false)

/-- Read the entries of a mapping in braces. -/
def flowEntries (fuel : Nat) (first : Bool) : Read (List (Nat × Nat)) :=
  match fuel with
  | 0 => refuse
  | fuel + 1 => do
    if ← sees [.flowMappingEnd] then
      skip
      return []
    if !first then
      if ← sees [.flowEntry] then skip else refuse
    match ← peek with
    | .flowMappingEnd =>
      skip
      return []
    | .key =>
      skip
      let key ← optionalNode fuel .flow [.value, .flowEntry, .flowMappingEnd]
      let value ← optionalValue fuel .flow [.flowEntry, .flowMappingEnd]
      return (key, value) :: (← flowEntries fuel false)
    | _ =>
      let key ← node fuel .flow
      let value ← addEmpty
      return (key, value) :: (← flowEntries fuel false)

end

/-- The handles of tags that need no directive. -/
def usualHandles : List (List Char × String) :=
  [(['!'], "!"), (['!', '!'], Tag.home)]

/-- Read the directives in front of a document. The version of the language may be named once, and
has to be 1; each handle may be given a meaning once. -/
def directives (fuel : Nat) (version : Bool) : Read Unit :=
  match fuel with
  | 0 => refuse
  | fuel + 1 => do
    match ← peek with
    | .version major =>
      skip
      if version || major != 1 then refuse
      directives fuel true
    | .handle name home =>
      skip
      if ((← get).handles.lookup name).isSome then refuse
      modify fun reader ↦ { reader with handles := (name, String.ofList home) :: reader.handles }
      directives fuel version
    | .otherDirective =>
      skip
      directives fuel version
    | _ => pure ()

/-- Read the directives of a document and the mark of its start. -/
def documentStart (fuel : Nat) : Read Unit := do
  modify fun reader ↦ { reader with handles := [] }
  directives fuel false
  if ← sees [.documentStart] then skip else refuse
  modify fun reader ↦ { reader with handles := reader.handles ++ usualHandles }

/-- Go to the end of the text, past marks of the end of a document; there may be no other document.
-/
def textEnd (fuel : Nat) : Read Unit :=
  match fuel with
  | 0 => refuse
  | fuel + 1 => do
    match ← peek with
    | .documentEnd =>
      skip
      textEnd fuel
    | .streamEnd => pure ()
    | _ =>
      documentStart fuel
      refuse

/-- Whether a token is a directive. -/
def isDirective : Token → Bool
  | .version _ => true
  | .handle _ _ => true
  | .otherDirective => true
  | _ => false

/-- Read the one document of a text; there is none in a text without anything. The answer is the
number of its outermost node. -/
def document (fuel : Nat) : Read (Option Nat) := do
  let token ← peek
  if token = .streamEnd then return none
  if token = .documentStart || isDirective token then
    documentStart fuel
    let token ← peek
    let root ←
      if isDirective token || [.documentStart, .documentEnd, .streamEnd].contains token then addEmpty
      else node fuel .block
    textEnd fuel
    return some root
  else
    modify fun reader ↦ { reader with handles := usualHandles }
    let root ← node fuel .block
    textEnd fuel
    return some root

end Read

/-- The nodes of the one document of a text and the number of the outermost; nothing for a text
without anything. -/
def compose (text : List Char) : Except Fault (Graph × Option Nat) := do
  let lexed := lex text
  let fuel := 4 * lexed.tokens.length + 4
  let (root, reader) ← (Read.document fuel).run ⟨lexed.tokens, lexed.fault, [], [], #[]⟩
  return (reader.nodes, root)

end Tabstave.Yaml
