import Tabstave.Number.Reading
import Tabstave.Text.Utf8
import Tabstave.Yaml.Scalar

/-!
# Tokens of a configuration text

A text is read as a list of tokens. Where a collection starts and ends in block style is not written
down but follows from indentation, so tokens for it are added. A key of a mapping is often only
known to be one when the colon after it is met: each token that may begin such a key is remembered,
and when the colon comes its slot is marked; `Slot.tokens` writes the marks out.

Where a text goes wrong, the tokens before that place are still there, as far as it was settled
whether they begin keys: `Lexed` keeps them together with what went wrong.
-/

namespace Tabstave.Yaml

/-- A token. -/
inductive Token
  /-- The directive for the version of the language, with its major number. -/
  | version (major : Nat)
  /-- The directive that says what a handle of tags stands for. -/
  | handle (name home : List Char)
  | otherDirective
  | documentStart
  | documentEnd
  | blockSequenceStart
  | blockMappingStart
  | blockEnd
  | flowSequenceStart
  | flowSequenceEnd
  | flowMappingStart
  | flowMappingEnd
  | key
  | value
  | blockEntry
  | flowEntry
  | alias (name : List Char)
  | anchor (name : List Char)
  /-- A tag with its handle, if it is not written out in full. -/
  | tag (handle : Option (List Char)) (suffix : List Char)
  /-- A scalar, by the code points of its text. -/
  | scalar (codes : List Nat) (plain : Bool)
  | streamEnd
  deriving DecidableEq, Repr

/-- A token and the tokens that turned out to belong before it. -/
structure Slot where
  token : Token
  startsKey : Bool := false
  startsMapping : Bool := false
  deriving DecidableEq, Repr

/-- A token with those before it. -/
def Slot.tokens (slot : Slot) : List Token :=
  (if slot.startsMapping then [.blockMappingStart] else []) ++
    (if slot.startsKey then [.key] else []) ++ [slot.token]

/-- A token that may begin a key: its slot, whether it must, and where it stands. -/
structure PossibleKey where
  slot : Nat
  required : Bool
  index : Nat
  line : Nat
  column : Nat
  deriving DecidableEq, Repr

/-- How far a text has been read. -/
structure Lexer where
  spot : Spot
  slots : Array Slot := #[]
  /-- How many brackets and braces are open. -/
  flowLevel : Nat := 0
  /-- The indentation of the innermost block collection, and of those around it. -/
  indent : Int := -1
  outer : List Int := []
  /-- The token that may begin a key, for each level of brackets. -/
  possibleKeys : List (Nat × PossibleKey) := []
  /-- Whether the next token may begin a key. -/
  allowKey : Bool := true

namespace Lexer

/-- Keys end on the line on which they begin, after at most so many characters. -/
def maxKeyLength : Nat :=
  1024

/-- Add a token. -/
def push (lexer : Lexer) (token : Token) : Lexer :=
  { lexer with slots := lexer.slots.push { token } }

/-- Go on from another place. -/
def moveTo (lexer : Lexer) (spot : Spot) : Lexer :=
  { lexer with spot }

/-- Close the block collections that are indented further than the column. -/
def unwind (lexer : Lexer) (column : Int) : List Int → Lexer
  | [] => lexer
  | indent :: outer =>
    if column < lexer.indent then
      unwind { lexer.push .blockEnd with indent, outer } column outer
    else lexer

/-- Close the block collections that are indented further than the column; within brackets there are
none. -/
def unwindTo (lexer : Lexer) (column : Int) : Lexer :=
  if lexer.flowLevel = 0 then lexer.unwind column lexer.outer else lexer

/-- Start a block collection at the column, unless one goes on there. -/
def indentTo (lexer : Lexer) (column : Int) (start : Token) : Lexer :=
  if lexer.indent < column then
    { lexer.push start with indent := column, outer := lexer.indent :: lexer.outer }
  else lexer

/-- Whether a token can no longer begin a key, since its line has ended or it is too far back. -/
def isStale (lexer : Lexer) (key : PossibleKey) : Bool :=
  key.line != lexer.spot.line || maxKeyLength < lexer.spot.index - key.index

/-- Forget the keys that can no longer be keys. -/
def dropStaleKeys (lexer : Lexer) : Except Fault Lexer :=
  if lexer.possibleKeys.any fun (_, key) ↦ lexer.isStale key && key.required then malformed
  else
    .ok { lexer with possibleKeys := lexer.possibleKeys.filter fun (_, key) ↦ !lexer.isStale key }

/-- Forget the possible key at this level of brackets. -/
def dropKey (lexer : Lexer) : Except Fault Lexer :=
  match lexer.possibleKeys.lookup lexer.flowLevel with
  | some key =>
    if key.required then malformed
    else
      .ok { lexer with
        possibleKeys := lexer.possibleKeys.filter fun (level, _) ↦ level != lexer.flowLevel }
  | none => .ok lexer

/-- Remember that the next token may begin a key. -/
def saveKey (lexer : Lexer) : Except Fault Lexer :=
  if lexer.allowKey then do
    let required := lexer.flowLevel = 0 && lexer.indent = lexer.spot.column
    let lexer ← lexer.dropKey
    let spot := lexer.spot
    let key : PossibleKey := ⟨lexer.slots.size, required, spot.index, spot.line, spot.column⟩
    return { lexer with possibleKeys := (lexer.flowLevel, key) :: lexer.possibleKeys }
  else .ok lexer

/-- Go past blanks, comments and line breaks. After a line break a key may begin. -/
def skipToToken (fuel : Nat) (lexer : Lexer) : Lexer :=
  match fuel with
  | 0 => lexer
  | fuel + 1 =>
    let spot := lexer.spot.skipWhile (· == ' ')
    let spot := if spot.peek == '#' then spot.skipWhile fun c ↦ !endsLine c else spot
    match spot.takeBreak with
    | some (_, spot) =>
      skipToToken fuel { lexer with spot, allowKey := lexer.allowKey || lexer.flowLevel = 0 }
    | none => lexer.moveTo spot

/-! ### Tags, directives and anchors -/

/-- A character of a tag. -/
def isTagChar (c : Char) : Bool :=
  isNameChar c || "-;/?:@&=+$,_.!~*'()[]%".toList.contains c

/-- The bytes of a run of percent signs with two digits each, and what follows the run. -/
def takeEscapes : List Char → Option (List UInt8 × List Char)
  | '%' :: a :: b :: rest => do
    let high ← Scalar.hexValue? a
    let low ← Scalar.hexValue? b
    let (bytes, rest) ← takeEscapes rest
    return (.ofNat (16 * high + low) :: bytes, rest)
  | '%' :: _ => none
  | text => some ([], text)

/-- Replace each run of percent signs with two digits by the text that it encodes. -/
def unescapeTag (fuel : Nat) (tag : List Char) : Except Fault (List Char) :=
  match fuel with
  | 0 => .ok tag
  | fuel + 1 =>
    let plain := tag.takeWhile (· != '%')
    match takeEscapes (tag.drop plain.length) with
    | none => malformed
    | some ([], _) => .ok plain
    | some (bytes, rest) =>
      match Text.Utf8.decode bytes with
      | .ok text => (unescapeTag fuel rest).map fun rest ↦ plain ++ text ++ rest
      | .error _ => malformed

/-- The rest of a tag. -/
def tagSuffix (spot : Spot) : Except Fault (List Char × Spot) := do
  let (tag, spot) := spot.takeWhile isTagChar
  if tag.isEmpty then malformed
  else return (← unescapeTag (tag.length + 1) tag, spot)

/-- The handle of a tag: an exclamation mark, or a name between two. -/
def tagHandle (spot : Spot) : Except Fault (List Char × Spot) :=
  if spot.peek != '!' then malformed
  else if spot.ahead 1 == ' ' then .ok (['!'], spot.next)
  else
    let (name, after) := spot.next.takeWhile isNameChar
    if after.peek == '!' then .ok ('!' :: name ++ ['!'], after.next) else malformed

/-- The directive for tags, from after its name: a handle and what it stands for. -/
def handleDirective (spot : Spot) : Except Fault (Token × Spot) := do
  let (name, spot) ← tagHandle (spot.skipWhile (· == ' '))
  if spot.peek != ' ' then malformed
  let (home, spot) ← tagSuffix (spot.skipWhile (· == ' '))
  if endsWord spot.peek then return (.handle name home, spot) else malformed

/-- A number of a version, which may not have too many digits. -/
def versionNumber (spot : Spot) : Except Fault (Nat × Spot) :=
  let (digits, spot) := spot.takeWhile Char.isDigit
  match Number.readInt 10 digits with
  | .number n => .ok (n.toNat, spot)
  | .tooManyDigits count => .error (.tooManyDigits count)
  | .malformed => malformed

/-- The directive for the version, from after its name: two numbers with a point between. -/
def versionDirective (spot : Spot) : Except Fault (Token × Spot) := do
  let (major, spot) ← versionNumber (spot.skipWhile (· == ' '))
  if spot.peek != '.' then malformed
  let (_, spot) ← versionNumber spot.next
  if endsWord spot.peek then return (.version major, spot) else malformed

/-- A directive and the place of the next line. -/
def directive (spot : Spot) : Except Fault (Token × Spot) := do
  let (name, spot) := spot.next.takeWhile isNameChar
  if name.isEmpty || !endsWord spot.peek then malformed
  else
    let (token, spot) ←
      if name == "YAML".toList then versionDirective spot
      else if name == "TAG".toList then handleDirective spot
      else pure (Token.otherDirective, spot.skipWhile fun c ↦ !endsLine c)
    let spot ← spot.skipIgnoredLine
    return (token, spot)

/-- The name of an anchor or of an alias, from after its mark. -/
def anchorName (spot : Spot) : Except Fault (List Char × Spot) :=
  let (name, spot) := spot.takeWhile isNameChar
  if name.isEmpty then malformed
  else if endsToken spot.peek || ['?', ':', ',', ']', '\x7d', '%', '@', '\x60'].contains spot.peek then
    .ok (name, spot)
  else malformed

/-- A tag. -/
def tag (spot : Spot) : Except Fault (Token × Spot) := do
  let (token, spot) ←
    if spot.ahead 1 == '<' then do
      let (suffix, spot) ← tagSuffix (spot.skip 2)
      if spot.peek != '>' then malformed
      pure (Token.tag none suffix, spot.next)
    else if endsToken (spot.ahead 1) then pure (Token.tag none ['!'], spot.next)
    else do
      let word := (spot.rest.drop 1).takeWhile fun c ↦ !endsWord c
      let (handle, spot) ←
        if word.contains '!' then tagHandle spot else pure (['!'], spot.next)
      let (suffix, spot) ← tagSuffix spot
      pure (Token.tag (some handle) suffix, spot)
  if endsWord spot.peek then return (token, spot) else malformed

/-! ### The next token -/

/-- A token that starts in the middle of a line or of a key: an alias, an anchor, a tag or a scalar.
-/
def pushSimple (lexer : Lexer) (scan : Spot → Except Fault (Token × Spot)) : Except Fault Lexer := do
  let lexer ← lexer.saveKey
  let (token, spot) ← scan lexer.spot
  return { lexer.push token with spot, allowKey := false }

/-- A mark of a document: it closes all collections. -/
def pushDocumentMark (lexer : Lexer) (token : Token) (spot : Spot) : Except Fault Lexer := do
  let lexer ← (lexer.unwindTo (-1)).dropKey
  return { lexer.push token with spot, allowKey := false }

/-- An opening bracket or brace. -/
def pushOpening (lexer : Lexer) (token : Token) : Except Fault Lexer := do
  let lexer ← lexer.saveKey
  return { lexer.push token with
    spot := lexer.spot.next, flowLevel := lexer.flowLevel + 1, allowKey := true }

/-- A closing bracket or brace. -/
def pushClosing (lexer : Lexer) (token : Token) : Except Fault Lexer := do
  let lexer ← lexer.dropKey
  if lexer.flowLevel = 0 then malformed
  else
    return { lexer.push token with
      spot := lexer.spot.next, flowLevel := lexer.flowLevel - 1, allowKey := false }

/-- A dash or a question mark, which starts an item or a key in block style. -/
def pushBlockMark (lexer : Lexer) (start token : Token) (allowKey : Bool) : Except Fault Lexer := do
  let lexer ←
    if lexer.flowLevel = 0 then
      if lexer.allowKey then pure (lexer.indentTo lexer.spot.column start) else malformed
    else pure lexer
  let lexer ← lexer.dropKey
  return { lexer.push token with spot := lexer.spot.next, allowKey }

/-- A colon: the token that may begin a key does, or else the key is missing. -/
def pushValue (lexer : Lexer) : Except Fault Lexer := do
  match lexer.possibleKeys.lookup lexer.flowLevel with
  | some key =>
    let startsMapping := lexer.flowLevel = 0 && lexer.indent < key.column
    let slots := lexer.slots.modify key.slot fun slot ↦ { slot with startsKey := true, startsMapping }
    let lexer := { lexer with
      slots
      possibleKeys := lexer.possibleKeys.filter fun (level, _) ↦ level != lexer.flowLevel
      indent := if startsMapping then key.column else lexer.indent
      outer := if startsMapping then lexer.indent :: lexer.outer else lexer.outer }
    return { lexer.push .value with spot := lexer.spot.next, allowKey := false }
  | none =>
    let lexer ←
      if lexer.flowLevel = 0 then
        if lexer.allowKey then pure (lexer.indentTo lexer.spot.column .blockMappingStart)
        else malformed
      else pure lexer
    let lexer ← lexer.dropKey
    return { lexer.push .value with spot := lexer.spot.next, allowKey := lexer.flowLevel = 0 }

/-- A block scalar. -/
def pushBlockScalar (lexer : Lexer) (folded : Bool) : Except Fault Lexer := do
  let lexer ← lexer.dropKey
  let (text, spot) ← Scalar.block folded lexer.indent lexer.spot.next
  return { lexer.push (.scalar (Text.codes text) false) with spot, allowKey := true }

/-- A plain scalar. After a line break the next token may begin a key. -/
def pushPlain (lexer : Lexer) : Except Fault Lexer := do
  let lexer ← lexer.saveKey
  let (text, spot, broken) := Scalar.plain (lexer.flowLevel != 0) (lexer.indent + 1) lexer.spot
  return { lexer.push (.scalar (Text.codes text) true) with spot, allowKey := broken }

/-- Whether a plain scalar can start with these two characters. -/
def startsPlain (inFlow : Bool) (c after : Char) : Bool :=
  !(endsToken c || "-?:,[]\x7b\x7d#&*!|>'\"%@\x60".toList.contains c) ||
    (!endsToken after && (c == '-' || (!inFlow && (c == '?' || c == ':'))))

/-- Whether a mark is one only if a blank follows; within brackets no blank is needed. -/
def isMark (lexer : Lexer) (c mark : Char) : Bool :=
  c == mark && (lexer.flowLevel != 0 || endsToken (lexer.spot.ahead 1))

/-- Read the next token, with whatever goes before it. The answer is `none` at the end of the text.
-/
def step (lexer : Lexer) : Except Fault (Lexer × Bool) := do
  let lexer ← (lexer.skipToToken (lexer.spot.rest.length + 1)).dropStaleKeys
  let lexer := lexer.unwindTo lexer.spot.column
  let spot := lexer.spot
  let c := spot.peek
  let go (lexer : Except Fault Lexer) : Except Fault (Lexer × Bool) := lexer.map (·, true)
  let inFlow := lexer.flowLevel != 0
  if spot.rest.isEmpty then do
    let lexer ← (lexer.unwindTo (-1)).dropKey
    return (lexer.push .streamEnd, false)
  else if c == '%' && spot.column = 0 then do
    let (token, after) ← directive spot
    go (lexer.pushDocumentMark token after)
  else if spot.column = 0 && spot.atMark "---" then
    go (lexer.pushDocumentMark .documentStart (spot.skip 3))
  else if spot.column = 0 && spot.atMark "..." then
    go (lexer.pushDocumentMark .documentEnd (spot.skip 3))
  else if c == '[' then go (lexer.pushOpening .flowSequenceStart)
  else if c == '\x7b' then go (lexer.pushOpening .flowMappingStart)
  else if c == ']' then go (lexer.pushClosing .flowSequenceEnd)
  else if c == '\x7d' then go (lexer.pushClosing .flowMappingEnd)
  else if c == ',' then do
    let lexer ← lexer.dropKey
    return ({ lexer.push .flowEntry with spot := spot.next, allowKey := true }, true)
  else if c == '-' && endsToken (spot.ahead 1) then
    go (lexer.pushBlockMark .blockSequenceStart .blockEntry true)
  else if lexer.isMark c '?' then
    go (lexer.pushBlockMark .blockMappingStart .key (!inFlow))
  else if lexer.isMark c ':' then go lexer.pushValue
  else if c == '*' then
    go (lexer.pushSimple fun spot ↦ (anchorName spot.next).map fun (name, spot) ↦ (.alias name, spot))
  else if c == '&' then
    go (lexer.pushSimple fun spot ↦ (anchorName spot.next).map fun (name, spot) ↦ (.anchor name, spot))
  else if c == '!' then go (lexer.pushSimple tag)
  else if c == '|' && !inFlow then go (lexer.pushBlockScalar false)
  else if c == '>' && !inFlow then go (lexer.pushBlockScalar true)
  else if c == '\'' || c == '"' then
    go (lexer.pushSimple fun spot ↦
      (Scalar.quoted (c == '"') (spot.rest.length + 1) spot.next).map fun (codes, spot) ↦
        (.scalar codes false, spot))
  else if startsPlain inFlow c (spot.ahead 1) then go lexer.pushPlain
  else malformed

/-- The tokens of which it is settled whether they begin keys. -/
def settled (lexer : Lexer) : List Token :=
  let open_ := lexer.possibleKeys.filter fun (_, key) ↦ !lexer.isStale key
  let count := open_.foldl (fun count (_, key) ↦ min count key.slot) lexer.slots.size
  (lexer.slots.toList.take count).flatMap Slot.tokens

end Lexer

/-- The tokens of a text up to where it goes wrong, and what is wrong there. -/
structure Lexed where
  tokens : List Token
  fault : Fault

/-- Read tokens to the end of the text. -/
def Lexer.run (fuel : Nat) (lexer : Lexer) : Lexed :=
  match fuel with
  | 0 => ⟨lexer.settled, .malformedConfig⟩
  | fuel + 1 =>
    match lexer.step with
    | .ok (lexer, true) => run fuel lexer
    | .ok (lexer, false) => ⟨lexer.slots.toList.flatMap Slot.tokens, .malformedConfig⟩
    | .error fault => ⟨lexer.settled, fault⟩

/-- The tokens of a text. A byte order mark at its start is passed over. -/
def lex (text : List Char) : Lexed :=
  if text.all isAllowed then
    let spot := Spot.start text
    let spot := if spot.peek == '\ufeff' then spot.next else spot
    Lexer.run (text.length + 2) { spot }
  else ⟨[], .malformedConfig⟩

end Tabstave.Yaml
