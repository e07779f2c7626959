import Tabstave.Document.Name
import Tabstave.Files.Store
import Tabstave.Text.Encoding.Basic
import Tabstave.Yaml.Load

/-!
# Configuration

A configuration is a dictionary of settings. What a configuration file says is put over the
defaults, one level deep: a dictionary given for a section that is a dictionary changes the entries
that it names, and anything else replaces the setting as a whole. A file that says nothing leaves
the defaults.

`Config.merge` is that rule, and `Config.options` picks out the options of preprocessing.
-/

namespace Tabstave.Config

/-- A setting with its name. -/
def setting (name : String) (value : Value) : Value × Value :=
  (.str name, value)

/-- A list of texts. -/
def texts (items : List String) : Value :=
  .list (items.map .str)

/-- The settings that come with no configuration file. -/
def defaults : List (Value × Value) :=
  [setting "short_form_extensions" (texts Document.shortFormExtensions),
    setting "document_extensions" (texts Document.documentExtensions),
    setting "encoding" (.str "utf-8-sig"),
    setting "output" (.dict [setting "pretty_print" (.bool true), setting "indent_size" (.int 2),
      setting "include_kinds" (.bool true)]),
    setting "logging" (.dict [setting "level" (.str "INFO")])]

/-- Put one setting over those that are there. -/
def mergeEntry (config : List (Value × Value)) (key value : Value) :
    Except Fault (List (Value × Value)) :=
  match value, Value.find? key config with
  | .dict entries, some (.dict section_) =>
    .ok (Value.put key (.dict (Value.putAll entries section_)) config)
  | .dict _, some other => .error (.noMember other.typeName "update")
  | value, _ => .ok (Value.put key value config)

/-- Put settings over those that are there, one after the other. -/
def mergeEntries (config : List (Value × Value)) :
    List (Value × Value) → Except Fault (List (Value × Value))
  | [] => .ok config
  | (key, value) :: rest => do mergeEntries (← mergeEntry config key value) rest

/-- Put what a configuration file says over the settings that are there. -/
def merge (config : List (Value × Value)) (user : Value) : Except Fault (List (Value × Value)) :=
  if user.isTruthy then
    match user with
    | .dict entries => mergeEntries config entries
    | user => .error (.noMember user.typeName "items")
  else .ok config

/-- Line breaks of all kinds as line feeds. -/
def plainBreaks : List Char → List Char
  | [] => []
  | '\r' :: '\n' :: rest => '\n' :: plainBreaks rest
  | '\r' :: rest => '\n' :: plainBreaks rest
  | c :: rest => c :: plainBreaks rest

/-- How many bytes of a configuration file are decoded at a time. -/
def pieceSize : Nat :=
  8192

/-- Decode a file piece by piece, each piece together with the bytes that the one before left over.
Positions in a fault count from the start of these bytes. -/
def decodePieces (fuel : Nat) (pending bytes : List UInt8) : Except Fault (List Char) :=
  match fuel with
  | 0 => .ok []
  | fuel + 1 =>
    let piece := pending ++ bytes.take pieceSize
    match Text.Utf8.decodeFrom bytes.isEmpty 0 none piece with
    | .error flaw => .error (Text.Encoding.faultOf "utf-8" piece flaw)
    | .ok (text, stop) =>
      if bytes.isEmpty then .ok text
      else (decodePieces fuel (piece.drop stop) (bytes.drop pieceSize)).map (text ++ ·)

/-- The text of a configuration file. -/
def textOf (bytes : List UInt8) : Except Fault (List Char) :=
  (decodePieces (bytes.length / pieceSize + 3) [] bytes).map plainBreaks

/-- Load the configuration file at a path, if one is given and there is something. -/
def load (store : Store) (path : Option Path) : Except Fault Value := do
  match path with
  | none => return .dict defaults
  | some path =>
    match ← store.find? path with
    | none => return .dict defaults
    | some _ =>
      let user ← Yaml.load (← textOf (← store.read path))
      return .dict (← merge defaults user)

/-- The options that a configuration gives. -/
def options (config : Value) (forceShortForm : Bool) : Except Fault Document.Options := do
  let shortForm ←
    (← config.getText "short_form_extensions" (texts Document.shortFormExtensions)).elements
  let documents ←
    (← config.getText "document_extensions" (texts Document.documentExtensions)).elements
  let encoding ← config.getText "encoding" (.str "utf-8-sig")
  return {
    shortFormExtensions := .tuple shortForm
    documentExtensions := .tuple documents
    forceShortForm, encoding }

end Tabstave.Config
