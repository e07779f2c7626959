import Tabstave.Text.Case.Letters
import Tabstave.Value.Basic

/-!
# The names of documents

The extension of a file name decides whether the file is a document at all, and whether it is
written in short form. The case of letters makes no difference. `endsWithAny` is the test for
extensions that are texts; `hasName` applies it to extensions that come from a configuration, where
they may be anything: extensions are tried in their order, and one that is no text is a fault if it
is reached.

`Options` are what a configuration says of reading documents.
-/

namespace Tabstave.Document

/-- Whether a name ends with an extension, the case of letters aside. -/
def hasExtension (name extension : List Char) : Bool :=
  (Text.lowerCase extension).isSuffixOf (Text.lowerCase name)

/-- Whether a name ends with one of the extensions. No name has an extension if it is empty. -/
def endsWithAny (name : List Char) (extensions : List (List Char)) : Bool :=
  !name.isEmpty && extensions.any (hasExtension name)

/-- Whether a name that is not empty ends with one of the extensions. -/
def matchesAny (name : List Char) : List Value → Except Fault Bool
  | [] => .ok false
  | .str extension :: rest =>
    if hasExtension name extension.toList then .ok true else matchesAny name rest
  -- A name is a sequence of characters, and so is each of its endings.
  | .halves _ :: rest => matchesAny name rest
  | .bytes _ :: _ => .error (.suffixType "bytes")
  | extension :: _ => .error (.noMember extension.typeName "lower")

/-- Whether a name, if there is one, ends with one of the extensions. -/
def hasName (name : Option String) (extensions : Value) : Except Fault Bool :=
  match name with
  | none => .ok false
  | some name => if name.isEmpty then .ok false else do matchesAny name.toList (← extensions.elements)

/-- With extensions that are texts, the test cannot fail. -/
theorem matchesAny_texts (name : List Char) (extensions : List String) :
    matchesAny name (extensions.map .str) =
      .ok (extensions.any fun extension ↦ hasExtension name extension.toList) := by
  induction extensions with
  | nil => rfl
  | cons extension rest ih =>
    by_cases h : hasExtension name extension.toList = true
    · simp [matchesAny, h]
    · simp [matchesAny, h, ih]

/-- Whether a name, if there is one, ends with one of the extensions, all of which are texts. -/
def isNamed (extensions : List String) (name : Option String) : Bool :=
  name.any fun name ↦ endsWithAny name.toList (extensions.map String.toList)

/-- With extensions that are texts, the test of a name cannot fail. -/
theorem hasName_texts (name : Option String) (extensions : List String) :
    hasName name (.tuple (extensions.map .str)) = .ok (isNamed extensions name) := by
  cases name with
  | none => rfl
  | some name =>
    have empty : name.toList.isEmpty = name.isEmpty := by
      rw [Bool.eq_iff_iff, List.isEmpty_iff, String.isEmpty_iff, String.toList_eq_nil_iff]
    cases none : name.isEmpty with
    | true => simp [hasName, isNamed, endsWithAny, none, empty]
    | false =>
      have tested := matchesAny_texts name.toList extensions
      simp [hasName, isNamed, endsWithAny, none, empty, Value.elements, Bind.bind, Except.bind,
        tested, List.any_map, Function.comp_def]

/-- The extensions of short-form documents, unless others are configured. -/
def shortFormExtensions : List String :=
  [".tab"]

/-- The extensions of documents, unless others are configured. -/
def documentExtensions : List String :=
  [".vt", ".vextab", ".tab"]

/-- The options: which names mark short-form documents and documents in general, whether to expand a
source whatever its name, and how the bytes of a file are read. The configuration may give values of
whatever type. -/
structure Options where
  shortFormExtensions : Value := .tuple (Document.shortFormExtensions.map .str)
  documentExtensions : Value := .tuple (Document.documentExtensions.map .str)
  forceShortForm : Bool := false
  encoding : Value := .str "utf-8-sig"

/-- The options that come with no configuration. -/
def Options.default : Options := {}

end Tabstave.Document
