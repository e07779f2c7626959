/-!
# Options of the command line

An option has one or more names; a long name starts with two dashes, a short one with one. Some
options take a value and the others are flags. `readWord` says what a word of a command line is: an
option may be shortened as long as only one name starts with what is written, a value may follow
after an equals sign, and after a short name anything may follow directly. Words that look like
negative numbers or that hold a space are no options.
-/

namespace Tabstave.Cli

/-- What an option sets. -/
inductive Setting
  | help
  | version
  | shortForm
  | outputDir
  | outputFilename
  | config
  | verbose
  | quiet
  | changedOnly
  | line
  | column
  | editorPosition
  deriving DecidableEq, Repr

/-- An option. -/
structure OptionSpec where
  setting : Setting
  names : List String
  takesValue : Bool
  deriving DecidableEq, Repr

/-- The name of an option in messages. -/
def OptionSpec.display (spec : OptionSpec) : String :=
  String.intercalate "/" spec.names

/-- What a word of a command line is. -/
inductive Reading
  /-- A word that is no option. -/
  | argument
  /-- The word after which no word is an option. -/
  | dashes
  /-- An option under one of its names, or one that is not known, with what follows in the word. -/
  | option (spec : Option OptionSpec) (name : String) (explicit : Option String)
  deriving DecidableEq, Repr

/-- Each name with its option. -/
def namesOf (options : List OptionSpec) : List (String × OptionSpec) :=
  options.flatMap fun spec ↦ spec.names.map fun name ↦ (name, spec)

/-- The part of a word before its first equals sign, and the part after it. -/
def splitValue (word : String) : String × Option String :=
  let name := word.toList.takeWhile (· != '=')
  match word.toList.drop name.length with
  | [] => (word, none)
  | _ :: value => (String.ofList name, some (String.ofList value))

/-- The options that a word may be short for, under which names and with what following. -/
def candidates (options : List OptionSpec) (word : String) :
    List (OptionSpec × String × Option String) :=
  if "--".toList.isPrefixOf word.toList then
    let (start, value) := splitValue word
    (namesOf options).filterMap fun (name, spec) ↦
      if start.toList.isPrefixOf name.toList then some (spec, name, value) else none
  else
    let short := String.ofList (word.toList.take 2)
    let rest := String.ofList (word.toList.drop 2)
    (namesOf options).filterMap fun (name, spec) ↦
      if name = short then some (spec, name, some rest)
      else if word.toList.isPrefixOf name.toList then some (spec, name, none)
      else none

/-- A decimal digit of a negative number. -/
def allDigits (isDigit : Char → Bool) (text : List Char) : Bool :=
  text.all isDigit

/-- Whether a word looks like a negative number: digits, or digits around a point with some after
it. A line feed at the end does not count. -/
def isNegativeNumber (isDigit : Char → Bool) (word : String) : Bool :=
  match word.toList with
  | '-' :: digits =>
    let digits := if digits.getLast? = some '\n' then digits.dropLast else digits
    let fraction := (digits.dropWhile isDigit).drop 1
    (!digits.isEmpty && allDigits isDigit digits) ||
      ((digits.dropWhile isDigit).head? == some '.' && !fraction.isEmpty && allDigits isDigit fraction)
  | _ => false

/-- What a word is, or the names between which it does not decide. -/
def readWord (isDigit : Char → Bool) (options : List OptionSpec) (word : String) :
    Except (List String) Reading :=
  if !"-".toList.isPrefixOf word.toList then .ok .argument
  else
    match (namesOf options).lookup word with
    | some spec => .ok (.option (some spec) word none)
    | none =>
      if word = "-" then .ok .argument
      else
        let (name, value) := splitValue word
        match value, (namesOf options).lookup name with
        | some value, some spec => .ok (.option (some spec) name (some value))
        | _, _ =>
          match candidates options word with
          | [(spec, name, explicit)] => .ok (.option (some spec) name explicit)
          | [] =>
            if isNegativeNumber isDigit word || word.toList.contains ' ' then .ok .argument
            else .ok (.option none word none)
          | several => .error (several.map fun (_, name, _) ↦ name)

/-- What the words of a command line are. After two dashes no word is an option. -/
def readWords (isDigit : Char → Bool) (options : List OptionSpec) :
    List String → Except (String × List String) (List (String × Reading))
  | [] => .ok []
  | word :: rest =>
    if word = "--" then .ok ((word, .dashes) :: rest.map fun word ↦ (word, .argument))
    else
      match readWord isDigit options word with
      | .error names => .error (word, names)
      | .ok reading => (readWords isDigit options rest).map ((word, reading) :: ·)

end Tabstave.Cli
