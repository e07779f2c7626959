import Tabstave.Proofs.Json.Numeral

/-!
# Reading JSON

`Json.read` reads a JSON text as any reader of the standard does: white space may stand between the
parts, the text ends with the document, characters between quotes may be escaped in each of the ways
that there are, and controls must be. It has no part in writing, and knows nothing of layouts.

What is nested is read with fuel, and the length of the text is enough of it, since each step down
goes past a bracket or a comma.
-/

namespace Tabstave.Json

namespace Reader

/-! ### Marks and gaps -/

/-- White space between the parts of a document. -/
def isGap (c : Char) : Bool :=
  c == ' ' || c == '\t' || c == '\n' || c == '\r'

/-- What follows the white space at the start of a text. -/
def skip (text : List Char) : List Char :=
  text.dropWhile isGap

/-- What follows a mark, if the text starts with it. -/
def pass? (mark : Char) : List Char → Option (List Char)
  | [] => none
  | c :: rest => if c = mark then some rest else none

/-- What follows a word, if the text starts with it. -/
def word? (word : String) (json : Json) (text : List Char) : Option (Json × List Char) :=
  if word.toList.isPrefixOf text then some (json, text.drop word.toList.length) else none

/-! ### Texts -/

/-- The number of a hexadecimal digit. -/
def hexValue? (c : Char) : Option Nat :=
  if c.isDigit then some (c.toNat - '0'.toNat)
  else if 'a' ≤ c && c ≤ 'f' then some (c.toNat - 'a'.toNat + 10)
  else if 'A' ≤ c && c ≤ 'F' then some (c.toNat - 'A'.toNat + 10)
  else none

/-- The unit of sixteen bits that four hexadecimal digits stand for. -/
def unit? (a b c d : Char) : Option Nat := do
  return ((← hexValue? a) * 16 + (← hexValue? b)) * 256 + (← hexValue? c) * 16 + (← hexValue? d)

/-- The first unit of a pair. -/
def isHigh (unit : Nat) : Bool :=
  0xd800 ≤ unit && unit < 0xdc00

/-- The second unit of a pair. -/
def isLow (unit : Nat) : Bool :=
  0xdc00 ≤ unit && unit < 0xe000

/-- The character that a pair of units stands for. -/
def ofPair (high low : Nat) : Char :=
  Char.ofNat (0x10000 + (high - 0xd800) * 0x400 + (low - 0xdc00))

/-- The character that a letter after a backslash stands for. -/
def escaped? (c : Char) : Option Char :=
  if c = '"' || c = '\\' || c = '/' then some c
  else if c = 'b' then some '\x08'
  else if c = 'f' then some '\x0c'
  else if c = 'n' then some '\n'
  else if c = 'r' then some '\r'
  else if c = 't' then some '\t'
  else none

/-- A character before those that are read after it. -/
def push (c : Char) (read : Option (List Char × List Char)) : Option (List Char × List Char) :=
  read.map fun (chars, rest) ↦ (c :: chars, rest)

/-- The characters up to the closing quote, and what follows it. Half of a pair of units is no
character. -/
def chars? : List Char → Option (List Char × List Char)
  | [] => none
  | '"' :: rest => some ([], rest)
  | '\\' :: 'u' :: a :: b :: c :: d :: rest => do
    let unit ← unit? a b c d
    if isHigh unit then
      match rest with
      | '\\' :: 'u' :: a :: b :: c :: d :: rest => do
        let low ← unit? a b c d
        if isLow low then push (ofPair unit low) (chars? rest) else none
      | _ => none
    else if isLow unit then none
    else push (Char.ofNat unit) (chars? rest)
  | '\\' :: c :: rest => do push (← escaped? c) (chars? rest)
  | c :: rest => if c.toNat < 0x20 then none else push c (chars? rest)

/-- A text between quotes. -/
def string? (text : List Char) : Option (String × List Char) := do
  let (chars, rest) ← chars? (← pass? '"' text)
  return (String.ofList chars, rest)

/-! ### Numbers -/

/-- A minus sign, if there is one. -/
def minus (text : List Char) : Bool × List Char :=
  match pass? '-' text with
  | some rest => (true, rest)
  | none => (false, text)

/-- One digit or more. -/
def digits? (text : List Char) : Option (List Char × List Char) :=
  if (text.takeWhile Char.isDigit).isEmpty then none
  else some (text.takeWhile Char.isDigit, text.dropWhile Char.isDigit)

/-- The whole part of a number: no zero stands before other digits. -/
def whole? (text : List Char) : Option (List Char × List Char) := do
  let (whole, rest) ← digits? text
  if whole.head? = some '0' && whole.length != 1 then none else return (whole, rest)

/-- The digits after a point, if there is one. -/
def fraction? (text : List Char) : Option (List Char × List Char) :=
  match pass? '.' text with
  | some rest => digits? rest
  | none => some ([], text)

/-- The sign of an exponent, if it has one. -/
def sign (text : List Char) : Bool × List Char :=
  match pass? '+' text with
  | some rest => (false, rest)
  | none => minus text

/-- An exponent, if there is one. -/
def exponent? (text : List Char) : Option (Option (Bool × List Char) × List Char) :=
  match pass? 'e' text <|> pass? 'E' text with
  | some rest => do
    let (negative, rest) := sign rest
    let (digits, rest) ← digits? rest
    return (some (negative, digits), rest)
  | none => some (none, text)

/-- A number. -/
def number? (text : List Char) : Option (Json × List Char) := do
  let (negative, rest) := minus text
  let (whole, rest) ← whole? rest
  let (fraction, rest) ← fraction? rest
  let (exponent, rest) ← exponent? rest
  return (Numeral.value { negative, whole, fraction, exponent }, rest)

/-! ### Documents -/

/-- The key of a member and the colon after it. -/
def key? (text : List Char) : Option (String × List Char) := do
  let (key, rest) ← string? text
  return (key, skip (← pass? ':' (skip rest)))

mutual

/-- The document that a text starts with, and what follows it. -/
def value? : Nat → List Char → Option (Json × List Char)
  | 0, _ => none
  | fuel + 1, text =>
    if text.head? = some '"' then do
      let (s, rest) ← string? text
      return (.str s, rest)
    else if text.head? = some '[' then
      match pass? ']' (skip text.tail) with
      | some rest => some (.arr [], rest)
      | none => do
        let (item, rest) ← value? fuel (skip text.tail)
        let (items, rest) ← items? fuel (skip rest)
        return (.arr (item :: items), rest)
    else if text.head? = some '\x7b' then
      match pass? '\x7d' (skip text.tail) with
      | some rest => some (.obj [], rest)
      | none => do
        let (key, rest) ← key? (skip text.tail)
        let (value, rest) ← value? fuel rest
        let (members, rest) ← members? fuel (skip rest)
        return (.obj ((key, value) :: members), rest)
    else if text.head? = some 'n' then word? "null" .null text
    else if text.head? = some 't' then word? "true" (.bool true) text
    else if text.head? = some 'f' then word? "false" (.bool false) text
    else number? text

/-- The items after the first, to the closing bracket. -/
def items? : Nat → List Char → Option (List Json × List Char)
  | 0, _ => none
  | fuel + 1, text =>
    match pass? ']' text with
    | some rest => some ([], rest)
    | none => do
      let (item, rest) ← value? fuel (skip (← pass? ',' text))
      let (items, rest) ← items? fuel (skip rest)
      return (item :: items, rest)

/-- The members after the first, to the closing brace. -/
def members? : Nat → List Char → Option (List (String × Json) × List Char)
  | 0, _ => none
  | fuel + 1, text =>
    match pass? '\x7d' text with
    | some rest => some ([], rest)
    | none => do
      let (key, rest) ← key? (skip (← pass? ',' text))
      let (value, rest) ← value? fuel rest
      let (members, rest) ← members? fuel (skip rest)
      return ((key, value) :: members, rest)

end

end Reader

/-- Read a JSON text. -/
def read (text : List Char) : Option Json := do
  let (json, rest) ← Reader.value? text.length (Reader.skip text)
  if (Reader.skip rest).isEmpty then some json else none

namespace Reader

/-! ### Reading texts -/

theorem pass?_cons (mark : Char) (rest : List Char) : pass? mark (mark :: rest) = some rest :=
  if_pos rfl

theorem pass?_of_head?_ne {mark : Char} {text : List Char} (h : text.head? ≠ some mark) :
    pass? mark text = none := by
  cases text with
  | nil => rfl
  | cons c rest => exact if_neg fun same ↦ h (congrArg some same)

theorem hexValue?_hexDigit {n : Nat} (small : n < 16) : hexValue? (hexDigit n) = some n := by
  have all : ∀ n < 16, hexValue? (hexDigit n) = some n := by decide
  exact all n small

/-- The escape of a control is read as its number. -/
theorem unit?_of_control {n : Nat} (small : n < 0x20) :
    unit? '0' '0' (hexDigit (n / 16)) (hexDigit (n % 16)) = some n := by
  have zero : hexValue? '0' = some 0 := rfl
  rw [unit?, zero, hexValue?_hexDigit (by omega), hexValue?_hexDigit (by omega)]
  exact congrArg some (by omega)

theorem chars?_escapeChar (c : Char) (text : List Char) :
    chars? (escapeChar c ++ text) = push c (chars? text) := by
  rw [escapeChar]
  split_ifs with quote backslash feed return_ tab form back control
  · subst quote; rfl
  · subst backslash; rfl
  · subst feed; rfl
  · subst return_; rfl
  · subst tab; rfl
  · subst form; rfl
  · subst back; rfl
  · have notHigh : ¬isHigh c.toNat = true := by
      simp only [isHigh, Bool.and_eq_true, decide_eq_true_eq]
      omega
    have notLow : ¬isLow c.toNat = true := by
      simp only [isLow, Bool.and_eq_true, decide_eq_true_eq]
      omega
    simp only [List.cons_append, List.nil_append, chars?, unit?_of_control control,
      Option.bind_eq_bind, Option.bind_some, if_neg notHigh, if_neg notLow, Char.ofNat_toNat]
  · -- A character that is written as it is, is neither a quote nor a backslash.
    rw [List.singleton_append, chars?.eq_def]
    split <;> simp_all

theorem chars?_flatMap (chars rest : List Char) :
    chars? (chars.flatMap escapeChar ++ '"' :: rest) = some (chars, rest) := by
  induction chars with
  | nil => rfl
  | cons c chars ih => rw [List.flatMap_cons, List.append_assoc, chars?_escapeChar, ih]; rfl

/-- **A text that is written is read as it was.** -/
theorem string?_renderString (s : String) (rest : List Char) :
    string? (renderString s ++ rest) = some (s, rest) := by
  have opened : renderString s ++ rest = '"' :: (s.toList.flatMap escapeChar ++ '"' :: rest) := by
    rw [renderString, List.cons_append, List.cons_append, List.append_assoc, List.singleton_append]
  simp only [string?, opened, pass?_cons, chars?_flatMap, Option.bind_eq_bind, Option.bind_some,
    Option.pure_def, String.ofList_toList]

/-! ### Reading numbers -/

/-- No digit comes next. -/
def NoDigit (text : List Char) : Prop :=
  ∀ c ∈ text.head?, c.isDigit = false

/-- Nothing comes next that a number could go on with. -/
def Ends (text : List Char) : Prop :=
  ∀ c ∈ text.head?, c = ',' ∨ c = ']' ∨ c = '\x7d' ∨ c = '\n'

theorem Ends.noDigit {text : List Char} (ends : Ends text) : NoDigit text := by
  intro c head
  rcases ends c head with rfl | rfl | rfl | rfl <;> rfl

theorem digits?_append {digits rest : List Char} (some_digits : digits ≠ [])
    (all : ∀ c ∈ digits, c.isDigit = true) (stop : NoDigit rest) :
    digits? (digits ++ rest) = some (digits, rest) := by
  have none : rest.takeWhile Char.isDigit = [] ∧ rest.dropWhile Char.isDigit = rest := by
    cases rest with
    | nil => exact ⟨rfl, rfl⟩
    | cons c rest => simp [stop c rfl]
  rw [digits?, List.takeWhile_append_of_pos all, List.dropWhile_append_of_pos all, none.1, none.2,
    List.append_nil, if_neg (by simpa using some_digits)]

theorem whole?_append {whole rest : List Char} (some_digits : whole ≠ [])
    (all : ∀ c ∈ whole, c.isDigit = true) (lead : whole.head? = some '0' → whole.length = 1)
    (stop : NoDigit rest) : whole? (whole ++ rest) = some (whole, rest) := by
  have fine : ¬(decide (whole.head? = some '0') && whole.length != 1) = true := by
    simpa using lead
  rw [whole?, digits?_append some_digits all stop]
  exact if_neg fine

theorem minus_append (negative : Bool) {text : List Char} (unsigned : text.head? ≠ some '-') :
    minus (Binary64.signText negative ++ text) = (negative, text) := by
  cases negative with
  | true => rfl
  | false => simp only [minus, Binary64.signText, Bool.false_eq_true, if_false, List.nil_append,
      pass?_of_head?_ne unsigned]

theorem fraction?_append {fraction rest : List Char} (all : ∀ c ∈ fraction, c.isDigit = true)
    (stop : NoDigit rest) (noPoint : rest.head? ≠ some '.') :
    fraction? (Numeral.fractionText fraction ++ rest) = some (fraction, rest) := by
  cases fraction with
  | nil =>
    rw [Numeral.fractionText, if_pos List.isEmpty_nil, List.nil_append, fraction?,
      pass?_of_head?_ne noPoint]
  | cons d fraction =>
    rw [Numeral.fractionText_of_ne_nil (List.cons_ne_nil d fraction), List.cons_append, fraction?,
      pass?_cons]
    exact digits?_append (List.cons_ne_nil d fraction) all stop

theorem sign_cons (negative : Bool) (rest : List Char) :
    sign ((if negative then '-' else '+') :: rest) = (negative, rest) := by
  cases negative <;> rfl

theorem exponent?_append {exponent : Option (Bool × List Char)} {rest : List Char}
    (wellFormed : ∀ e ∈ exponent, e.2 ≠ [] ∧ ∀ c ∈ e.2, c.isDigit = true) (ends : Ends rest) :
    exponent? (Numeral.exponentText exponent ++ rest) = some (exponent, rest) := by
  cases exponent with
  | none =>
    have noMark : rest.head? ≠ some 'e' ∧ rest.head? ≠ some 'E' := by
      constructor <;> intro mark <;> exact absurd (ends _ mark) (by decide)
    rw [Numeral.exponentText, List.nil_append, exponent?, pass?_of_head?_ne noMark.1,
      pass?_of_head?_ne noMark.2]
    rfl
  | some exponent =>
    obtain ⟨negative, digits⟩ := exponent
    obtain ⟨some_digits, all⟩ := wellFormed _ rfl
    rw [Numeral.exponentText, List.cons_append, List.cons_append, exponent?, pass?_cons]
    simp only [Option.orElse_some, Option.orElse_eq_orElse, sign_cons,
      digits?_append some_digits all ends.noDigit]
    rfl

/-- Behind the fraction comes an exponent or the end of the number. -/
theorem head?_exponentText_append {exponent : Option (Bool × List Char)} {rest : List Char}
    {c : Char} (head : c ∈ (Numeral.exponentText exponent ++ rest).head?) :
    c = 'e' ∨ c ∈ rest.head? := by
  cases exponent with
  | none => exact .inr head
  | some exponent => exact .inl (Option.some.inj head).symm

/-- Behind the whole part comes a point or what stands behind the fraction. -/
theorem head?_fractionText_append {fraction rest : List Char} {c : Char}
    (head : c ∈ (Numeral.fractionText fraction ++ rest).head?) : c = '.' ∨ c ∈ rest.head? := by
  cases fraction with
  | nil => exact .inr head
  | cons d fraction => exact .inl (Option.some.inj head).symm

/-- **A numeral is read as what it is worth.** -/
theorem number?_append {numeral : Numeral} (wellFormed : numeral.WellFormed) {rest : List Char}
    (ends : Ends rest) : number? (numeral.text ++ rest) = some (numeral.value, rest) := by
  obtain ⟨negative, whole, fraction, exponent⟩ := numeral
  obtain ⟨some_digits, digits, lead, fractionDigits, exponentDigits⟩ := wellFormed
  dsimp only at some_digits digits lead fractionDigits exponentDigits
  have afterFraction : ∀ c ∈ (Numeral.exponentText exponent ++ rest).head?,
      c.isDigit = false ∧ c ≠ '.' := by
    intro c head
    rcases head?_exponentText_append head with rfl | head
    · decide
    · rcases ends c head with rfl | rfl | rfl | rfl <;> decide
  have afterWhole : NoDigit
      (Numeral.fractionText fraction ++ (Numeral.exponentText exponent ++ rest)) := by
    intro c head
    rcases head?_fractionText_append head with rfl | head
    · rfl
    · exact (afterFraction c head).1
  have unsigned (text : List Char) : (whole ++ text).head? ≠ some '-' := by
    rw [List.head?_append_of_ne_nil _ some_digits]
    exact fun sign ↦ absurd (digits _ (List.mem_of_mem_head? sign)) (by decide)
  have fractionRead := fraction?_append fractionDigits (fun c head ↦ (afterFraction c head).1)
    fun point ↦ (afterFraction _ point).2 rfl
  simp only [Numeral.text, List.append_assoc, number?, minus_append negative (unsigned _),
    whole?_append some_digits digits lead afterWhole, fractionRead,
    exponent?_append exponentDigits ends, Option.bind_eq_bind, Option.bind_some, Option.pure_def]

end Reader

end Tabstave.Json
