import Mathlib.Data.List.Basic
import Tabstave.Json.Basic
import Tabstave.Proofs.Number.Shortest

/-!
# Numbers in JSON

A number in a JSON text has a whole part, digits after a point and an exponent, of which the last
two may be missing; with either of them it is a binary number, and without both a whole number. A
`Json.Numeral` is such a number in its parts. Every number that is written is the text of a numeral
that is worth that number: for a whole number the numeral of its digits (`Numeral.ofInt`), and for a
finite binary number that of its shortest decimal (`exists_of_finite`).
-/

namespace Tabstave

namespace Number

/-- The number that decimal digits stand for. -/
def valueOf (digits : List Char) : Nat :=
  Nat.ofDigitChars 10 digits 0

theorem valueOf_digitsOf (n : Nat) : valueOf (digitsOf n) = n :=
  Nat.ofDigitChars_ten_toDigits

/-- Zeros in front of the digits make no difference. -/
theorem valueOf_replicate_append (count : Nat) (digits : List Char) :
    valueOf (List.replicate count '0' ++ digits) = valueOf digits := by
  rw [valueOf, Nat.ofDigitChars_append, Nat.ofDigitChars_replicate_zero, Nat.mul_zero, valueOf]

/-- Zeros behind the digits count as powers of ten. -/
theorem valueOf_append_replicate (digits : List Char) (count : Nat) :
    valueOf (digits ++ List.replicate count '0') = valueOf digits * 10 ^ count := by
  rw [valueOf, Nat.ofDigitChars_append, Nat.ofDigitChars_replicate_zero, Nat.mul_comm, valueOf]

theorem isDigit_of_mem_digitsOf {n : Nat} {c : Char} (mem : c ∈ digitsOf n) : c.isDigit = true :=
  Nat.isDigit_of_mem_toDigits (by decide) (by decide) mem

theorem isDigit_of_mem_replicate {count : Nat} {c : Char} (mem : c ∈ List.replicate count '0') :
    c.isDigit = true := by
  rw [List.eq_of_mem_replicate mem]
  rfl

theorem digitsOf_ne_nil (n : Nat) : digitsOf n ≠ [] :=
  Nat.toDigits_ne_nil

/-- The digits of a positive number do not start with a zero. -/
theorem head?_digitsOf_ne_zero {n : Nat} (positive : 0 < n) : (digitsOf n).head? ≠ some '0' := by
  induction n using Nat.strongRecOn with
  | _ n ih =>
    rw [digitsOf, Nat.toDigits_eq_if (by decide)]
    split
    · next small =>
      have single : ∀ n < 10, 0 < n → [Nat.digitChar n].head? ≠ some '0' := by decide
      exact single n small positive
    · next large =>
      rw [List.head?_append_of_ne_nil _ Nat.toDigits_ne_nil]
      exact ih (n / 10) (by omega) (by omega)

end Number

namespace Json

open Number

/-- A number in its parts. -/
structure Numeral where
  negative : Bool
  /-- The digits before the point. -/
  whole : List Char
  /-- The digits after the point, if there is a point. -/
  fraction : List Char := []
  /-- Whether the exponent is negative, and its digits. -/
  exponent : Option (Bool × List Char) := none

namespace Numeral

/-- All characters are digits, parts that are there have some, and no zero stands in front. -/
structure WellFormed (numeral : Numeral) : Prop where
  whole_ne_nil : numeral.whole ≠ []
  whole : ∀ c ∈ numeral.whole, c.isDigit = true
  noLeadingZero : numeral.whole.head? = some '0' → numeral.whole.length = 1
  fraction : ∀ c ∈ numeral.fraction, c.isDigit = true
  exponent : ∀ exponent ∈ numeral.exponent,
    exponent.2 ≠ [] ∧ ∀ c ∈ exponent.2, c.isDigit = true

/-- The text of the digits after a point. -/
def fractionText (fraction : List Char) : List Char :=
  if fraction.isEmpty then [] else '.' :: fraction

/-- The text of an exponent. -/
def exponentText : Option (Bool × List Char) → List Char
  | none => []
  | some (negative, digits) => 'e' :: (if negative then '-' else '+') :: digits

/-- The text of a numeral. -/
def text (numeral : Numeral) : List Char :=
  Binary64.signText numeral.negative ++ numeral.whole ++ fractionText numeral.fraction ++
    exponentText numeral.exponent

/-- A whole number with a sign. -/
def signed (negative : Bool) (n : Nat) : Int :=
  if negative then -n else n

/-- What an exponent is worth; no exponent counts as zero. -/
def exponentValue : Option (Bool × List Char) → Int
  | none => 0
  | some (negative, digits) => signed negative (valueOf digits)

/-- What a numeral is worth. -/
def value (numeral : Numeral) : Json :=
  if numeral.fraction.isEmpty && numeral.exponent.isNone then
    .int (signed numeral.negative (valueOf numeral.whole))
  else
    .float <| .ofDecimal numeral.negative (valueOf (numeral.whole ++ numeral.fraction))
      (exponentValue numeral.exponent - numeral.fraction.length)

/-! ### Whole numbers -/

/-- The numeral of a whole number. -/
def ofInt (n : Int) : Numeral :=
  { negative := n < 0, whole := digitsOf n.natAbs }

theorem text_ofInt (n : Int) : (ofInt n).text = renderInt n := by
  rw [text, ofInt, fractionText, exponentText, renderInt]
  simp

theorem value_ofInt (n : Int) : (ofInt n).value = .int n := by
  rw [value, ofInt]
  simp only [List.isEmpty_nil, Option.isNone_none, Bool.and_self, if_true, valueOf_digitsOf, signed,
    decide_eq_true_eq, int.injEq]
  split <;> omega

theorem head?_digitsOf (n : Nat) (zero : (digitsOf n).head? = some '0') :
    (digitsOf n).length = 1 := by
  rcases Nat.eq_zero_or_pos n with rfl | positive
  · rfl
  · exact absurd zero (head?_digitsOf_ne_zero positive)

theorem wellFormed_ofInt (n : Int) : (ofInt n).WellFormed where
  whole_ne_nil := digitsOf_ne_nil _
  whole _ := isDigit_of_mem_digitsOf
  noLeadingZero := head?_digitsOf _
  fraction _ mem := absurd mem List.not_mem_nil
  exponent _ mem := absurd mem (Option.not_mem_none _)

/-! ### Binary numbers -/

/-- The parts of a decimal in positional notation. -/
def positional (negative : Bool) (digits : List Char) (point : Int) : Numeral :=
  if point ≤ 0 then
    { negative, whole := ['0'], fraction := List.replicate (-point).toNat '0' ++ digits }
  else
    let whole := digits.take point.toNat
    let fraction := digits.drop point.toNat
    { negative, whole := whole ++ List.replicate (point.toNat - whole.length) '0'
      fraction := if fraction.isEmpty then ['0'] else fraction }

/-- The parts of a decimal with an exponent. -/
def scientific (negative : Bool) (digits : List Char) (point : Int) : Numeral :=
  let size := digitsOf (point - 1).natAbs
  { negative, whole := digits.take 1, fraction := digits.drop 1
    exponent := some (decide (point - 1 < 0), List.replicate (2 - size.length) '0' ++ size) }

/-- The parts of a decimal as it is laid out. -/
def ofDecimal (negative : Bool) (decimal : Decimal) : Numeral :=
  let digits := digitsOf decimal.digits
  if -4 < decimal.point && decimal.point ≤ 16 then positional negative digits decimal.point
  else scientific negative digits decimal.point

section Layout

variable (negative : Bool) {digits : List Char} (point : Int)

theorem fractionText_of_ne_nil {fraction : List Char} (some_digits : fraction ≠ []) :
    fractionText fraction = '.' :: fraction := by
  rw [fractionText, if_neg (by simpa using some_digits)]

/-- A point before all digits has zeros behind it. -/
theorem positional_of_nonpos {point : Int} (low : point ≤ 0) : positional negative digits point =
    { negative, whole := ['0'], fraction := List.replicate (-point).toNat '0' ++ digits } := by
  rw [positional, if_pos low]

/-- A point behind all digits has zeros before it, and one behind it. -/
theorem positional_of_ge {point : Int} (high : 0 < point) (covers : digits.length ≤ point.toNat) :
    positional negative digits point =
      { negative, whole := digits ++ List.replicate (point.toNat - digits.length) '0'
        fraction := ['0'] } := by
  rw [positional, if_neg (not_le.2 high), List.take_of_length_le covers,
    List.drop_eq_nil_of_le covers]
  rfl

/-- A point among the digits parts them. -/
theorem positional_of_lt {point : Int} (high : 0 < point) (inside : point.toNat < digits.length) :
    positional negative digits point =
      { negative, whole := digits.take point.toNat, fraction := digits.drop point.toNat } := by
  have some_fraction : ¬(digits.drop point.toNat).isEmpty = true := by simpa using inside
  have length : (digits.take point.toNat).length = point.toNat := by
    rw [List.length_take, Nat.min_eq_left inside.le]
  rw [positional, if_neg (not_le.2 high)]
  dsimp only
  rw [if_neg some_fraction, length, Nat.sub_self, List.replicate_zero, List.append_nil]

theorem text_positional (some_digits : digits ≠ []) :
    (positional negative digits point).text =
      Binary64.signText negative ++ Binary64.positional digits point := by
  rw [positional, Binary64.positional]
  split
  · have behind : List.replicate (-point).toNat '0' ++ digits ≠ [] := by simp [some_digits]
    rw [text, fractionText_of_ne_nil behind]
    simp [exponentText]
  · have behind : (if (digits.drop point.toNat).isEmpty then ['0'] else digits.drop point.toNat) ≠
        [] := by
      split
      · exact List.cons_ne_nil '0' []
      · next some_fraction => simpa using some_fraction
    rw [text, fractionText_of_ne_nil behind]
    simp [exponentText]

theorem text_scientific (some_digits : digits ≠ []) :
    (scientific negative digits point).text =
      Binary64.signText negative ++ Binary64.scientific digits point := by
  match digits, some_digits with
  | [d], _ => simp [scientific, Binary64.scientific, text, fractionText, exponentText]
  | d :: e :: rest, _ => simp [scientific, Binary64.scientific, text, fractionText, exponentText]

theorem value_positional (some_digits : digits ≠ []) :
    (positional negative digits point).value =
      .float (.ofDecimal negative (valueOf digits) (point - digits.length)) := by
  -- The point stands among the digits, behind all of them, or in front.
  rcases lt_or_ge 0 point with high | low
  · rcases Nat.lt_or_ge point.toNat digits.length with inside | covers
    · have place : (0 : Int) - (digits.drop point.toNat).length = point - digits.length := by
        rw [List.length_drop]
        omega
      rw [positional_of_lt negative high inside, value, if_neg (by simpa using inside)]
      dsimp only [exponentValue]
      rw [List.take_append_drop, place]
    · have place : (0 : Int) - (1 : Nat) + (point.toNat - digits.length + 1 : Nat) =
          point - digits.length := by omega
      rw [positional_of_ge negative high covers, value, if_neg (by simp)]
      dsimp only [exponentValue]
      rw [List.append_assoc, ← List.replicate_succ', valueOf_append_replicate,
        Binary64.ofDecimal_mul_pow, List.length_singleton, place]
  · have place : (0 : Int) - (List.replicate (-point).toNat '0' ++ digits).length =
        point - digits.length := by
      rw [List.length_append, List.length_replicate]
      omega
    rw [positional_of_nonpos negative low, value, if_neg (by simp [some_digits])]
    dsimp only [exponentValue]
    rw [← List.append_assoc, ← List.replicate_one, List.replicate_append_replicate,
      valueOf_replicate_append, place]

theorem value_scientific (some_digits : digits ≠ []) :
    (scientific negative digits point).value =
      .float (.ofDecimal negative (valueOf digits) (point - digits.length)) := by
  have exponent : signed (decide (point - 1 < 0))
      (valueOf (List.replicate (2 - (digitsOf (point - 1).natAbs).length) '0' ++
        digitsOf (point - 1).natAbs)) = point - 1 := by
    rw [valueOf_replicate_append, valueOf_digitsOf, signed]
    simp only [decide_eq_true_eq]
    split <;> omega
  have place : point - 1 - (digits.drop 1).length = point - digits.length := by
    have := List.length_pos_iff.2 some_digits
    rw [List.length_drop]
    omega
  rw [value, scientific, if_neg (by simp)]
  dsimp only [exponentValue]
  rw [exponent, place, List.take_append_drop]

theorem wellFormed_positional (some_digits : digits ≠ []) (all : ∀ c ∈ digits, c.isDigit = true)
    (lead : digits.head? ≠ some '0') : (positional negative digits point).WellFormed := by
  have zeros (count : Nat) : ∀ c ∈ List.replicate count '0', c.isDigit = true :=
    fun _ ↦ isDigit_of_mem_replicate
  have noExponent : ∀ exponent ∈ (none : Option (Bool × List Char)),
      exponent.2 ≠ [] ∧ ∀ c ∈ exponent.2, c.isDigit = true :=
    fun _ mem ↦ absurd mem (Option.not_mem_none _)
  rcases lt_or_ge 0 point with high | low
  · rcases Nat.lt_or_ge point.toNat digits.length with inside | covers
    · rw [positional_of_lt negative high inside]
      have first : (digits.take point.toNat).head? = digits.head? := by
        rw [List.head?_take, if_neg (by omega)]
      refine ⟨?_, ?_, ?_, ?_, noExponent⟩
      · simp only [ne_eq, List.take_eq_nil_iff, some_digits, or_false]
        omega
      · exact fun c mem ↦ all c (List.mem_of_mem_take mem)
      · exact fun zero ↦ absurd (first.symm.trans zero) lead
      · exact fun c mem ↦ all c (List.mem_of_mem_drop mem)
    · rw [positional_of_ge negative high covers]
      refine ⟨?_, ?_, ?_, zeros 1, noExponent⟩
      · exact List.append_ne_nil_of_left_ne_nil some_digits _
      · exact fun c mem ↦ (List.mem_append.1 mem).elim (all c) (zeros _ c)
      · intro zero
        rw [List.head?_append_of_ne_nil _ some_digits] at zero
        exact absurd zero lead
  · rw [positional_of_nonpos negative low]
    refine ⟨List.cons_ne_nil _ _, zeros 1, fun _ ↦ rfl, ?_, noExponent⟩
    exact fun c mem ↦ (List.mem_append.1 mem).elim (zeros _ c) (all c)

theorem wellFormed_scientific (some_digits : digits ≠ [])
    (all : ∀ c ∈ digits, c.isDigit = true) : (scientific negative digits point).WellFormed where
  whole_ne_nil := by simpa [scientific] using some_digits
  whole c mem := all c (List.mem_of_mem_take mem)
  noLeadingZero _ := by
    have := List.length_pos_iff.2 some_digits
    simp only [scientific, List.length_take]
    omega
  fraction c mem := all c (List.mem_of_mem_drop mem)
  exponent := by
    rintro _ ⟨⟩
    refine ⟨List.append_ne_nil_of_right_ne_nil _ (digitsOf_ne_nil _), fun c mem ↦ ?_⟩
    exact (List.mem_append.1 mem).elim isDigit_of_mem_replicate isDigit_of_mem_digitsOf

end Layout

theorem text_ofDecimal (negative : Bool) (decimal : Decimal) :
    (ofDecimal negative decimal).text = Binary64.signText negative ++ Binary64.layOut decimal := by
  rw [ofDecimal, Binary64.layOut]
  split
  · exact text_positional negative decimal.point (digitsOf_ne_nil _)
  · exact text_scientific negative decimal.point (digitsOf_ne_nil _)

theorem value_ofDecimal (negative : Bool) (decimal : Decimal) :
    (ofDecimal negative decimal).value =
      .float (.ofDecimal negative decimal.digits
        (decimal.point - (digitsOf decimal.digits).length)) := by
  have digits := valueOf_digitsOf decimal.digits
  rw [ofDecimal]
  split
  · rw [value_positional _ _ (digitsOf_ne_nil _), digits]
  · rw [value_scientific _ _ (digitsOf_ne_nil _), digits]

theorem wellFormed_ofDecimal (negative : Bool) {decimal : Decimal}
    (positive : 0 < decimal.digits) : (ofDecimal negative decimal).WellFormed := by
  have all : ∀ c ∈ digitsOf decimal.digits, c.isDigit = true := fun _ ↦ isDigit_of_mem_digitsOf
  rw [ofDecimal]
  split
  · exact wellFormed_positional _ _ (digitsOf_ne_nil _) all (head?_digitsOf_ne_zero positive)
  · exact wellFormed_scientific _ _ (digitsOf_ne_nil _) all

/-- **Every finite number is written as a numeral that is worth it.** -/
theorem exists_of_finite {x : Binary64} (finite : x.magnitude?.isSome) :
    ∃ numeral : Numeral, numeral.WellFormed ∧ numeral.text = renderFloat x ∧
      numeral.value = .float x := by
  match x with
  | .finite negative significand shift canonical =>
    -- Zero is written with a text of its own, as it has no shortest decimal.
    by_cases zero : significand = 0
    · obtain rfl : shift = 0 := by
        rcases canonical.2.1 with rfl | full
        · rfl
        · rw [zero] at full
          exact absurd full (by decide)
      subst zero
      refine ⟨{ negative, whole := ['0'], fraction := ['0'] }, ?_, ?_, ?_⟩
      · have digit : ∀ c ∈ ['0'], c.isDigit = true := List.forall_mem_singleton.2 rfl
        exact ⟨List.cons_ne_nil _ _, digit, fun _ ↦ rfl, digit,
          fun _ mem ↦ absurd mem (Option.not_mem_none _)⟩
      · simp [text, fractionText, exponentText, renderFloat, Binary64.text]
      · rfl
    · obtain ⟨positive, same⟩ := Binary64.ofDigits_shortest canonical zero
      rw [Binary64.ofDigits] at same
      refine ⟨_, wellFormed_ofDecimal negative positive, ?_, ?_⟩
      · have layout : renderFloat (.finite negative significand shift canonical) =
            Binary64.signText negative ++ if significand = 0 then "0.0".toList
              else Binary64.layOut (Binary64.shortest (significand * 2 ^ shift)) := rfl
        rw [text_ofDecimal, layout, if_neg zero]
      · rw [value_ofDecimal]
        cases negative with
        | false => exact congrArg Json.float same
        | true => rw [Binary64.ofDecimal_true, same]; rfl

end Numeral

end Json

end Tabstave
