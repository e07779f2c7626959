import Mathlib.Data.List.Induction
import Tabstave.Number.Reading
import Tabstave.Proofs.Json.Numeral

/-!
# Reading whole numbers

A whole number that is read has no more digits than are allowed, so it is less than the power of ten
with that exponent (`natAbs_lt_of_int?`). The other way round, what is written of a number below
that power is read as that number (`int?_renderInt`).
-/

namespace Tabstave.Number

/-! ### What is read -/

theorem lt_of_digitIn? {base : Nat} {c : Char} {d : Nat} (digit : digitIn? base c = some d) :
    d < base :=
  of_decide_eq_true (Option.filter_eq_some_iff.1 digit).2

theorem lt_of_mem_takeDigits {base : Nat} {afterDigit : Bool} {text : List Char} {d : Nat}
    (mem : d ∈ (takeDigits base afterDigit text).1) : d < base := by
  fun_induction takeDigits base afterDigit text with
  | case1 => cases mem
  | case2 afterDigit c rest first digit digits rest' taken ih =>
    rcases List.mem_cons.1 mem with rfl | mem
    · exact lt_of_digitIn? digit
    · exact ih (taken ▸ mem)
  | case3 afterDigit c rest noDigit separates ih => exact ih mem
  | case4 => cases mem

theorem ofDigitValues_append_singleton (base : Nat) (digits : List Nat) (d : Nat) :
    ofDigitValues base (digits ++ [d]) = base * ofDigitValues base digits + d :=
  List.foldl_concat ..

theorem ofDigitValues_lt {base : Nat} {digits : List Nat} (small : ∀ d ∈ digits, d < base) :
    ofDigitValues base digits < base ^ digits.length := by
  induction digits using List.reverseRecOn with
  | nil => exact Nat.one_pos
  | append_singleton digits d ih =>
    obtain ⟨others, last⟩ := List.forall_mem_append.1 small
    have before := ih others
    have last := last d (List.mem_singleton_self d)
    calc ofDigitValues base (digits ++ [d])
        = base * ofDigitValues base digits + d := ofDigitValues_append_singleton base digits d
      _ < base * (ofDigitValues base digits + 1) := by rw [Nat.mul_succ]; omega
      _ ≤ base * base ^ digits.length := Nat.mul_le_mul_left _ before
      _ = base ^ (digits ++ [d]).length := by
        rw [List.length_append, List.length_singleton, Nat.pow_succ, Nat.mul_comm]

theorem ofDigitValues_lt_of_length_le {digits : List Nat} (small : ∀ d ∈ digits, d < 10)
    {count : Nat} (short : digits.length ≤ count) : ofDigitValues 10 digits < Nat.pow 10 count :=
  (ofDigitValues_lt small).trans_le (Nat.pow_le_pow_right (by decide) short)

/-- A number is read from its digits, of which there are not too many. -/
theorem exists_digits_of_readInt {text : List Char} {n : Int} (read : readInt 10 text = .number n) :
    ∃ digits, n.natAbs = ofDigitValues 10 digits ∧ (∀ d ∈ digits, d < 10) ∧
      digits.length ≤ maxDigits := by
  rw [readInt] at read
  dsimp only at read
  split_ifs at read with malformed tooMany ends negative
  all_goals
    refine ⟨(takeDigits 10 false (dropBaseMark 10 (takeSign (text.dropWhile isPadding)).2)).1, ?_,
      fun d ↦ lt_of_mem_takeDigits, by simpa using tooMany⟩
    injection read with read
    omega

/-- **A whole number that is read has no more digits than are allowed.** -/
theorem natAbs_lt_of_int? {text : List Char} {n : Int} (read : int? text = some n) :
    n.natAbs < Nat.pow 10 maxDigits := by
  rw [int?] at read
  split at read
  · next number =>
    cases read
    obtain ⟨digits, value, small, short⟩ := exists_digits_of_readInt number
    exact value ▸ ofDigitValues_lt_of_length_le small short
  · cases read

/-! ### Reading what is written -/

theorem digitIn?_of_isDigit {c : Char} (digit : c.isDigit = true) :
    digitIn? 10 c = some (c.toNat - '0'.toNat) := by
  obtain ⟨low, high⟩ := Char.isDigit_iff_toNat.1 digit
  have low : 0x30 ≤ c.toNat := low
  have high : c.toNat < 0x3a := Nat.lt_succ_of_le high
  have noLower : ¬('a' ≤ c) := by
    rw [Char.le_def, UInt32.le_iff_toNat_le]
    exact fun h ↦ absurd (Nat.le_trans h (Nat.le_of_lt_succ high)) (by decide)
  have noUpper : ¬('A' ≤ c) := by
    rw [Char.le_def, UInt32.le_iff_toNat_le]
    exact fun h ↦ absurd (Nat.le_trans h (Nat.le_of_lt_succ high)) (by decide)
  have small : c.toNat - 0x30 < 10 := by omega
  simp only [digitIn?, noLower, noUpper, decide_false, Bool.false_and, Bool.false_eq_true, if_false,
    Text.digitValue?_ascii low high, Option.filter_some, decide_eq_true small, if_true]
  rfl

theorem takeDigits_of_isDigit {digits : List Char} (all : ∀ c ∈ digits, c.isDigit = true)
    (afterDigit : Bool) :
    takeDigits 10 afterDigit digits = (digits.map (·.toNat - '0'.toNat), []) := by
  induction digits generalizing afterDigit with
  | nil => rfl
  | cons c digits ih =>
    obtain ⟨first, others⟩ := List.forall_mem_cons.1 all
    rw [takeDigits, digitIn?_of_isDigit first]
    simp only [ih others, List.map_cons]

theorem ofDigitValues_map (digits : List Char) :
    ofDigitValues 10 (digits.map (·.toNat - '0'.toNat)) = valueOf digits := by
  rw [ofDigitValues, List.foldl_map]
  rfl

/-- In decimal digits no mark of the base is looked for. -/
theorem dropBaseMark_ten (text : List Char) : dropBaseMark 10 text = text := by
  rw [dropBaseMark.eq_def]
  split
  · exact if_neg (by simp [baseMark?])
  · rfl

/-- A digit is neither white space nor a sign. -/
theorem takeSign_cons_digit (negative : Bool) {c : Char} (digit : c.isDigit = true)
    (rest : List Char) :
    takeSign ((Binary64.signText negative ++ c :: rest).dropWhile isPadding) =
      (negative, c :: rest) := by
  cases negative with
  | true => rfl
  | false =>
    obtain ⟨low, high⟩ := Char.isDigit_iff_toNat.1 digit
    have low : 0x30 ≤ c.toNat := low
    have high : c.toNat ≤ 0x39 := high
    have solid : isPadding c = false := by
      have noSpace : Text.isSpace c = false := by
        simp only [Text.isSpace, Bool.or_eq_false_iff, Bool.and_eq_false_iff,
          decide_eq_false_iff_not, beq_eq_false_iff_ne]
        omega
      rw [isPadding, noSpace, Bool.false_and]
    rw [Binary64.signText, if_neg Bool.false_ne_true, List.nil_append,
      List.dropWhile_cons_of_neg (by simp [solid]), takeSign.eq_def]
    split
    · next same => cases same; exact absurd digit (by decide)
    · next same => cases same; exact absurd digit (by decide)
    · rfl

theorem length_digitsOf_le {n count : Nat} (positive : 0 < count) (short : n < Nat.pow 10 count) :
    (digitsOf n).length ≤ count :=
  (Nat.length_toDigits_le_iff (by decide) positive).2 short

/-- **What is written of a number with no more digits than are allowed is read as that number.** -/
theorem int?_renderInt {n : Int} (short : n.natAbs < Nat.pow 10 maxDigits) :
    int? (Json.renderInt n) = some n := by
  have count : (digitsOf n.natAbs).length ≤ maxDigits := length_digitsOf_le (by decide) short
  have sign : takeSign ((Json.renderInt n).dropWhile isPadding) =
      (decide (n < 0), digitsOf n.natAbs) := by
    obtain ⟨c, rest, digits⟩ := List.exists_cons_of_ne_nil (digitsOf_ne_nil n.natAbs)
    rw [Json.renderInt, digits]
    exact takeSign_cons_digit _ (isDigit_of_mem_digitsOf (digits ▸ List.mem_cons_self)) rest
  have read : takeDigits 10 false (digitsOf n.natAbs) =
      ((digitsOf n.natAbs).map (·.toNat - '0'.toNat), []) :=
    takeDigits_of_isDigit (fun _ ↦ isDigit_of_mem_digitsOf) false
  have number : readInt 10 (Json.renderInt n) = .number n := by
    rw [readInt, sign]
    simp only [dropBaseMark_ten, read, ofDigitValues_map, valueOf_digitsOf]
    rw [if_neg (by simp [digitsOf_ne_nil]), if_neg (by simpa using count), List.dropWhile_nil,
      List.isEmpty_nil, if_pos rfl]
    simp only [decide_eq_true_eq]
    split_ifs <;> congr 1 <;> omega
  rw [int?, number]

end Tabstave.Number
