import Mathlib.Algebra.Order.Ring.Nat
import Mathlib.Tactic.Ring
import Tabstave.Number.Decimal

/-!
# Nearest numbers

The number nearest to a quotient depends on what the quotient is worth, not on how it is written:
`ofUnits_mul_mul` lets a factor be taken out of it, and from that `ofDecimal_mul_pow` lets zeros at
the end of a decimal be traded for its exponent. A number of the format is the nearest to itself
(`ofUnits_of_canonical`).
-/

namespace Tabstave

namespace Number

theorem roundHalfEven_mul_mul (num den : Nat) {factor : Nat} (positive : 0 < factor) :
    roundHalfEven (num * factor) (den * factor) = roundHalfEven num den := by
  have double (n : Nat) : 2 * (n * factor) = 2 * n * factor := (Nat.mul_assoc 2 n factor).symm
  simp only [roundHalfEven, Nat.mul_div_mul_right _ _ positive, Nat.mul_mod_mul_right, double,
    Nat.mul_lt_mul_right positive]

/-- A quotient is rounded down or up. -/
theorem roundHalfEven_eq_or (num den : Nat) :
    roundHalfEven num den = num / den ∨ roundHalfEven num den = num / den + 1 := by
  have parity : num / den % 2 = 0 ∨ num / den % 2 = 1 := by omega
  rw [roundHalfEven]
  split
  · exact .inl rfl
  · split
    · exact .inr rfl
    · exact parity.imp (fun even ↦ by rw [even, Nat.add_zero]) fun odd ↦ by rw [odd]

/-- Multiplying by ten puts a zero behind the digits. -/
theorem digitsOf_mul_ten {n : Nat} (positive : 0 < n) :
    digitsOf (n * 10) = digitsOf n ++ ['0'] := by
  have appended := Nat.toDigits_append_toDigits (b := 10) (n := n) (d := 0) (by decide) positive
    (by decide)
  rw [Nat.add_zero, Nat.mul_comm] at appended
  exact appended.symm

theorem digitsOf_mul_pow {n : Nat} (positive : 0 < n) (count : Nat) :
    digitsOf (n * 10 ^ count) = digitsOf n ++ List.replicate count '0' := by
  induction count with
  | zero => rw [pow_zero, Nat.mul_one, List.replicate_zero, List.append_nil]
  | succ count ih =>
    have more : 0 < n * 10 ^ count := Nat.mul_pos positive (Nat.pow_pos (by decide))
    rw [Nat.pow_succ, ← Nat.mul_assoc, digitsOf_mul_ten more, ih, List.append_assoc,
      ← List.replicate_succ']

end Number

namespace Binary64

open Number

theorem ofUnits_mul_mul (negative : Bool) (num den : Nat) {factor : Nat} (positive : 0 < factor) :
    ofUnits negative (num * factor) (den * factor) = ofUnits negative num den := by
  have same (power : Nat) : den * factor * power = den * power * factor := Nat.mul_right_comm ..
  simp only [ofUnits, Nat.mul_div_mul_right _ _ positive, same, roundHalfEven_mul_mul _ _ positive]

theorem ofQuotient_mul_mul (negative : Bool) (num den : Nat) {factor : Nat}
    (positive : 0 < factor) :
    ofQuotient negative (num * factor) (den * factor) = ofQuotient negative num den := by
  rw [ofQuotient, Nat.mul_right_comm, ofUnits_mul_mul _ _ _ positive, ofQuotient]

/-- The shift of a number can be read off its size. -/
theorem log2_of_canonical {significand shift : Nat} (canonical : IsCanonical significand shift)
    (positive : significand ≠ 0) : (significand * 2 ^ shift).log2 - 52 = shift := by
  obtain ⟨small, full, -⟩ := canonical
  change significand < 2 ^ 53 at small
  change shift = 0 ∨ 2 ^ 52 ≤ significand at full
  have magnitude : significand * 2 ^ shift ≠ 0 :=
    Nat.mul_ne_zero positive (Nat.pow_pos (by decide)).ne'
  -- Without a shift the size fits as it is; with one, the significand fills all its bits.
  rcases full with rfl | full
  · have size : significand.log2 < 53 := (Nat.log2_lt positive).2 small
    rw [pow_zero, Nat.mul_one]
    omega
  · have size : (significand * 2 ^ shift).log2 = 52 + shift := by
      rw [Nat.log2_eq_iff magnitude, Nat.pow_add, Nat.add_right_comm 52, Nat.pow_add]
      exact ⟨Nat.mul_le_mul_right _ full,
        Nat.mul_lt_mul_of_pos_right small (Nat.pow_pos (by decide))⟩
    rw [size, Nat.add_sub_cancel_left]

/-- A number of the format is the nearest to itself. -/
theorem ofUnits_of_canonical (negative : Bool) {significand shift : Nat}
    (canonical : IsCanonical significand shift) (positive : significand ≠ 0) :
    ofUnits negative (significand * 2 ^ shift) 1 =
      .finite negative significand shift canonical := by
  have magnitude : significand * 2 ^ shift ≠ 0 :=
    Nat.mul_ne_zero positive (Nat.pow_pos (by decide)).ne'
  have exact : roundHalfEven (significand * 2 ^ shift) (1 * Nat.pow 2 shift) = significand := by
    rw [Nat.one_mul]
    exact roundHalfEven_mul significand (Nat.pow_pos (by decide))
  have small : significand ≠ Nat.pow 2 53 := (Nat.ne_of_lt canonical.1)
  rw [ofUnits, Nat.div_one, if_neg magnitude, log2_of_canonical canonical positive, exact,
    if_neg small, ofParts, dif_pos canonical]

/-! ### Decimals -/

theorem ofUnits_true (num den : Nat) : ofUnits true num den = (ofUnits false num den).neg := by
  have parts (significand shift : Nat) :
      ofParts true significand shift = (ofParts false significand shift).neg := by
    rw [ofParts, ofParts]
    split <;> rfl
  simp only [ofUnits, parts, apply_ite neg]

/-- The negative number nearest to a decimal is that on the other side of zero. -/
theorem ofDecimal_true (digits : Nat) (exponent : Int) :
    ofDecimal true digits exponent = (ofDecimal false digits exponent).neg := by
  simp only [ofDecimal, ofQuotient, ofUnits_true, apply_ite neg]
  rfl

/-- A decimal as a quotient, with any power of ten below that makes up for the exponent. -/
theorem ofQuotient_pow (negative : Bool) (digits : Nat) {exponent : Int} {power : Nat}
    (enough : 0 ≤ exponent + power) :
    (if 0 ≤ exponent then ofQuotient negative (digits * Nat.pow 10 exponent.toNat) 1
      else ofQuotient negative digits (Nat.pow 10 (-exponent).toNat)) =
      ofQuotient negative (digits * 10 ^ (exponent + power).toNat) (10 ^ power) := by
  have positive (count : Nat) : 0 < 10 ^ count := Nat.pow_pos (by decide)
  split
  · have parts : (exponent + power).toNat = exponent.toNat + power := by omega
    have multiplied := ofQuotient_mul_mul negative (digits * 10 ^ exponent.toNat) 1 (positive power)
    rw [Nat.mul_assoc, ← Nat.pow_add, ← parts, Nat.one_mul] at multiplied
    exact multiplied.symm
  · have parts : (-exponent).toNat + (exponent + power).toNat = power := by omega
    have multiplied := ofQuotient_mul_mul negative digits (10 ^ (-exponent).toNat)
      (positive (exponent + power).toNat)
    rw [← Nat.pow_add, parts] at multiplied
    exact multiplied.symm

/-- Zeros behind the digits of a decimal can be counted by its exponent. -/
theorem ofDecimal_mul_pow (negative : Bool) (digits count : Nat) (exponent : Int) :
    ofDecimal negative (digits * 10 ^ count) exponent =
      ofDecimal negative digits (exponent + count) := by
  rcases Nat.eq_zero_or_pos digits with rfl | positive
  · rw [Nat.zero_mul, ofDecimal, ofDecimal, if_pos rfl, if_pos rfl]
  have longer : ((Nat.toDigits 10 (digits * 10 ^ count)).length : Int) =
      (Nat.toDigits 10 digits).length + count := by
    have parts := digitsOf_mul_pow positive count
    rw [digitsOf, digitsOf] at parts
    rw [parts, List.length_append, List.length_replicate, Nat.cast_add]
  have nonzero : digits * 10 ^ count ≠ 0 :=
    Nat.mul_ne_zero positive.ne' (Nat.pow_pos (by decide)).ne'
  have place : exponent + ((Nat.toDigits 10 digits).length + count) =
      exponent + count + (Nat.toDigits 10 digits).length := by omega
  -- Both sides are quotients by the power of ten that makes up for the smaller exponent.
  have enough : 0 ≤ exponent + (-exponent).toNat := by omega
  have enough' : 0 ≤ exponent + count + (-exponent).toNat := by omega
  have raised : (exponent + count + (-exponent).toNat).toNat =
      count + (exponent + (-exponent).toNat).toNat := by omega
  have value : digits * 10 ^ (count + (exponent + (-exponent).toNat).toNat) =
      digits * 10 ^ count * 10 ^ (exponent + (-exponent).toNat).toNat := by
    rw [Nat.pow_add, Nat.mul_assoc]
  simp only [ofDecimal, longer, if_neg nonzero, if_neg positive.ne', place,
    ofQuotient_pow _ _ enough, ofQuotient_pow _ _ enough', raised, value]

end Binary64

end Tabstave
