import Tabstave.Proofs.Number.Nearest

/-!
# The shortest decimal of a number reads back

`Binary64.shortest` tries grids of decimals and takes a neighbour that reads back as the number; if
none does it takes the exact expansion. Either way `ofDigits_shortest` holds: the digits read back
as the number. That a grid with seventeen digits is always fine enough is not needed for this, as
the exact expansion is in the range of reading.
-/

namespace Tabstave.Binary64

open Number

/-! ### Grids -/

theorem ofDigits_mul_ten {digits : Nat} (positive : 0 < digits) (point : Int) :
    ofDigits ⟨digits * 10, point⟩ = ofDigits ⟨digits, point⟩ := by
  have longer : (digitsOf (digits * 10)).length = (digitsOf digits).length + 1 := by
    rw [digitsOf_mul_ten positive, List.length_append, List.length_singleton]
  have place : point - ((digitsOf digits).length + 1 : Nat) + (1 : Nat) =
      point - (digitsOf digits).length := by omega
  have traded := ofDecimal_mul_pow false digits 1 (point - ((digitsOf digits).length + 1 : Nat))
  rw [pow_one, place] at traded
  rw [ofDigits, ofDigits, longer, traded]

/-- Zeros at the end can be dropped. -/
theorem ofDigits_dropTrailingZeros (fuel : Nat) {digits : Nat} (positive : 0 < digits)
    (point : Int) : 0 < dropTrailingZeros fuel digits ∧
      ofDigits ⟨dropTrailingZeros fuel digits, point⟩ = ofDigits ⟨digits, point⟩ := by
  induction fuel generalizing digits with
  | zero => exact ⟨positive, rfl⟩
  | succ fuel ih =>
    rw [dropTrailingZeros]
    split
    · next last =>
      have tens : digits / 10 * 10 = digits := by omega
      have shorter : 0 < digits / 10 := by omega
      refine ⟨(ih shorter).1, (ih shorter).2.trans ?_⟩
      rw [← ofDigits_mul_ten shorter, tens]
    · exact ⟨positive, rfl⟩

/-- A neighbour that is taken reads back. -/
theorem ofDigits_of_neighbour? {target : Binary64} {num den count : Nat} {point : Int}
    {decimal : Decimal} (h : neighbour? target num den point count = some decimal) :
    0 < decimal.digits ∧ ofDigits decimal = target := by
  rw [neighbour?] at h
  generalize (if 0 ≤ (count : Int) - point then
    (num * Nat.pow 10 ((count : Int) - point).toNat, den)
    else (num, den * Nat.pow 10 (-((count : Int) - point)).toNat)) = quotient at h
  obtain ⟨onGrid, keeps, grid⟩ : ∃ onGrid : Nat → Decimal, (∀ n, (onGrid n).digits = n) ∧
      onGrid = fun digits ↦ ⟨digits, if digits = Nat.pow 10 count then point + 1 else point⟩ :=
    ⟨_, fun _ ↦ rfl, rfl⟩
  simp only [← congrFun grid] at h
  have rounded := roundHalfEven_eq_or quotient.1 quotient.2
  generalize quotient.1 / quotient.2 = low at h rounded
  split at h
  · next both =>
    cases h
    simp only [Bool.and_eq_true, bne_iff_ne, decide_eq_true_eq] at both
    obtain ⟨⟨some_low, below⟩, above⟩ := both
    rw [keeps]
    -- Both neighbours read back, and rounding picks one of them.
    rcases rounded with down | up
    · rw [down]
      exact ⟨Nat.pos_of_ne_zero some_low, below⟩
    · rw [up]
      exact ⟨Nat.succ_pos low, above⟩
  · split at h
    · next below =>
      cases h
      simp only [Bool.and_eq_true, bne_iff_ne, decide_eq_true_eq] at below
      rw [keeps]
      exact ⟨Nat.pos_of_ne_zero below.1, below.2⟩
    · split at h
      · next above =>
        cases h
        rw [keeps]
        exact ⟨Nat.succ_pos low, above⟩
      · cases h

/-! ### The exact expansion -/

/-- The exact expansion of a number has not too many digits to be read, and not too few. -/
theorem length_exact {significand shift places : Nat} (canonical : IsCanonical significand shift)
    (positive : significand ≠ 0) (all : places = 1074) :
    674 ≤ (digitsOf (significand * 2 ^ shift * 5 ^ places)).length ∧
      (digitsOf (significand * 2 ^ shift * 5 ^ places)).length ≤ 1474 := by
  obtain ⟨small, -, low⟩ := canonical
  change significand < 2 ^ 53 at small
  constructor
  · -- The power of five alone has more digits: it exceeds ten to two thirds of the places.
    by_contra short
    obtain ⟨third, thirds⟩ : ∃ third, places = 3 * third := ⟨358, all⟩
    have few : significand * 2 ^ shift * 5 ^ places < 10 ^ (2 * third) :=
      (Nat.length_toDigits_le_iff (by decide) (by omega)).1 (by rw [digitsOf] at short; omega)
    have many : 10 ^ (2 * third) ≤ 5 ^ places := by
      rw [thirds, Nat.pow_mul, Nat.pow_mul]
      exact Nat.pow_le_pow_left (by decide) third
    have some_units : 0 < significand * 2 ^ shift :=
      Nat.mul_pos (Nat.pos_of_ne_zero positive) (Nat.pow_pos (by decide))
    have all_digits : 1 * 5 ^ places ≤ significand * 2 ^ shift * 5 ^ places :=
      Nat.mul_le_mul_right _ some_units
    omega
  · -- There is a digit for each place, and no more than 400 stand before the point.
    obtain ⟨whole, wholes⟩ : ∃ whole, whole = 400 := ⟨400, rfl⟩
    have digits : places + whole = 1474 := by omega
    have size : 53 + shift ≤ places + 3 * whole := by omega
    rw [← digits, digitsOf, Nat.length_toDigits_le_iff (by decide) (by omega)]
    calc
      _ < 2 ^ 53 * 2 ^ shift * 5 ^ places :=
        Nat.mul_lt_mul_of_pos_right
          (Nat.mul_lt_mul_of_pos_right small (Nat.pow_pos (by decide))) (Nat.pow_pos (by decide))
      _ = 2 ^ (53 + shift) * 5 ^ places := by rw [Nat.pow_add]
      _ ≤ 2 ^ (places + 3 * whole) * 5 ^ places :=
        Nat.mul_le_mul_right _ (Nat.pow_le_pow_right (by decide) size)
      _ = 10 ^ places * 8 ^ whole := by
        rw [Nat.pow_add, Nat.pow_mul, Nat.mul_right_comm, ← Nat.mul_pow]
      _ ≤ 10 ^ places * 10 ^ whole :=
        Nat.mul_le_mul_left _ (Nat.pow_le_pow_left (by decide) whole)
      _ = 10 ^ (places + whole) := (Nat.pow_add ..).symm

theorem ofDecimal_exact {significand shift places : Nat}
    (canonical : IsCanonical significand shift) (positive : significand ≠ 0)
    (all : places = 1074) (units : unitsPerOne = 2 ^ places) :
    ofDecimal false (significand * 2 ^ shift * 5 ^ places) (-places) =
      .finite false significand shift canonical := by
  have bounds := length_exact canonical positive all
  rw [digitsOf] at bounds
  have exact : significand * 2 ^ shift * 5 ^ places ≠ 0 :=
    Nat.mul_ne_zero (Nat.mul_ne_zero positive (Nat.pow_pos (by decide)).ne')
      (Nat.pow_pos (by decide)).ne'
  have value : significand * 2 ^ shift * 5 ^ places * 2 ^ places =
      significand * 2 ^ shift * 10 ^ places := by
    rw [Nat.mul_assoc, ← Nat.mul_pow]
  have negative : ¬0 ≤ -(places : Int) := by omega
  have notHigh : ¬400 < -(places : Int) +
      (Nat.toDigits 10 (significand * 2 ^ shift * 5 ^ places)).length := by omega
  have notLow : ¬-(places : Int) +
      (Nat.toDigits 10 (significand * 2 ^ shift * 5 ^ places)).length < -400 := by omega
  have power : Nat.pow 10 places = 1 * 10 ^ places := (Nat.one_mul _).symm
  rw [ofDecimal]
  simp only [if_neg exact, if_neg notHigh, if_neg notLow, if_neg negative, Int.neg_neg,
    Int.toNat_natCast, ofQuotient, units, value, power]
  rw [ofUnits_mul_mul _ _ _ (Nat.pow_pos (by decide)), ofUnits_of_canonical _ canonical positive]

/-! ### The shortest decimal -/

/-- The shortest decimal is a neighbour on some grid, or else the exact expansion. -/
theorem shortest_cases (magnitude : Nat) :
    (∃ (decimal : Decimal) (point : Int) (count : Nat),
      neighbour? (ofUnits false magnitude 1) magnitude unitsPerOne point count = some decimal ∧
        shortest magnitude = ⟨dropTrailingZeros 20 decimal.digits, decimal.point⟩) ∨
    ∃ places : Nat, places = 1074 ∧ unitsPerOne = 2 ^ places ∧
      shortest magnitude = ⟨magnitude * 5 ^ places,
        (digitsOf (magnitude * 5 ^ places)).length - (places : Int)⟩ := by
  unfold shortest unitsPerOne
  -- The number of places is named, so that its powers are not computed.
  obtain ⟨places, all⟩ : ∃ n : Nat, n = 1074 := ⟨_, rfl⟩
  have whole : (1074 : Int) = places := by rw [all]; rfl
  rw [← all, whole]
  dsimp only
  split
  · next decimal found =>
    obtain ⟨k, -, found⟩ := List.exists_of_findSome?_eq_some found
    exact .inl ⟨decimal, _, _, found, rfl⟩
  · exact .inr ⟨places, rfl, rfl, rfl⟩

/-- **The shortest decimal of a number reads back.** -/
theorem ofDigits_shortest {significand shift : Nat} (canonical : IsCanonical significand shift)
    (positive : significand ≠ 0) :
    0 < (shortest (significand * 2 ^ shift)).digits ∧
      ofDigits (shortest (significand * 2 ^ shift)) =
        .finite false significand shift canonical := by
  rcases shortest_cases (significand * 2 ^ shift) with
    ⟨decimal, point, count, found, result⟩ | ⟨places, all, units, result⟩
  · rw [ofUnits_of_canonical false canonical positive] at found
    obtain ⟨some_digits, same⟩ := ofDigits_of_neighbour? found
    obtain ⟨left, dropped⟩ := ofDigits_dropTrailingZeros 20 some_digits decimal.point
    rw [result]
    exact ⟨left, dropped.trans same⟩
  · rw [result]
    refine ⟨?_, ?_⟩
    · exact Nat.mul_pos (Nat.mul_pos (Nat.pos_of_ne_zero positive) (Nat.pow_pos (by decide)))
        (Nat.pow_pos (by decide))
    · rw [ofDigits, sub_sub_cancel_left]
      exact ofDecimal_exact canonical positive all units

end Tabstave.Binary64
