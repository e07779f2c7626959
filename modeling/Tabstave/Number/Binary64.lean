/-!
# Binary floating point numbers of 64 bits

A finite number is a whole number of *units*, the unit being 2⁻¹⁰⁷⁴, the least positive number of
the format. It is held as a sign, a significand below 2⁵³ and the number of places by which the
significand is shifted to the left. The representation is unique: either nothing is shifted or the
significand fills its 53 bits, so equality of representations is equality of numbers, the two zeros
apart.

Every operation is the exact operation on units followed by one rounding, `ofUnits`, which takes the
nearest number of the format and of two equally near ones the one with an even significand.
A quotient is rounded by `Number.roundHalfEven`, which is within half a unit of it
(`roundHalfEven_near`) and changes nothing when the division leaves no remainder
(`roundHalfEven_mul`).
-/

namespace Tabstave

namespace Number

/-- The natural number nearest to `num / den`, the even one of two that are equally near. -/
def roundHalfEven (num den : Nat) : Nat :=
  let quotient := num / den
  let remainder := num % den
  if 2 * remainder < den then quotient
  else if den < 2 * remainder then quotient + 1
  else quotient + quotient % 2

/-- A multiple of the denominator is not rounded. -/
theorem roundHalfEven_mul (k : Nat) {den : Nat} (positive : 0 < den) :
    roundHalfEven (k * den) den = k := by
  simp [roundHalfEven, positive]

/-- The result is within half a unit of the quotient. -/
theorem roundHalfEven_near (num : Nat) {den : Nat} (positive : 0 < den) :
    2 * num ≤ 2 * (roundHalfEven num den * den) + den ∧
      2 * (roundHalfEven num den * den) ≤ 2 * num + den := by
  have parts : num = num / den * den + num % den := by
    have := Nat.div_add_mod num den
    rw [Nat.mul_comm] at this
    exact this.symm
  have small : num % den < den := Nat.mod_lt _ positive
  have parity : num / den % 2 = 0 ∨ num / den % 2 = 1 := by omega
  simp only [roundHalfEven]
  split
  · omega
  · split
    · rw [Nat.add_mul, Nat.one_mul]
      omega
    · rcases parity with h | h <;> rw [h, Nat.add_mul] <;> omega

end Number

/-- A significand and a shift that represent a number uniquely and in range. -/
def Binary64.IsCanonical (significand shift : Nat) : Prop :=
  significand < Nat.pow 2 53 ∧ (shift = 0 ∨ Nat.pow 2 52 ≤ significand) ∧ shift ≤ 2045

instance (significand shift : Nat) : Decidable (Binary64.IsCanonical significand shift) :=
  inferInstanceAs (Decidable (_ ∧ _ ∧ _))

/-- A number of the format, an infinity, or no number at all. -/
inductive Binary64
  | nan
  | infinite (negative : Bool)
  | finite (negative : Bool) (significand shift : Nat)
      (canonical : Binary64.IsCanonical significand shift)
  deriving DecidableEq

namespace Binary64

/-- How many units there are in one. -/
def unitsPerOne : Nat :=
  Nat.pow 2 1074

/-- The zero with the given sign. -/
def zero (negative : Bool) : Binary64 :=
  .finite negative 0 0 (by decide)

/-- The number with the given significand and shift, or an infinity when it is out of range. -/
def ofParts (negative : Bool) (significand shift : Nat) : Binary64 :=
  if canonical : IsCanonical significand shift then .finite negative significand shift canonical
  else .infinite negative

/-- The number nearest to a quotient, counted in units. -/
def ofUnits (negative : Bool) (num den : Nat) : Binary64 :=
  let shift := if num / den = 0 then 0 else (num / den).log2 - 52
  let significand := Number.roundHalfEven num (den * Nat.pow 2 shift)
  if significand = Nat.pow 2 53 then ofParts negative (Nat.pow 2 52) (shift + 1)
  else ofParts negative significand shift

/-- The number nearest to a quotient. -/
def ofQuotient (negative : Bool) (num den : Nat) : Binary64 :=
  ofUnits negative (num * unitsPerOne) den

/-- The number nearest to a decimal, whose digits are followed by `exponent` zeros, or have a point
before the last `-exponent` of them. Decimals far out of range are not written out. -/
def ofDecimal (negative : Bool) (digits : Nat) (exponent : Int) : Binary64 :=
  let length : Int := (Nat.toDigits 10 digits).length
  if digits = 0 then zero negative
  else if 400 < exponent + length then .infinite negative
  else if exponent + length < -400 then zero negative
  else if 0 ≤ exponent then ofQuotient negative (digits * Nat.pow 10 exponent.toNat) 1
  else ofQuotient negative digits (Nat.pow 10 (-exponent).toNat)

/-- The number nearest to a whole number. -/
def ofInt (n : Int) : Binary64 :=
  ofQuotient (n < 0) n.natAbs 1

/-- The distance from zero in units; `none` for what is not finite. -/
def magnitude? : Binary64 → Option Nat
  | .finite _ significand shift _ => some (significand * Nat.pow 2 shift)
  | _ => none

/-- The sign. -/
def isNegative : Binary64 → Bool
  | .nan => false
  | .infinite negative => negative
  | .finite negative _ _ _ => negative

/-- The position on the number line in units; `none` for what is not finite. -/
def units? : Binary64 → Option Int
  | .finite negative significand shift _ =>
    let distance : Nat := significand * Nat.pow 2 shift
    some (if negative then -(distance : Int) else distance)
  | _ => none

/-- Whether the number is zero, of either sign. -/
def isZero (x : Binary64) : Bool :=
  x.magnitude? == some 0

/-- The same number on the other side of zero. -/
def neg : Binary64 → Binary64
  | .nan => .nan
  | .infinite negative => .infinite (!negative)
  | .finite negative significand shift canonical => .finite (!negative) significand shift canonical

/-- The sum. Two zeros that are both negative add up to a negative zero. -/
def add (x y : Binary64) : Binary64 :=
  match x, y with
  | .nan, _ => .nan
  | _, .nan => .nan
  | .infinite a, .infinite b => if a == b then .infinite a else .nan
  | .infinite a, _ => .infinite a
  | _, .infinite b => .infinite b
  | x, y =>
    let sum := x.units?.getD 0 + y.units?.getD 0
    if sum = 0 then zero (x.isNegative && y.isNegative && x.isZero && y.isZero)
    else ofUnits (sum < 0) sum.natAbs 1

/-- The difference. -/
def sub (x y : Binary64) : Binary64 :=
  x.add y.neg

/-- The product. -/
def mul (x y : Binary64) : Binary64 :=
  let negative := x.isNegative != y.isNegative
  match x, y with
  | .nan, _ => .nan
  | _, .nan => .nan
  | .infinite _, y => if y.isZero then .nan else .infinite negative
  | x, .infinite _ => if x.isZero then .nan else .infinite negative
  | x, y => ofUnits negative (x.magnitude?.getD 0 * y.magnitude?.getD 0) unitsPerOne

/-- Keep `places` decimals, a number half-way going to the even neighbour. -/
def roundTo (places : Nat) : Binary64 → Binary64
  | .finite negative significand shift _ =>
    let kept := Number.roundHalfEven (significand * Nat.pow 2 shift * Nat.pow 10 places) unitsPerOne
    ofQuotient negative kept (Nat.pow 10 places)
  | x => x

/-- Whether `x` comes before `y` on the number line. -/
def blt (x y : Binary64) : Bool :=
  match x, y with
  | .nan, _ => false
  | _, .nan => false
  | .infinite a, .infinite b => a && !b
  | .infinite a, _ => a
  | _, .infinite b => !b
  | x, y => x.units?.getD 0 < y.units?.getD 0

/-- Whether `x` and `y` are the same number; both zeros are, and what is no number is not. -/
def same (x y : Binary64) : Bool :=
  match x, y with
  | .nan, _ => false
  | .infinite a, .infinite b => a == b
  | x, y => x.units?.isSome && x.units? == y.units?

/-- Whether the whole number `n` is the number `x`. -/
def sameInt (n : Int) (x : Binary64) : Bool :=
  x.units? == some (n * unitsPerOne)

/-- Whether the whole number `n` comes before `x`. -/
def intBlt (n : Int) (x : Binary64) : Bool :=
  match x with
  | .nan => false
  | .infinite negative => !negative
  | x => n * unitsPerOne < x.units?.getD 0

/-- Whether `x` comes before the whole number `n`. -/
def bltInt (x : Binary64) (n : Int) : Bool :=
  match x with
  | .nan => false
  | .infinite negative => negative
  | x => x.units?.getD 0 < n * unitsPerOne

end Binary64

end Tabstave
