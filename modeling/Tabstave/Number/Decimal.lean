import Tabstave.Number.Binary64

/-!
# Decimal text of binary numbers

`Binary64.shortest` finds the fewest decimal digits that still read back as the number. For one,
two, … seventeen digits it looks at the two neighbours of the number on the grid of decimals with
that many digits; the first grid on which one of them reads back wins, and of two that do the nearer
one, the even one if they are equally near. Should no grid do, the exact expansion is used, which
always reads back.

`Binary64.text` lays the digits out: positional from 10⁻⁴ up to 10¹⁶, with at least one digit after
the point, and with an exponent of at least two digits elsewhere.
-/

namespace Tabstave

/-- The number `0.d₁d₂… · 10 ^ point`, for the decimal digits `d₁d₂…` of `digits`. -/
structure Decimal where
  digits : Nat
  point : Int
  deriving DecidableEq, Repr

namespace Number

/-- The decimal digits of a natural number. -/
def digitsOf (n : Nat) : List Char :=
  Nat.toDigits 10 n

/-- The least exponent `k` for which `10 ^ k` exceeds the quotient `num / den`, for a positive
quotient. -/
def decimalPoint (num den : Nat) : Int :=
  if den ≤ num then (digitsOf (num / den)).length
  else Int.negOfNat (((List.range 400).find? fun k ↦ den ≤ num * Nat.pow 10 (k + 1)).getD 0)

/-- Drop the zeros at the end of a positive number. -/
def dropTrailingZeros (fuel n : Nat) : Nat :=
  match fuel with
  | 0 => n
  | fuel + 1 => if n % 10 = 0 then dropTrailingZeros fuel (n / 10) else n

end Number

namespace Binary64

/-- The positive number nearest to a decimal. -/
def ofDigits (decimal : Decimal) : Binary64 :=
  ofDecimal false decimal.digits (decimal.point - (Number.digitsOf decimal.digits).length)

/-- The neighbour of a quotient on the grid of decimals with `count` digits that reads back as
`target`, the nearer one where both do. -/
def neighbour? (target : Binary64) (num den : Nat) (point : Int) (count : Nat) : Option Decimal :=
  let scale : Int := count - point
  let (num, den) :=
    if 0 ≤ scale then (num * Nat.pow 10 scale.toNat, den)
    else (num, den * Nat.pow 10 (-scale).toNat)
  let low := num / den
  let onGrid (digits : Nat) : Decimal :=
    ⟨digits, if digits = Nat.pow 10 count then point + 1 else point⟩
  let below := low != 0 && ofDigits (onGrid low) = target
  let above := ofDigits (onGrid (low + 1)) = target
  if below && above then some (onGrid (Number.roundHalfEven num den))
  else if below then some (onGrid low)
  else if above then some (onGrid (low + 1))
  else none

/-- The fewest digits that read back as the positive number of `magnitude` units. -/
def shortest (magnitude : Nat) : Decimal :=
  let target := ofUnits false magnitude 1
  let point := Number.decimalPoint magnitude unitsPerOne
  match (List.range 17).findSome? fun k ↦ neighbour? target magnitude unitsPerOne point (k + 1) with
  | some decimal => ⟨Number.dropTrailingZeros 20 decimal.digits, decimal.point⟩
  | none =>
    let exact := magnitude * Nat.pow 5 1074
    ⟨exact, (Number.digitsOf exact).length - 1074⟩

/-- Lay out decimal digits in positional notation. -/
def positional (digits : List Char) (point : Int) : List Char :=
  if point ≤ 0 then "0.".toList ++ List.replicate (-point).toNat '0' ++ digits
  else
    let whole := digits.take point.toNat
    let fraction := digits.drop point.toNat
    whole ++ List.replicate (point.toNat - whole.length) '0' ++ '.' ::
      (if fraction.isEmpty then ['0'] else fraction)

/-- Lay out decimal digits with an exponent. -/
def scientific (digits : List Char) (point : Int) : List Char :=
  let exponent := point - 1
  let size := Number.digitsOf exponent.natAbs
  let lead := match digits with
    | [] => []
    | [d] => [d]
    | d :: rest => d :: '.' :: rest
  lead ++ 'e' :: (if exponent < 0 then '-' else '+') :: List.replicate (2 - size.length) '0' ++ size

/-- The text of a decimal. -/
def layOut (decimal : Decimal) : List Char :=
  let digits := Number.digitsOf decimal.digits
  if -4 < decimal.point && decimal.point ≤ 16 then positional digits decimal.point
  else scientific digits decimal.point

/-- A minus sign for a negative number. -/
def signText (negative : Bool) : List Char :=
  if negative then ['-'] else []

/-- The text of a number: the fewest digits that read back. -/
def text : Binary64 → List Char
  | .nan => "nan".toList
  | .infinite negative => signText negative ++ "inf".toList
  | .finite negative significand shift _ =>
    signText negative ++
      (if significand = 0 then "0.0".toList else layOut (shortest (significand * Nat.pow 2 shift)))

/-- The text of a number with exactly `places` decimals. -/
def fixedText (places : Nat) : Binary64 → List Char
  | .nan => "nan".toList
  | .infinite negative => signText negative ++ "inf".toList
  | .finite negative significand shift _ =>
    let kept := Number.roundHalfEven (significand * Nat.pow 2 shift * Nat.pow 10 places) unitsPerOne
    let fraction := Number.digitsOf (kept % Nat.pow 10 places)
    signText negative ++ Number.digitsOf (kept / Nat.pow 10 places) ++ '.' ::
      List.replicate (places - fraction.length) '0' ++ fraction

end Binary64

end Tabstave
