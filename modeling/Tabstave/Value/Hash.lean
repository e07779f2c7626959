import Tabstave.Value.Same

/-!
# Hashes of values

The members of a set stand in the order of the table that holds them, and the table finds a place
for a member by its hash, a number of 64 bits. Values that are the same have the same hash: a number
is hashed by what it is worth, as its remainder modulo the prime number 2⁶¹ - 1, and a tuple by the
hashes of its items.

Not every value has a hash that can be told in advance: that of a text, of a path or of nothing
changes from run to run.
-/

namespace Tabstave

/-- The hash of a value: a whole number of 64 bits. -/
abbrev Hash :=
  UInt64

namespace Hash

/-- The prime number by which numbers are reduced. -/
def modulus : Nat :=
  Nat.pow 2 61 - 1

/-- The hash of a reduced number. The hash with all bits set says that there is none, so the number
that would have it takes the one before. -/
def signed (negative : Bool) (reduced : Nat) : Hash :=
  if !negative then .ofNat reduced
  else if reduced = 1 then .ofNat (Nat.pow 2 64 - 2)
  else .ofNat (Nat.pow 2 64 - reduced)

/-- The hash of a whole number. -/
def ofInt (n : Int) : Hash :=
  signed (n < 0) (n.natAbs % modulus)

/-- The hash of a binary number, which is that of the whole number if it is one. Multiplying by 2²⁴
is dividing by 2¹⁰⁷⁴, as the exponents differ by a multiple of 61. What is no number has no hash. -/
def ofBinary64? : Binary64 → Option Hash
  | .nan => none
  | .infinite negative => some (signed negative 314159)
  | .finite negative significand shift _ =>
    some (signed negative (significand * Nat.pow 2 shift * Nat.pow 2 24 % modulus))

/-- The hash of no items. -/
def seed : Hash :=
  2870177450012600261

/-- Mix the hash of an item into that of the items before it. -/
def mix (sum item : Hash) : Hash :=
  let sum := sum + item * 14029467366897019727
  ((sum <<< 31) ||| (sum >>> 33)) * 11400714785074694791

/-- The hash of so many items that were mixed. -/
def sealed (count : Nat) (sum : Hash) : Hash :=
  let sum := sum + (.ofNat count ^^^ (seed ^^^ 3527539))
  if sum = .ofNat (Nat.pow 2 64 - 1) then 1546275796 else sum

end Hash

namespace Value

mutual

/-- The hash of a value, if it is the same in every run. -/
def hash? : Value → Option Hash
  | .bool b => some (if b then 1 else 0)
  | .int n => some (Hash.ofInt n)
  | .float x => Hash.ofBinary64? x
  | .str s => if s.isEmpty then some 0 else none
  | .bytes bs => if bs.isEmpty then some 0 else none
  | .tuple items => (mixItems Hash.seed items).map (Hash.sealed items.length)
  | .cursor line column => do
    return Hash.sealed 2 (Hash.mix (Hash.mix Hash.seed (← hash? line)) (← hash? column))
  | _ => none
termination_by structural x => x

/-- Mix the hashes of items into a hash. -/
def mixItems (sum : Hash) : List Value → Option Hash
  | [] => some sum
  | item :: rest => do mixItems (Hash.mix sum (← hash? item)) rest
termination_by structural items => items

end

end Value

end Tabstave
