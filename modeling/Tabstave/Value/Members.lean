import Tabstave.Value.Hash

/-!
# The members of a set

A set holds its members in a table of slots, a power of two many. The hash of a member says at which
slot to look first; if that one is taken, the nine slots after it are looked at, and then the search
goes on elsewhere, led by the other bits of the hash. When three slots of five are taken, the members
move to a larger table in the order in which they stood. Going through a set is going through its
slots.

`Value.setOf` is the set of members that come one after the other, and `Value.setOfKeys` that of the
keys of a dictionary, for which there is room from the start. When the hash of a member cannot be
told, neither can the order, and the members stay in the order in which they came.
-/

namespace Tabstave

/-- The table of a set: for each slot the member in it and its hash. -/
abbrev MemberTable :=
  Array (Option (Hash × Value))

namespace MemberTable

/-- A table of free slots: the least power of two that is more than `count`, and eight at least. -/
def free (count : Nat) : MemberTable :=
  .replicate (if count < 8 then 8 else Nat.pow 2 (count.log2 + 1)) none

/-- The first free slot of so many, starting with the slot `i`. -/
def freeFrom (table : MemberTable) (i : Nat) : Nat → Option Nat
  | 0 => none
  | count + 1 => if (table.getD i none).isNone then some i else freeFrom table (i + 1) count

/-- The free slot that a search from the slot `i` ends at. -/
def freeSlot (table : MemberTable) (i perturbation : Nat) : Nat → Option Nat
  | 0 => none
  | fuel + 1 =>
    match table.freeFrom i (if i + 9 < table.size then 10 else 1) with
    | some slot => some slot
    | none =>
      let perturbation := perturbation / 32
      table.freeSlot ((i * 5 + 1 + perturbation) % table.size) perturbation fuel

/-- Put a member into its slot. The bits of the hash are used up after thirteen steps, and the steps
after that come to every slot. -/
def place (table : MemberTable) (entry : Hash × Value) : MemberTable :=
  let hash := entry.1.toNat
  match table.freeSlot (hash % table.size) hash (table.size + 14) with
  | some slot => table.setIfInBounds slot (some entry)
  | none => table

/-- The members in the order of their slots. -/
def entries (table : MemberTable) : List (Hash × Value) :=
  table.toList.filterMap id

/-- Move the members to a table with more than `count` slots. -/
def grown (table : MemberTable) (count : Nat) : MemberTable :=
  table.entries.foldl place (free count)

/-- Put in a new member, and move to a larger table if too few slots are left. -/
def insert (table : MemberTable) (entry : Hash × Value) : MemberTable :=
  let table := table.place entry
  let count := table.entries.length
  if count * 5 < (table.size - 1) * 3 then table
  else table.grown (if 50000 < count then count * 2 else count * 4)

end MemberTable

namespace Value

/-- The values without those that are the same as one before them. -/
def distinct (members : List Value) : List Value :=
  (members.foldl (fun seen member ↦ if seen.any (·.same member) then seen else member :: seen)
    []).reverse

/-- The members in the order in which a table has them that starts with so many slots. -/
def arranged (table : MemberTable) (members : List Value) : List Value :=
  match members.mapM fun member ↦ (hash? member).map (·, member) with
  | some entries => (entries.foldl MemberTable.insert table).entries.map Prod.snd
  | none => members

/-- The set of members that come one after the other. -/
def setOf (members : List Value) : Value :=
  .set (arranged (.free 0) (distinct members))

/-- The set of the keys of a dictionary. -/
def setOfKeys (keys : List Value) : Value :=
  .set (arranged (.free (if keys.length * 5 < 21 then 0 else keys.length * 2)) keys)

end Value

end Tabstave
