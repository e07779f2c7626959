import Tabstave.Sorting.Merge

/-!
# Sorting by a test that may fail

`sort` arranges a list by a test of which item is less. The test may fail, and it may contradict
itself, as it does for numbers that are no numbers; so the result is fixed by the questions asked.

The list is cut into runs that are in order already. A run of items that descend strictly is turned
round, and a run that is too short is filled up: each next item is put in its place by halving,
after the items that it is not less than. As a run is found, the runs before it are merged as long
as their border lies deeper than the new one, where the depth of a border says how often the list
has to be halved until a cut falls between the middles of the two runs. What is left is merged from
the end.
-/

namespace Tabstave.Sorting

variable {α ε : Type}

/-- The longest run that goes on from `last`: each next item for which `continues` holds of it and
the item before it. -/
def takeRun (continues : α → α → Except ε Bool) (last : α) : List α → Except ε (List α × List α)
  | [] => .ok ([], [])
  | x :: rest => do
    if ← continues x last then
      let (run, rest) ← takeRun continues x rest
      return (x :: run, rest)
    else return ([], x :: rest)

/-- The run at the start of a list, put in ascending order, and the rest. -/
def firstRun (less : α → α → Except ε Bool) : List α → Except ε (List α × List α)
  | [] => .ok ([], [])
  | [x] => .ok ([x], [])
  | x :: y :: rest => do
    if ← less y x then
      let (run, rest) ← takeRun less y rest
      return ((x :: y :: run).reverse, rest)
    else
      let (run, rest) ← takeRun (fun a b ↦ (!·) <$> less a b) y rest
      return (x :: y :: run, rest)

/-- Put an item into an ordered list, after the items that it is not less than. -/
def insert (less : α → α → Except ε Bool) (sorted : List α) (item : α) : Except ε (List α) := do
  let k ← halve .low (fun x ↦ (!·) <$> less item x) sorted 0 sorted.length
  return sorted.take k ++ item :: sorted.drop k

/-- The least length of a run in a list of so many items: the number itself below 64, and else its
first six binary digits, rounded up. -/
def leastRun (n : Nat) : Nat :=
  if n < 64 then n else shift 0 n
where
  /-- Halve a number until it is below 64, and add one if any digit was lost. -/
  shift (lost n : Nat) : Nat :=
    if n < 64 then n + lost else shift (max lost (n % 2)) (n / 2)
  termination_by n

/-- A run that waits to be merged, where it starts, and how deep the border after it lies. -/
structure Run (α : Type) where
  /-- The place of the first item in the whole list. -/
  start : Nat
  items : List α
  /-- The depth of the border between this run and the next one. -/
  depth : Nat := 0

/-- How often a list of `size` items has to be halved until a cut falls between two places, which
are given doubled: the first place where the binary digits of `low / size` and `high / size` differ.
-/
def borderDepth (size low high : Nat) : Nat :=
  search size low high
where
  /-- Go on for as many digits as may be equal. -/
  search : Nat → Nat → Nat → Nat
    | 0, _, _ => 1
    | fuel + 1, low, high =>
      if low ≥ size then 1 + search fuel (2 * (low - size)) (2 * (high - size))
      else if high ≥ size then 1
      else 1 + search fuel (2 * low) (2 * high)

/-- Merge the runs that wait, the last one first, while the border before the last run lies deeper
than `depth`. -/
def mergeDeeper (less : α → α → Except ε Bool) (depth pace : Nat) :
    List (Run α) → Except ε (List (Run α) × Nat)
  | last :: before :: runs => do
    if before.depth > depth then
      let (items, pace) ← merge less pace before.items last.items
      mergeDeeper less depth pace ({ before with items } :: runs)
    else return (last :: before :: runs, pace)
  | runs => return (runs, pace)
termination_by runs => runs.length

/-- Merge all runs that wait, from the last one, the shorter of two neighbours first. -/
def mergeAll (less : α → α → Except ε Bool) (pace : Nat) : List (Run α) → Except ε (List α)
  | last :: before :: first :: runs => do
    if first.items.length < last.items.length then
      let (items, pace) ← merge less pace first.items before.items
      mergeAll less pace (last :: { first with items } :: runs)
    else
      let (items, pace) ← merge less pace before.items last.items
      mergeAll less pace ({ before with items } :: first :: runs)
  | [last, before] => Prod.fst <$> merge less pace before.items last.items
  | [last] => return last.items
  | [] => return []
termination_by runs => runs.length

/-- Cut what is left of a list into runs of at least `least` items, and merge those that are due. -/
def collect (less : α → α → Except ε Bool) (size least : Nat) :
    Nat → Nat → List (Run α) → List α → Except ε (List α)
  | 0, pace, runs, _ => mergeAll less pace runs
  | _ + 1, pace, runs, [] => mergeAll less pace runs
  | fuel + 1, pace, runs, items => do
    let (run, rest) ← firstRun less items
    let missing := least - run.length
    let run ← (rest.take missing).foldlM (insert less) run
    let rest := rest.drop missing
    match runs with
    | [] => collect less size least fuel pace [{ start := 0, items := run }] rest
    | last :: _ =>
      let middle := 2 * last.start + last.items.length
      let depth := borderDepth size middle (middle + last.items.length + run.length)
      let (runs, pace) ← mergeDeeper less depth pace runs
      let runs := match runs with
        | last :: before => { last with depth } :: before
        | [] => []
      let start := size - (run.length + rest.length)
      collect less size least fuel pace ({ start, items := run } :: runs) rest

/-- Arrange a list in order. -/
def sort (less : α → α → Except ε Bool) (items : List α) : Except ε (List α) :=
  collect less items.length (leastRun items.length) items.length longStretch [] items

end Tabstave.Sorting
