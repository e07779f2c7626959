/-!
# Merging two ordered runs

`merge` puts two neighbouring runs into one. What is before what is asked of a test that may fail,
and that may contradict itself, so the result is fixed by the questions asked, and they come in this
order.

Items are first compared one by one. When one run has won `pace` times in a row, it is taken by
whole stretches: `stretch` finds how many items go by steps that double, and by halving the last of
them. When both stretches have become short, items are compared one by one again. The pace falls by
one for each round of stretches and rises by one when they stop to pay; it is carried from one merge
to the next.

A merge begins at the side of the shorter run, the first run from the `low` end or the second from
the `high` end, and works on both runs from that end. The shorter run is never used up before the
longer one: it keeps its last item back, which is known to belong at the far end.
-/

namespace Tabstave.Sorting

/-- The end from which runs are gone through. -/
inductive Side
  | low
  | high
deriving DecidableEq

/-- The place asked next, of the places from `start` to before `stop`, counted from this end. Of two
places in the middle it is the higher one of the runs as they stand. -/
def Side.middle (side : Side) (start stop : Nat) : Nat :=
  match side with
  | .low => start + (stop - start) / 2
  | .high => stop - 1 - (stop - start) / 2

theorem Side.le_middle {start stop : Nat} (side : Side) (h : start < stop) :
    start ≤ side.middle start stop := by
  cases side <;> simp only [Side.middle] <;> omega

theorem Side.middle_lt {start stop : Nat} (side : Side) (h : start < stop) :
    side.middle start stop < stop := by
  cases side <;> simp only [Side.middle] <;> omega

variable {α ε : Type}

/-- The end of a stretch that covers the places before `start` and none from `stop` on, by halving.
-/
def halve (side : Side) (goes : α → Except ε Bool) (run : List α) (start stop : Nat) :
    Except ε Nat := do
  if _h : start < stop then
    match run[side.middle start stop]? with
    | some item =>
      if ← goes item then halve side goes run (side.middle start stop + 1) stop
      else halve side goes run start (side.middle start stop)
    | none => return start
  else return start
termination_by stop - start
decreasing_by
  · have := side.middle_lt _h; have := side.le_middle _h; omega
  · have := side.middle_lt _h; omega

/-- The last place known to belong to a stretch and the first one that may be beyond it, by steps
that double: the places 1, 3, 7 and so on are asked. -/
def stride (goes : α → Except ε Bool) (run : List α) (last next : Nat) : Except ε (Nat × Nat) := do
  if _h : next < run.length then
    if ← goes run[next] then stride goes run next (2 * next + 1) else return (last, next)
  else return (last, run.length)
termination_by run.length - next

/-- How many items at the start of a run go. -/
def stretch (side : Side) (goes : α → Except ε Bool) (run : List α) : Except ε Nat := do
  match run with
  | [] => return 0
  | item :: _ =>
    if ← goes item then
      let (last, next) ← stride goes run 0 1
      halve side goes run (last + 1) next
    else return 0

/-- The stretch that makes it worth while to go on by stretches. -/
def longStretch : Nat := 7

/-- Whether a merge is over: the longer run is used up, or no more than the last item of the shorter
one is left. -/
def isOver (side : Side) (first second : List α) : Bool :=
  match side with
  | .low => first.length ≤ 1 || second.isEmpty
  | .high => second.length ≤ 1 || first.isEmpty

/-- The merged run of what is taken already, last item first, and of what is left of the two runs.
-/
def conclude (side : Side) (taken first second : List α) : List α :=
  match side with
  | .low => taken.reverse ++ second ++ first
  | .high => (first ++ second).reverse ++ taken

mutual

/-- Merge by comparing items one by one. `firstWins` and `secondWins` count the items that were last
taken in a row from the one run and from the other. -/
def mergeSingly (less : α → α → Except ε Bool) (side : Side) (pace firstWins secondWins : Nat)
    (taken first second : List α) : Except ε (List α × Nat) := do
  match first, second with
  | x :: first', y :: second' =>
    if (← less y x) == (side == .low) then
      if isOver side (x :: first') second' then
        return (conclude side (y :: taken) (x :: first') second', pace)
      else if secondWins + 1 ≥ pace then
        mergeStretches less side pace (y :: taken) (x :: first') second'
      else mergeSingly less side pace 0 (secondWins + 1) (y :: taken) (x :: first') second'
    else
      if isOver side first' (y :: second') then
        return (conclude side (x :: taken) first' (y :: second'), pace)
      else if firstWins + 1 ≥ pace then
        mergeStretches less side pace (x :: taken) first' (y :: second')
      else mergeSingly less side pace (firstWins + 1) 0 (x :: taken) first' (y :: second')
  | _, _ => return (conclude side taken first second, pace)
termination_by first.length + second.length
decreasing_by all_goals simp only [List.length_cons]; omega

/-- Merge by stretches: what goes of the first run, an item of the second, what goes of the second
run and an item of the first. -/
def mergeStretches (less : α → α → Except ε Bool) (side : Side) (pace : Nat)
    (taken first second : List α) : Except ε (List α × Nat) := do
  match second with
  | y :: second' =>
    let i ← stretch side (fun x ↦ (· != (side == .low)) <$> less y x) first
    let taken := (first.take i).reverse ++ taken
    let first' := first.drop i
    if i > 0 && isOver side first' (y :: second') then
      return (conclude side taken first' (y :: second'), pace)
    else
      let taken := y :: taken
      if isOver side first' second' then return (conclude side taken first' second', pace)
      else
        match h : first' with
        | x :: first'' =>
          let j ← stretch side (fun y ↦ (· == (side == .low)) <$> less y x) second'
          let taken := (second'.take j).reverse ++ taken
          let second'' := second'.drop j
          if j > 0 && isOver side (x :: first'') second'' then
            return (conclude side taken (x :: first'') second'', pace)
          else
            let taken := x :: taken
            if isOver side first'' second'' then
              return (conclude side taken first'' second'', pace)
            else if i ≥ longStretch || j ≥ longStretch then
              mergeStretches less side (if pace > 1 then pace - 1 else pace) taken first'' second''
            else mergeSingly less side (pace + 1) 0 0 taken first'' second''
        | [] => return (conclude side taken [] second', pace)
  | [] => return (conclude side taken first [], pace)
termination_by first.length + second.length
decreasing_by
  all_goals
    have := congrArg List.length h
    simp only [first', second'', List.length_drop, List.length_cons] at *
    omega

end

/-- Merge two runs, of which the first item of the second belongs before the first item of the first
and the last item of the first belongs after the last item of the second. -/
def mergeOverlap (less : α → α → Except ε Bool) (pace : Nat) (first second : List α) :
    Except ε (List α × Nat) :=
  if first.length ≤ second.length then
    start .low first second
  else start .high first.reverse second.reverse
where
  /-- Take the item that is known to come next, and go on one by one. -/
  start (side : Side) (first second : List α) : Except ε (List α × Nat) :=
    match side, first, second with
    | .low, _, y :: second' =>
      if isOver side first second' then .ok (conclude side [y] first second', pace)
      else mergeSingly less side pace 0 0 [y] first second'
    | .high, x :: first', _ =>
      if isOver side first' second then .ok (conclude side [x] first' second, pace)
      else mergeSingly less side pace 0 0 [x] first' second
    | _, _, _ => .ok (conclude side [] first second, pace)

/-- Merge two ordered runs that follow each other. The items of the first that belong before the
whole second run, and those of the second that belong after the whole first, stay where they are.
The result is the run and the pace to go on with. -/
def merge (less : α → α → Except ε Bool) (pace : Nat) (first second : List α) :
    Except ε (List α × Nat) := do
  let some y := second.head? | return (first, pace)
  let i ← stretch .low (fun x ↦ (!·) <$> less y x) first
  let rest := first.drop i
  let some x := rest.getLast? | return (first ++ second, pace)
  let j ← stretch .high (fun y ↦ (!·) <$> less y x) second.reverse
  if j = second.length then return (first ++ second, pace)
  else
    let k := second.length - j
    let (run, pace) ← mergeOverlap less pace rest (second.take k)
    return (first.take i ++ run ++ second.drop k, pace)

end Tabstave.Sorting
