import Mathlib.Algebra.Order.Group.Multiset
import Mathlib.Tactic.Abel
import Tabstave.Sorting.Basic

/-!
# Sorting loses nothing

Whatever the test answers, a sorted list has the items that it had before, and where the test never
fails on these items, neither does sorting. Both come from the same walk through the runs and their
merges, so they are proved as one: `Yields` says of a computation that it does not fail and what its
result is like.

Where a stretch ends, which side a merge begins at and how long it goes one by one are of no
concern: an item that is taken is taken off the front of a run, and what is taken and what is left
make up the same `bag` as before. That equation also hands on, from step to step, that all items are
among those that the test can tell apart.
-/

namespace Tabstave

variable {α β ε : Type}

/-- A computation does not fail, and its result has a property. -/
def Yields (result : Except ε α) (Q : α → Prop) : Prop :=
  ∃ a, result = .ok a ∧ Q a

namespace Yields

theorem pure {a : α} {Q : α → Prop} (h : Q a) : Yields (Pure.pure a : Except ε α) Q :=
  ⟨a, rfl, h⟩

theorem bind {result : Except ε α} {next : α → Except ε β} {Q : α → Prop} {R : β → Prop}
    (h : Yields result Q) (later : ∀ a, Q a → Yields (next a) R) : Yields (result >>= next) R := by
  obtain ⟨a, rfl, ha⟩ := h
  exact later a ha

theorem map {result : Except ε α} {f : α → β} {Q : α → Prop} {R : β → Prop}
    (h : Yields result Q) (later : ∀ a, Q a → R (f a)) : Yields (f <$> result) R := by
  obtain ⟨a, rfl, ha⟩ := h
  exact ⟨f a, rfl, later a ha⟩

theorem imp {result : Except ε α} {Q R : α → Prop} (h : Yields result Q) (weaker : ∀ a, Q a → R a) :
    Yields result R := by
  obtain ⟨a, rfl, ha⟩ := h
  exact ⟨a, rfl, weaker a ha⟩

end Yields

namespace Sorting

/-- A test gives an answer for every item of a kind. -/
def Answers (P : α → Prop) (goes : α → Except ε Bool) : Prop :=
  ∀ a, P a → Yields (goes a) fun _ ↦ True

theorem Answers.map {P : α → Prop} {goes : α → Except ε Bool} (h : Answers P goes)
    (f : Bool → Bool) : Answers P fun a ↦ f <$> goes a :=
  fun a ha ↦ (h a ha).map fun _ _ ↦ trivial

/-! ### Stretches -/

section Stretch

variable {P : α → Prop} {goes : α → Except ε Bool} (answers : Answers P goes)

include answers

theorem yields_halve (side : Side) {run : List α} (inside : ∀ a ∈ run, P a) (start stop : Nat) :
    Yields (halve side goes run start stop) fun _ ↦ True := by
  induction size : stop - start using Nat.strongRecOn generalizing start stop with
  | _ size ih =>
    rw [halve]
    split
    · next some_place =>
      have low := side.le_middle some_place
      have high := side.middle_lt some_place
      split
      · next item found =>
        refine (answers item (inside item (List.mem_of_getElem? found))).bind fun b _ ↦ ?_
        split
        · exact ih _ (by omega) _ _ rfl
        · exact ih _ (by omega) _ _ rfl
      · exact .pure trivial
    · exact .pure trivial

theorem yields_stride {run : List α} (inside : ∀ a ∈ run, P a) (last next : Nat) :
    Yields (stride goes run last next) fun _ ↦ True := by
  induction size : run.length - next using Nat.strongRecOn generalizing last next with
  | _ size ih =>
    rw [stride]
    split
    · refine (answers _ (inside _ (List.getElem_mem _))).bind fun b _ ↦ ?_
      split
      · exact ih _ (by omega) _ _ rfl
      · exact .pure trivial
    · exact .pure trivial

theorem yields_stretch (side : Side) {run : List α} (inside : ∀ a ∈ run, P a) :
    Yields (stretch side goes run) fun _ ↦ True := by
  rw [stretch.eq_def]
  split
  · exact .pure trivial
  · next item _ =>
    refine (answers item (inside item List.mem_cons_self)).bind fun b _ ↦ ?_
    split
    · exact (yields_stride answers inside 0 1).bind fun _ _ ↦ yields_halve answers side inside _ _
    · exact .pure trivial

end Stretch

/-- A run is the front of what it is taken from. -/
theorem yields_takeRun {P : α → Prop} {continues : α → α → Except ε Bool}
    (answers : ∀ a, P a → Answers P (continues a)) {last : α} (lastIn : P last) {items : List α}
    (inside : ∀ a ∈ items, P a) :
    Yields (takeRun continues last items) fun result ↦ result.1 ++ result.2 = items := by
  induction items generalizing last with
  | nil => exact .pure rfl
  | cons x rest ih =>
    have first := inside x List.mem_cons_self
    rw [takeRun]
    refine (answers x first last lastIn).bind fun b _ ↦ ?_
    split
    · refine (ih first fun a mem ↦ inside a (List.mem_cons_of_mem x mem)).bind fun result same ↦ ?_
      exact .pure (congrArg (x :: ·) same)
    · exact .pure rfl

/-! ### Bags -/

/-- What a list holds, in whatever order. -/
abbrev bag (items : List α) : Multiset α :=
  items

theorem bag_append (first second : List α) : bag (first ++ second) = bag first + bag second :=
  (Multiset.coe_add first second).symm

theorem bag_cons (item : α) (items : List α) : bag (item :: items) = {item} + bag items :=
  (Multiset.cons_coe item items).symm.trans (Multiset.singleton_add item items).symm

theorem bag_reverse (items : List α) : bag items.reverse = bag items :=
  Multiset.coe_reverse items

theorem bag_take_add_drop (count : Nat) (items : List α) :
    bag (items.take count) + bag (items.drop count) = bag items := by
  rw [← bag_append, List.take_append_drop]

/-- What is taken and what is left are put together. -/
theorem bag_conclude (side : Side) (taken first second : List α) :
    bag (conclude side taken first second) = bag taken + (bag first + bag second) := by
  cases side with
  | low =>
    rw [conclude, bag_append, bag_append, bag_reverse]
    abel
  | high =>
    rw [conclude, bag_append, bag_reverse, bag_append]
    abel

/-- Taking an item off the first run. -/
theorem bag_take_first (x : α) (taken first second : List α) :
    bag (x :: taken) + (bag first + bag second) = bag taken + (bag (x :: first) + bag second) := by
  rw [bag_cons, bag_cons x first]
  abel

/-- Taking an item off the second run. -/
theorem bag_take_second (y : α) (taken first second : List α) :
    bag (y :: taken) + (bag first + bag second) = bag taken + (bag first + bag (y :: second)) := by
  rw [bag_cons, bag_cons y second]
  abel

/-- Taking a stretch off the first run. -/
theorem bag_stretch_first (count : Nat) (taken first second : List α) :
    bag ((first.take count).reverse ++ taken) + (bag (first.drop count) + bag second) =
      bag taken + (bag first + bag second) := by
  rw [bag_append, bag_reverse, ← bag_take_add_drop count first]
  abel

/-- Taking a stretch off the second run. -/
theorem bag_stretch_second (count : Nat) (taken first second : List α) :
    bag ((second.take count).reverse ++ taken) + (bag first + bag (second.drop count)) =
      bag taken + (bag first + bag second) := by
  rw [bag_append, bag_reverse, ← bag_take_add_drop count second]
  abel

/-- What the runs hold that wait to be merged. -/
def bagOfRuns (runs : List (Run α)) : Multiset α :=
  (runs.map fun run ↦ bag run.items).sum

theorem bagOfRuns_nil : bagOfRuns ([] : List (Run α)) = 0 :=
  rfl

theorem bagOfRuns_cons (run : Run α) (runs : List (Run α)) :
    bagOfRuns (run :: runs) = bag run.items + bagOfRuns runs := by
  rw [bagOfRuns, List.map_cons, List.sum_cons, bagOfRuns]

/-! ### Merging -/

section Merge

variable {P : α → Prop} {less : α → α → Except ε Bool} (answers : ∀ a, P a → Answers P (less a))

include answers

omit answers in
variable (P less) in
/-- One by one or by stretches, what is taken and what is left of two runs stay together. -/
structure KeepsItems (side : Side) (taken first second : List α) : Prop where
  singly : (∀ a ∈ bag taken + (bag first + bag second), P a) → ∀ pace firstWins secondWins : Nat,
    Yields (mergeSingly less side pace firstWins secondWins taken first second) fun result ↦
      bag result.1 = bag taken + (bag first + bag second)
  stretches : (∀ a ∈ bag taken + (bag first + bag second), P a) → ∀ pace : Nat,
    Yields (mergeStretches less side pace taken first second) fun result ↦
      bag result.1 = bag taken + (bag first + bag second)

omit answers in
/-- A step of a merge ends it, or goes on one way or the other with the runs that are left. -/
theorem KeepsItems.goOn {side : Side} {taken first second : List α}
    (keeps : KeepsItems P less side taken first second)
    (inside : ∀ a ∈ bag taken + (bag first + bag second), P a) (long : Prop) [Decidable long]
    (pace stretchPace singlePace firstWins secondWins : Nat) :
    Yields (if isOver side first second then pure (conclude side taken first second, pace)
      else if long then mergeStretches less side stretchPace taken first second
      else mergeSingly less side singlePace firstWins secondWins taken first second) fun result ↦
        bag result.1 = bag taken + (bag first + bag second) := by
  split
  · exact .pure (bag_conclude side taken first second)
  · split
    · exact keeps.stretches inside stretchPace
    · exact keeps.singly inside singlePace firstWins secondWins

/-- One item goes, and what is left of the runs is shorter by one. -/
theorem yields_mergeSingly_of_shorter {side : Side} {taken first second : List α}
    (shorter : ∀ taken' first' second' : List α,
      first'.length + second'.length < first.length + second.length →
        KeepsItems P less side taken' first' second')
    (inside : ∀ a ∈ bag taken + (bag first + bag second), P a) (pace firstWins secondWins : Nat) :
    Yields (mergeSingly less side pace firstWins secondWins taken first second) fun result ↦
      bag result.1 = bag taken + (bag first + bag second) := by
  rw [mergeSingly.eq_def]
  split
  · next x first' y second' =>
    refine (answers y (inside y (by simp)) x (inside x (by simp))).bind fun b _ ↦ ?_
    split
    · rw [← bag_take_second y taken (x :: first') second'] at inside ⊢
      have fewer : (x :: first').length + second'.length <
          (x :: first').length + (y :: second').length := by
        simp only [List.length_cons]; omega
      exact (shorter _ _ _ fewer).goOn inside _ pace pace pace 0 _
    · rw [← bag_take_first x taken first' (y :: second')] at inside ⊢
      have fewer : first'.length + (y :: second').length <
          (x :: first').length + (y :: second').length := by
        simp only [List.length_cons]; omega
      exact (shorter _ _ _ fewer).goOn inside _ pace pace pace _ 0
  · exact .pure (bag_conclude side taken first second)

/-- A stretch of the first run goes and the item that stopped it, then the same the other way round;
each time the bags stay as they are. -/
theorem yields_mergeStretches_of_shorter {side : Side} {taken first second : List α}
    (shorter : ∀ taken' first' second' : List α,
      first'.length + second'.length < first.length + second.length →
        KeepsItems P less side taken' first' second')
    (inside : ∀ a ∈ bag taken + (bag first + bag second), P a) (pace : Nat) :
    Yields (mergeStretches less side pace taken first second) fun result ↦
      bag result.1 = bag taken + (bag first + bag second) := by
  rw [mergeStretches.eq_def]
  split
  · next y second' =>
    have firstIn : ∀ a ∈ first, P a := fun a mem ↦ inside a (by simp [mem])
    have secondIn : ∀ a ∈ second', P a := fun a mem ↦ inside a (by simp [mem])
    have test := (answers y (inside y (by simp))).map (· != (side == .low))
    refine (yields_stretch test side firstIn).bind fun i _ ↦ ?_
    dsimp only
    rw [← bag_stretch_first i taken first (y :: second')] at inside ⊢
    split
    · exact .pure (bag_conclude ..)
    · rw [← bag_take_second y ((first.take i).reverse ++ taken)] at inside ⊢
      split
      · exact .pure (bag_conclude ..)
      · split
        · next x first'' left =>
          have fewer : ∀ j, first''.length + (second'.drop j).length <
              first.length + (y :: second').length := by
            have := congrArg List.length left
            rw [List.length_drop, List.length_cons] at this
            intro j
            rw [List.length_drop, List.length_cons]
            omega
          rw [left] at inside ⊢
          have test : Answers P fun y ↦ (· == (side == .low)) <$> less y x :=
            fun y hy ↦ (answers y hy x (inside x (by simp))).map fun _ _ ↦ trivial
          refine (yields_stretch test side secondIn).bind fun j _ ↦ ?_
          rw [← bag_stretch_second j] at inside ⊢
          split
          · exact .pure (bag_conclude ..)
          · rw [← bag_take_first x] at inside ⊢
            exact (shorter _ _ _ (fewer j)).goOn inside _ pace _ (pace + 1) 0 0
        · next left =>
          rw [left]
          exact .pure (bag_conclude ..)
  · exact .pure (bag_conclude side taken first [])

/-- The two ways of merging take turns, so that they keep the items is proved by one induction on
how much is left of the runs. -/
theorem keepsItems (side : Side) (taken first second : List α) :
    KeepsItems P less side taken first second := by
  induction size : first.length + second.length using Nat.strongRecOn
    generalizing taken first second with
  | _ size ih =>
    have shorter : ∀ taken' first' second' : List α,
        first'.length + second'.length < first.length + second.length →
          KeepsItems P less side taken' first' second' :=
      fun taken' first' second' fewer ↦ ih _ (size ▸ fewer) taken' first' second' rfl
    exact ⟨yields_mergeSingly_of_shorter answers shorter,
      yields_mergeStretches_of_shorter answers shorter⟩

theorem yields_mergeSingly (side : Side) (pace firstWins secondWins : Nat)
    {taken first second : List α} (inside : ∀ a ∈ bag taken + (bag first + bag second), P a) :
    Yields (mergeSingly less side pace firstWins secondWins taken first second) fun result ↦
      bag result.1 = bag taken + (bag first + bag second) :=
  (keepsItems answers side taken first second).singly inside pace firstWins secondWins

theorem yields_mergeOverlap_start (pace : Nat) (side : Side) {first second : List α}
    (inside : ∀ a ∈ bag first + bag second, P a) :
    Yields (mergeOverlap.start less pace side first second) fun result ↦
      bag result.1 = bag first + bag second := by
  have nothing : bag ([] : List α) + (bag first + bag second) = bag first + bag second :=
    zero_add _
  rw [← nothing] at inside ⊢
  rw [mergeOverlap.start.eq_def]
  split
  · next y second' =>
    rw [← bag_take_second] at inside ⊢
    split
    · exact .pure (bag_conclude .low [y] first second')
    · exact yields_mergeSingly answers _ _ _ _ inside
  · next x first' =>
    rw [← bag_take_first] at inside ⊢
    split
    · exact .pure (bag_conclude .high [x] first' second)
    · exact yields_mergeSingly answers _ _ _ _ inside
  · exact .pure (bag_conclude side [] first second)

theorem yields_mergeOverlap (pace : Nat) {first second : List α}
    (inside : ∀ a ∈ bag first + bag second, P a) :
    Yields (mergeOverlap less pace first second) fun result ↦
      bag result.1 = bag first + bag second := by
  rw [mergeOverlap]
  split
  · exact yields_mergeOverlap_start answers pace .low inside
  · rw [← bag_reverse first, ← bag_reverse second] at inside ⊢
    exact yields_mergeOverlap_start answers pace .high inside

/-- **A merge has the items of both runs.** -/
theorem yields_merge (pace : Nat) {first second : List α}
    (inside : ∀ a ∈ bag first + bag second, P a) :
    Yields (merge less pace first second) fun result ↦
      bag result.1 = bag first + bag second := by
  have firstIn : ∀ a ∈ first, P a := fun a mem ↦ inside a (by simp [mem])
  have secondIn : ∀ a ∈ second, P a := fun a mem ↦ inside a (by simp [mem])
  have unmerged : bag (first ++ second) = bag first + bag second := bag_append first second
  rw [merge.eq_def]
  split
  · next y found =>
    have test := (answers y (secondIn y (List.mem_of_mem_head? found))).map (!·)
    refine (yields_stretch test .low firstIn).bind fun i _ ↦ ?_
    dsimp only
    split
    · next x found =>
      have xIn : P x := firstIn x (List.mem_of_mem_drop (List.mem_of_getLast? found))
      have test : Answers P fun y ↦ (!·) <$> less y x :=
        fun y hy ↦ (answers y hy x xIn).map fun _ _ ↦ trivial
      have turned : ∀ a ∈ second.reverse, P a := fun a mem ↦ secondIn a (List.mem_reverse.1 mem)
      refine (yields_stretch test .high turned).bind fun j _ ↦ ?_
      split
      · exact .pure unmerged
      · have parts : bag first + bag second = bag (first.take i) +
            (bag (first.drop i) + bag (second.take (second.length - j))) +
            bag (second.drop (second.length - j)) := by
          rw [← bag_take_add_drop i first, ← bag_take_add_drop (second.length - j) second]
          abel
        rw [parts] at inside ⊢
        have overlap := yields_mergeOverlap answers pace fun a mem ↦
          inside a (Multiset.mem_add.2 (Or.inl (Multiset.mem_add.2 (Or.inr mem))))
        refine overlap.bind fun result same ↦ .pure ?_
        rw [bag_append, bag_append, same]
    · exact .pure unmerged
  · next none =>
    have empty : second = [] := List.head?_eq_none_iff.1 (Option.eq_none_iff_forall_ne_some.2 none)
    exact .pure (by rw [empty]; exact (add_zero _).symm)

/-! ### Runs -/

/-- The last two runs that wait can be merged in place. -/
theorem yields_merge_runs (pace : Nat) {first second : List α} {rest : Multiset α}
    (inside : ∀ a ∈ bag second + (bag first + rest), P a) :
    Yields (merge less pace first second) fun result ↦
      bag result.1 + rest = bag second + (bag first + rest) := by
  have bothIn : ∀ a ∈ bag first + bag second, P a := fun a mem ↦
    inside a (by rcases Multiset.mem_add.1 mem with h | h <;> simp [h])
  refine (yields_merge answers pace bothIn).imp fun result same ↦ ?_
  rw [same]
  abel

theorem yields_mergeDeeper (depth pace : Nat) {runs : List (Run α)}
    (inside : ∀ a ∈ bagOfRuns runs, P a) :
    Yields (mergeDeeper less depth pace runs) fun result ↦ bagOfRuns result.1 = bagOfRuns runs := by
  induction count : runs.length using Nat.strongRecOn generalizing pace runs with
  | _ size ih =>
    rw [mergeDeeper.eq_def]
    split
    · next last before runs =>
      split
      · rw [bagOfRuns_cons, bagOfRuns_cons] at inside ⊢
        refine (yields_merge_runs answers pace inside).bind ?_
        rintro ⟨items, pace⟩ same
        rw [← same] at inside ⊢
        have fewer : ({ before with items } :: runs).length < size := by
          simp only [List.length_cons] at count ⊢
          omega
        rw [← bagOfRuns_cons { before with items } runs] at inside ⊢
        exact ih _ fewer pace inside rfl
      · exact .pure rfl
    · exact .pure rfl

theorem yields_mergeAll (pace : Nat) {runs : List (Run α)} (inside : ∀ a ∈ bagOfRuns runs, P a) :
    Yields (mergeAll less pace runs) fun sorted ↦ bag sorted = bagOfRuns runs := by
  induction count : runs.length using Nat.strongRecOn generalizing pace runs with
  | _ size ih =>
    rw [mergeAll.eq_def]
    split
    · next last before first runs =>
      have fewer : ∀ one other : Run α, (one :: other :: runs).length < size := by
        intro one other
        simp only [List.length_cons] at count ⊢
        omega
      split
      · have parts : bagOfRuns (last :: before :: first :: runs) =
            bag before.items + (bag first.items + (bag last.items + bagOfRuns runs)) := by
          rw [bagOfRuns_cons, bagOfRuns_cons, bagOfRuns_cons]
          abel
        rw [parts] at inside ⊢
        refine (yields_merge_runs answers pace inside).bind ?_
        rintro ⟨items, pace⟩ same
        have after : bagOfRuns (last :: { first with items } :: runs) =
            bag items + (bag last.items + bagOfRuns runs) := by
          rw [bagOfRuns_cons, bagOfRuns_cons]
          abel
        rw [← same, ← after] at inside ⊢
        exact ih _ (fewer _ _) pace inside rfl
      · rw [bagOfRuns_cons, bagOfRuns_cons] at inside ⊢
        refine (yields_merge_runs answers pace inside).bind ?_
        rintro ⟨items, pace⟩ same
        rw [← same, ← bagOfRuns_cons { before with items }] at inside ⊢
        exact ih _ (fewer _ _) pace inside rfl
    · next last before =>
      have parts : bagOfRuns [last, before] = bag before.items + bag last.items := by
        rw [bagOfRuns_cons, bagOfRuns_cons, bagOfRuns_nil]
        abel
      rw [parts] at inside ⊢
      exact (yields_merge answers pace inside).map fun _ same ↦ same
    · next last =>
      exact .pure (by rw [bagOfRuns_cons, bagOfRuns_nil, add_zero])
    · exact .pure rfl

/-- The first run and the rest have the items of the list, and the rest is shorter. -/
theorem yields_firstRun {items : List α} (inside : ∀ a ∈ items, P a) :
    Yields (firstRun less items) fun result ↦
      bag result.1 + bag result.2 = bag items ∧ result.2.length ≤ items.length - 1 := by
  rw [firstRun.eq_def]
  split
  · exact .pure ⟨rfl, le_rfl⟩
  · next x =>
    exact .pure ⟨add_zero _, le_rfl⟩
  · next x y rest =>
    have xIn : P x := inside x (by simp)
    have yIn : P y := inside y (by simp)
    have restIn : ∀ a ∈ rest, P a := fun a mem ↦ inside a (by simp [mem])
    -- what a run taken after the two items says of all of them
    have whole : ∀ result : List α × List α, result.1 ++ result.2 = rest →
        bag (x :: y :: result.1) + bag result.2 = bag (x :: y :: rest) ∧
          result.2.length ≤ (x :: y :: rest).length - 1 := by
      rintro result rfl
      refine ⟨?_, by simp only [List.length_cons, List.length_append]; omega⟩
      rw [← bag_append, List.cons_append, List.cons_append]
    refine (answers y yIn x xIn).bind fun b _ ↦ ?_
    split
    · refine (yields_takeRun answers yIn restIn).bind fun result same ↦ .pure ?_
      rw [bag_reverse]
      exact whole result same
    · have climbs : ∀ a, P a → Answers P fun b ↦ (!·) <$> less a b :=
        fun a ha ↦ (answers a ha).map _
      exact (yields_takeRun climbs yIn restIn).bind fun result same ↦ .pure (whole result same)

theorem yields_insert {sorted : List α} (inside : ∀ a ∈ sorted, P a) {item : α} (itemIn : P item) :
    Yields (insert less sorted item) fun result ↦ bag result = bag sorted + {item} := by
  have test := (answers item itemIn).map (!·)
  refine (yields_halve test .low inside _ _).bind fun k _ ↦ .pure ?_
  rw [bag_append, bag_cons, ← bag_take_add_drop k sorted]
  abel

theorem yields_insertAll {sorted items : List α} (inside : ∀ a ∈ bag sorted + bag items, P a) :
    Yields (items.foldlM (insert less) sorted)
      fun result ↦ bag result = bag sorted + bag items := by
  induction items generalizing sorted with
  | nil => exact .pure (add_zero _).symm
  | cons item items ih =>
    have sortedIn : ∀ a ∈ sorted, P a := fun a mem ↦ inside a (by simp [mem])
    rw [List.foldlM_cons]
    refine (yields_insert answers sortedIn (inside item (by simp))).bind fun result same ↦ ?_
    rw [bag_cons, ← add_assoc, ← same] at inside ⊢
    exact ih inside

/-- What the runs hold that wait, and what is left of the list, is what the sorted list has. -/
theorem yields_collect (size least fuel pace : Nat) {runs : List (Run α)} {items : List α}
    (enough : items.length ≤ fuel) (inside : ∀ a ∈ bagOfRuns runs + bag items, P a) :
    Yields (collect less size least fuel pace runs items) fun sorted ↦
      bag sorted = bagOfRuns runs + bag items := by
  induction fuel generalizing pace runs items with
  | zero =>
    obtain rfl : items = [] := List.length_eq_zero_iff.1 (by omega)
    rw [show bagOfRuns runs + bag ([] : List α) = bagOfRuns runs from add_zero _] at inside ⊢
    exact yields_mergeAll answers pace inside
  | succ fuel ih =>
    cases items with
    | nil =>
      rw [show bagOfRuns runs + bag ([] : List α) = bagOfRuns runs from add_zero _] at inside ⊢
      exact yields_mergeAll answers pace inside
    | cons item items =>
      rw [collect.eq_3 _ _ _ _ _ _ _ (by simp)]
      have itemsIn : ∀ a ∈ item :: items, P a := fun a mem ↦
        inside a (Multiset.mem_add.2 (Or.inr mem))
      refine (yields_firstRun answers itemsIn).bind ?_
      rintro ⟨run, rest⟩ ⟨parted, shorter⟩
      simp only [List.length_cons, Nat.add_sub_cancel] at shorter enough
      dsimp only
      generalize least - run.length = missing
      have parts : bag run + bag (rest.take missing) + bag (rest.drop missing) =
          bag (item :: items) := by
        rw [add_assoc, bag_take_add_drop, parted]
      rw [← parts] at inside ⊢
      have runIn : ∀ a ∈ bag run + bag (rest.take missing), P a := fun a mem ↦
        inside a (Multiset.mem_add.2 (Or.inr (Multiset.mem_add.2 (Or.inl mem))))
      refine (yields_insertAll answers runIn).bind fun run same ↦ ?_
      rw [← same] at inside ⊢
      have enough' : (rest.drop missing).length ≤ fuel := by
        rw [List.length_drop]
        omega
      have queued : ∀ (start : Nat) (waiting : List (Run α)),
          bagOfRuns waiting + (bag run + bag (rest.drop missing)) =
            bagOfRuns ({ start, items := run } :: waiting) + bag (rest.drop missing) := by
        intro start waiting
        rw [bagOfRuns_cons]
        abel
      cases runs with
      | nil =>
        rw [queued 0] at inside ⊢
        exact ih pace enough' inside
      | cons last before =>
        have runsIn : ∀ a ∈ bagOfRuns (last :: before), P a := fun a mem ↦
          inside a (Multiset.mem_add.2 (Or.inl mem))
        refine (yields_mergeDeeper answers _ pace runsIn).bind ?_
        rintro ⟨waiting, pace⟩ same
        rw [← same] at inside ⊢
        dsimp only
        generalize size - (run.length + (rest.drop missing).length) = start
        cases waiting with
        | nil =>
          rw [queued start] at inside ⊢
          exact ih pace enough' inside
        | cons last waiting =>
          -- the last run that waits gets the depth of its border, and keeps its items
          rw [bagOfRuns_cons, ← bagOfRuns_cons { last with depth := _ }, queued start] at inside ⊢
          exact ih pace enough' inside

/-- **A sorted list is a rearrangement of the list**, and sorting does not fail where no comparison
of its items does. -/
theorem yields_sort {items : List α} (inside : ∀ a ∈ items, P a) :
    Yields (sort less items) fun sorted ↦ sorted.Perm items := by
  have nothing : bagOfRuns ([] : List (Run α)) + bag items = bag items := zero_add _
  have insideBag : ∀ a ∈ bagOfRuns ([] : List (Run α)) + bag items, P a := by
    rwa [nothing]
  refine (yields_collect answers _ _ _ _ le_rfl insideBag).imp fun sorted same ↦ ?_
  exact Multiset.coe_eq_coe.1 (same.trans nothing)

end Merge

end Sorting

end Tabstave
