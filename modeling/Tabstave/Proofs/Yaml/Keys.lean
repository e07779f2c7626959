import Tabstave.Proofs.Value.Entries
import Tabstave.Proofs.Yaml.Building

/-!
# The keys of a loaded dictionary

A text of which a dictionary is made gives it keys of which no two are the same, and so it does for
the dictionaries in it (`distinctKeys_of_load`). What stands below the level to which a collection
is unrolled that holds itself is not told apart, but that is deeper than this.
-/

namespace Tabstave.Yaml

open Value (DistinctKeys)

/-! ### How many levels are looked at -/

theorem foldl_max_le_iff {members : List Nat} {height : Nat → Nat} {start bound : Nat} :
    members.foldl (fun most number ↦ max most (height number)) start ≤ bound ↔
      start ≤ bound ∧ ∀ number ∈ members, height number ≤ bound := by
  induction members generalizing start with
  | nil => simp
  | cons number rest ih => rw [List.foldl_cons, ih, Nat.max_le, List.forall_mem_cons, and_assoc]

section Levels

variable {parts : Array Part} {heights : Array Nat} {number bound : Nat}

theorem getD_heightsFrom (parts : Array Part) (heights : Array Nat) (number : Nat) :
    (heightsFrom parts heights).getD number 0 =
      (parts[number]?.map fun part ↦ part.members.foldl
        (fun most number ↦ max most (heights.getD number 0 + 1)) 0).getD 0 := by
  rw [heightsFrom, Array.getD_eq_getD_getElem?, Array.getElem?_map]

theorem getD_heightsFrom_le (bounded : ∀ number, heights.getD number 0 ≤ bound) :
    (heightsFrom parts heights).getD number 0 ≤ bound + 1 := by
  rw [getD_heightsFrom]
  cases parts[number]? with
  | none => exact Nat.zero_le _
  | some part =>
    exact foldl_max_le_iff.2 ⟨Nat.zero_le _, fun member _ ↦ Nat.succ_le_succ (bounded member)⟩

/-- A node is higher than what it holds, once the heights of the nodes are right. -/
theorem lt_height (right : heightsFrom parts heights = heights) {part : Part} {member : Nat}
    (found : parts[number]? = some part) (mem : member ∈ part.members) :
    heights.getD member 0 < heights.getD number 0 := by
  have height := getD_heightsFrom parts heights number
  rw [right, found, Option.map_some, Option.getD_some] at height
  exact (foldl_max_le_iff.1 (Nat.le_of_eq height.symm)).2 member mem

/-- Either heights are found that are right, and there are as many levels as any node is high, or as
many levels are looked at as may be. -/
theorem exists_heights (parts : Array Part) (limit : Nat) {heights : Array Nat} {count : Nat}
    (bounded : ∀ number, heights.getD number 0 ≤ count) :
    (∃ right, heightsFrom parts right = right ∧
      ∀ number, right.getD number 0 ≤ levels parts heights count limit) ∨
    levels parts heights count limit = count + limit := by
  induction limit generalizing heights count with
  | zero => exact .inr rfl
  | succ limit ih =>
    rw [levels]
    split
    · next right => exact .inl ⟨heights, right, bounded⟩
    · rw [Nat.add_comm limit 1, ← Nat.add_assoc]
      exact ih fun number ↦ getD_heightsFrom_le bounded

/-- How many levels of collections are put together. -/
def depthOf (parts : Array Part) : Nat :=
  levels parts (parts.map fun _ ↦ 0) 0 ((parts.filter fun part ↦ !part.isKey).size + spareLevels)

theorem exists_heights_depthOf (parts : Array Part) :
    (∃ right, heightsFrom parts right = right ∧ ∀ number, right.getD number 0 ≤ depthOf parts) ∨
      spareLevels ≤ depthOf parts := by
  have start (number : Nat) : (parts.map fun _ ↦ 0).getD number 0 ≤ 0 := by
    rw [Array.getD_eq_getD_getElem?, Array.getElem?_map]
    cases parts[number]? <;> exact Nat.le_refl _
  refine (exists_heights parts _ start).imp_right fun all ↦ ?_
  rw [depthOf, all, Nat.zero_add]
  exact Nat.le_add_left _ _

section Depth

variable {part : Part} {member : Nat} (found : parts[number]? = some part)
  (mem : member ∈ part.members)

include found mem

theorem one_le_depthOf : 1 ≤ depthOf parts := by
  rcases exists_heights_depthOf parts with ⟨right, fixed, most⟩ | spare
  · exact Nat.le_trans (Nat.zero_lt_of_lt (lt_height fixed found mem)) (most number)
  · exact Nat.le_trans (by decide) spare

theorem two_le_depthOf {inner : Part} {innermost : Nat} (found' : parts[member]? = some inner)
    (mem' : innermost ∈ inner.members) : 2 ≤ depthOf parts := by
  rcases exists_heights_depthOf parts with ⟨right, fixed, most⟩ | spare
  · have first := lt_height fixed found mem
    have second := lt_height fixed found' mem'
    have most := most number
    omega
  · exact Nat.le_trans (by decide) spare

end Depth

end Levels

/-! ### What stands at a node -/

/-- What the nodes have become in the end. -/
def Builder.finished (builder : Builder) : Array Part :=
  builder.parts.map (·.getD (.atom .null))

/-- The values of all nodes one level less deep. -/
def valuesBelow (parts : Array Part) : Nat → Array Value
  | 0 => #[]
  | depth + 1 => valuesTo parts depth

/-- The entries of a dictionary, given the values of all nodes. -/
def entriesAt (below : Array Value) (pairs : List (Nat × Nat)) : List (Value × Value) :=
  pairs.map fun pair ↦ (below.getD pair.1 .null, below.getD pair.2 .null)

theorem getD_valuesTo (parts : Array Part) (depth number : Nat) :
    (valuesTo parts depth).getD number .null =
      (parts[number]?.map (Part.value (valuesBelow parts depth))).getD .null := by
  cases depth <;> rw [valuesTo, Array.getD_eq_getD_getElem?, Array.getElem?_map, valuesBelow]

/-- The value of what can be a key depends on no other nodes. -/
theorem Part.value_of_isKey {part : Part} (isKey : part.isKey = true) (below : Array Value) :
    part.value below = part.value #[] := by
  cases part <;> first | rfl | cases isKey

namespace Build

variable {builder : Builder} {number : Nat} {part : Part}

theorem getElem?_finished_of_part? (found : builder.part? number = some part) :
    builder.finished[number]? = some part := by
  rw [Builder.part?, Option.join_eq_some_iff] at found
  rw [Builder.finished, Array.getElem?_map, found]
  rfl

theorem getD_valuesTo_of_isKey (found : builder.part? number = some part)
    (isKey : part.isKey = true) (depth : Nat) :
    (valuesTo builder.finished depth).getD number .null = part.value #[] := by
  rw [getD_valuesTo, getElem?_finished_of_part? found, Option.map_some, Option.getD_some,
    Part.value_of_isKey isKey]

/-- What is no number is not the same as anything. -/
theorem same_nan (value : Value) : value.same (.float .nan) = false := by
  cases value with
  | float x => cases x <;> rfl
  | moment _ _ _ _ _ _ _ offset => cases offset <;> rfl
  | _ => rfl

theorem nan_same (value : Value) : Value.same (.float .nan) value = false := by
  cases value <;> rfl

/-- Keys that differ have values that differ. -/
theorem same_value_of_sameKey {first second : Nat} {a b : Part}
    (here : builder.part? first = some a) (isKey : a.isKey = true)
    (there : builder.part? second = some b) (isKey' : b.isKey = true)
    (differ : sameKey builder.parts first second = false) :
    (a.value #[]).same (b.value #[]) = false := by
  rw [Builder.part?] at here there
  rw [sameKey, here, there, Bool.or_eq_false_iff] at differ
  cases a with
  | atom x =>
    cases b with
    | atom y => exact differ.2
    | noNumber => exact same_nan x
    | _ => cases isKey'
  | noNumber => exact nan_same _
  | _ => cases isKey

/-- A node that stands for a dictionary has become one. -/
theorem exists_dict_of_valuesTo (sound : Sound builder) (depth : Nat)
    {entries : List (Value × Value)}
    (dict : (valuesTo builder.finished depth).getD number .null = .dict entries) :
    ∃ pairs, builder.part? number = some (.dict pairs) ∧
      entries = entriesAt (valuesBelow builder.finished depth) pairs := by
  rw [getD_valuesTo, Builder.finished, Array.getElem?_map] at dict
  cases found : builder.part? number with
  | none =>
    rw [Builder.part?] at found
    rcases cell : builder.parts[number]? with _ | _ | part
    · rw [cell] at dict
      cases dict
    · rw [cell] at dict
      cases dict
    · rw [cell] at found
      cases found
  | some part =>
    have cell := found
    rw [Builder.part?, Option.join_eq_some_iff] at cell
    rw [cell] at dict
    change part.value _ = _ at dict
    cases part with
    | atom value =>
      cases sound.scalars number _ found rfl with
      | atom plain => exact absurd dict (plain entries)
    | dict pairs =>
      injection dict with same
      exact ⟨pairs, rfl, same.symm⟩
    | _ => cases dict

/-- A dictionary has keys that differ, if there is a level below it or it is empty. -/
theorem distinctKeys_entriesAt {pairs : List (Nat × Nat)}
    (distinct : Distinct builder (pairs.map Prod.fst)) {depth : Nat}
    (deep : pairs ≠ [] → 1 ≤ depth) :
    DistinctKeys (entriesAt (valuesBelow builder.finished depth) pairs) := by
  cases depth with
  | zero =>
    cases pairs with
    | nil => exact .nil
    | cons => cases deep (List.cons_ne_nil _ _)
  | succ depth =>
    refine List.pairwise_map.2 ((List.pairwise_map.1 distinct.differ).imp_of_mem ?_)
    intro first second mem mem' differ
    obtain ⟨a, here, isKey⟩ := distinct.isKey _ (List.mem_map_of_mem mem)
    obtain ⟨b, there, isKey'⟩ := distinct.isKey _ (List.mem_map_of_mem mem')
    rw [valuesBelow, getD_valuesTo_of_isKey here isKey, getD_valuesTo_of_isKey there isKey']
    exact same_value_of_sameKey here isKey there isKey' differ

theorem fst_mem_members {pairs : List (Nat × Nat)} {pair : Nat × Nat} (mem : pair ∈ pairs) :
    pair.1 ∈ (Part.dict pairs).members :=
  List.mem_flatMap.2 ⟨pair, mem, List.mem_cons_self⟩

theorem snd_mem_members {pairs : List (Nat × Nat)} {pair : Nat × Nat} (mem : pair ∈ pairs) :
    pair.2 ∈ (Part.dict pairs).members :=
  List.mem_flatMap.2 ⟨pair, mem, List.mem_cons_of_mem _ List.mem_cons_self⟩

/-- A dictionary that sound nodes make has keys that differ, and so have the dictionaries in it. -/
theorem distinctKeys_of_valueOf (sound : Sound builder) {entries : List (Value × Value)}
    (value : valueOf builder.finished number = .dict entries) :
    DistinctKeys entries ∧ ∀ key inner, (key, .dict inner) ∈ entries → DistinctKeys inner := by
  obtain ⟨pairs, found, rfl⟩ :=
    exists_dict_of_valuesTo sound (depthOf builder.finished) value
  have found' := getElem?_finished_of_part? found
  refine ⟨distinctKeys_entriesAt (sound.dicts number pairs found) fun some ↦ ?_,
    fun key inner inside ↦ ?_⟩
  · obtain ⟨pair, mem⟩ := List.exists_mem_of_ne_nil pairs some
    exact one_le_depthOf found' (fst_mem_members mem)
  · obtain ⟨pair, mem, same⟩ := List.mem_map.1 inside
    obtain ⟨depth, deep⟩ := Nat.exists_eq_add_of_le' (one_le_depthOf found' (fst_mem_members mem))
    rw [deep] at same
    obtain ⟨innerPairs, innerFound, rfl⟩ :=
      exists_dict_of_valuesTo sound depth (congrArg Prod.snd same)
    refine distinctKeys_entriesAt (sound.dicts _ innerPairs innerFound) fun some ↦ ?_
    obtain ⟨innerPair, innerMem⟩ := List.exists_mem_of_ne_nil innerPairs some
    have deeper := two_le_depthOf found' (snd_mem_members mem)
      (getElem?_finished_of_part? innerFound) (fst_mem_members innerMem)
    rw [deep] at deeper
    exact Nat.le_of_succ_le_succ deeper

theorem sound_start (graph : Graph) :
    Sound { graph, parts := graph.map fun _ ↦ none } := by
  have nothing (number : Nat) :
      Builder.part? { graph, parts := graph.map fun _ ↦ none } number = none := by
    rw [Builder.part?, Array.getElem?_map]
    cases graph[number]? <;> rfl
  refine ⟨fun number part found ↦ ?_, fun number entries found ↦ ?_,
    fun number mem ↦ absurd mem List.not_mem_nil⟩
  all_goals
    rw [nothing] at found
    cases found

end Build

/-- **A dictionary that a text is read as has keys that differ**, and so have the dictionaries in
it. -/
theorem distinctKeys_of_load {text : List Char} {entries : List (Value × Value)}
    (loaded : load text = .ok (.dict entries)) :
    DistinctKeys entries ∧ ∀ key inner, (key, .dict inner) ∈ entries → DistinctKeys inner := by
  rw [load] at loaded
  cases composed : compose text with
  | error fault =>
    rw [composed] at loaded
    cases loaded
  | ok result =>
    rw [composed] at loaded
    obtain ⟨graph, _ | root⟩ := result
    · cases loaded
    · change (do
          let built ← (Build.build root).run { graph, parts := graph.map fun _ ↦ none }
          return valueOf built.2.finished root) = _ at loaded
      cases built : (Build.build root).run { graph, parts := graph.map fun _ ↦ none } with
      | error fault =>
        rw [built] at loaded
        cases loaded
      | ok result =>
        rw [built] at loaded
        obtain ⟨sound, -⟩ := Build.keeps_build root _ _ _ built (Build.sound_start graph)
        exact Build.distinctKeys_of_valueOf sound (Except.ok.inj loaded)

end Tabstave.Yaml
