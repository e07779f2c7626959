import Mathlib.Logic.Basic
import Tabstave.Value.Same

/-!
# Entries put over others

Keys that are texts are the same only if they are equal, so a dictionary of named entries is a table
of names. Putting entries over it one by one (`Value.put`) comes to putting them over it at once
(`Value.overlay`): what is named already is changed where it stands, and the rest follows in the
order in which it comes. That takes keys that differ; of two that are the same, the second would
change what the first has put.
-/

namespace Tabstave.Value

/-! ### Texts as keys -/

theorem same_str_iff {name : String} {value : Value} :
    same (.str name) value = true ↔ value = .str name := by
  cases value with
  | str other => simpa [same, sameAtom] using eq_comm
  | _ => simp [same, sameAtom]

theorem same_iff_eq_str {name : String} {value : Value} :
    same value (.str name) = true ↔ value = .str name := by
  cases value <;> simp [same, sameAtom]

/-- A key is that of none of the entries. -/
def IsNew (key : Value) (entries : List (Value × Value)) : Prop :=
  ∀ entry ∈ entries, same entry.1 key = false

/-- No two keys are the same. -/
def DistinctKeys (entries : List (Value × Value)) : Prop :=
  entries.Pairwise fun first second ↦ same first.1 second.1 = false

instance (entries : List (Value × Value)) : Decidable (DistinctKeys entries) :=
  inferInstanceAs (Decidable (entries.Pairwise _))

/-- All keys are texts, and no two are the same. -/
structure Named (entries : List (Value × Value)) : Prop where
  text : ∀ entry ∈ entries, ∃ name, entry.1 = .str name
  distinct : DistinctKeys entries

/-! ### Finding and putting one entry -/

section Put

variable {key value : Value} {before after : List (Value × Value)} {entry : Value × Value}

theorem find?_eq_none_iff : find? key before = none ↔ IsNew key before := by
  rw [find?, Option.map_eq_none_iff, List.find?_eq_none, IsNew]
  simp

theorem find?_append_of_new (new : IsNew key before) :
    find? key (before ++ after) = find? key after := by
  rw [find?, List.find?_append, List.find?_eq_none.2 (by simpa [IsNew] using new),
    Option.none_or, find?]

theorem find?_cons_of_same (here : same entry.1 key = true) :
    find? key (entry :: after) = some entry.2 := by
  simp [find?, here]

theorem find?_append_singleton (differ : same entry.1 key = false) :
    find? key (before ++ [entry]) = find? key before := by
  simp [find?, differ]

theorem put_of_new (new : IsNew key before) : put key value before = before ++ [(key, value)] := by
  induction before with
  | nil => rfl
  | cons entry rest ih =>
    rw [put, if_neg (by simp [new entry List.mem_cons_self]),
      ih fun other mem ↦ new other (List.mem_cons_of_mem _ mem), List.cons_append]

theorem put_append_cons (new : IsNew key before) (here : same entry.1 key = true) :
    put key value (before ++ entry :: after) = before ++ (entry.1, value) :: after := by
  induction before with
  | nil => rw [List.nil_append, put, if_pos here, List.nil_append]
  | cons other rest ih =>
    rw [List.cons_append, put, if_neg (by simp [new other List.mem_cons_self]),
      ih fun other mem ↦ new other (List.mem_cons_of_mem _ mem), List.cons_append]

end Put

/-! ### Putting entries over others -/

/-- What becomes of an entry when others are put over it. -/
def changed (combine : Value → Value → Value) (given : List (Value × Value))
    (entry : Value × Value) : Value × Value :=
  (entry.1, ((find? entry.1 given).map (combine entry.2)).getD entry.2)

/-- Entries put over others: the entries of `base` stay where they are, with what `combine` makes of
their values and those that `given` has for their keys, and all else in `given` follows. -/
def overlay (combine : Value → Value → Value) (base given : List (Value × Value)) :
    List (Value × Value) :=
  base.map (changed combine given) ++ given.filter fun entry ↦ (find? entry.1 base).isNone

variable {combine : Value → Value → Value} {base given : List (Value × Value)} {key value : Value}
  {entry : Value × Value}

theorem changed_of_new (new : IsNew key given) (old : Value) :
    changed combine given (key, old) = (key, old) := by
  rw [changed, find?_eq_none_iff.2 new, Option.map_none, Option.getD_none]

theorem changed_append_of_new (new : IsNew key given) (here : same key key = true) (old : Value) :
    changed combine (given ++ [(key, value)]) (key, old) = (key, combine old value) := by
  rw [changed, find?_append_of_new new, find?_cons_of_same here, Option.map_some, Option.getD_some]

theorem isNew_map_changed : IsNew key (base.map (changed combine given)) ↔ IsNew key base :=
  List.forall_mem_map

theorem isNew_overlay (away : IsNew key base) (new : IsNew key given) :
    IsNew key (overlay combine base given) := by
  intro entry mem
  rcases List.mem_append.1 mem with old | other
  · exact isNew_map_changed.2 away entry old
  · exact new entry (List.mem_filter.1 other).1

theorem overlay_nil : overlay combine base [] = base := by
  have unchanged : changed combine [] = id := by
    funext entry
    exact changed_of_new (List.forall_mem_nil _) entry.2
  rw [overlay, unchanged, List.map_id, List.filter_nil, List.append_nil]

namespace Named

theorem eq_key (named : Named base) (mem : entry ∈ base) (here : same entry.1 key = true) :
    key = entry.1 := by
  obtain ⟨name, text⟩ := named.text entry mem
  rw [text] at here ⊢
  exact same_str_iff.1 here

theorem mem_of_find? (named : Named base) (found : find? key base = some value) :
    (key, value) ∈ base := by
  obtain ⟨entry, first, rfl⟩ := Option.map_eq_some_iff.1 found
  have mem := List.mem_of_find?_eq_some first
  have same : key = entry.1 := named.eq_key mem (by simpa using List.find?_some first)
  rwa [same]

theorem same_comm (named : Named base) (mem : entry ∈ base) :
    same entry.1 key = same key entry.1 := by
  obtain ⟨name, text⟩ := named.text entry mem
  rw [text, Bool.eq_iff_iff, same_str_iff, same_iff_eq_str]

theorem changed_append_singleton (named : Named base) (mem : entry ∈ base)
    (differ : same entry.1 key = false) :
    changed combine (given ++ [(key, value)]) entry = changed combine given entry := by
  rw [named.same_comm mem] at differ
  rw [changed, find?_append_singleton differ, changed]

/-- A key is either that of no entry, or that of one and of none before or after it. -/
theorem new_or_split (named : Named base) (key : Value) :
    IsNew key base ∨ same key key = true ∧ ∃ before old after,
      base = before ++ (key, old) :: after ∧ IsNew key before ∧ IsNew key after := by
  by_cases new : IsNew key base
  · exact .inl new
  · obtain ⟨entry, mem, here⟩ : ∃ entry ∈ base, same entry.1 key = true := by
      simpa [IsNew] using new
    obtain ⟨before, after, rfl⟩ := List.append_of_mem mem
    obtain rfl := named.eq_key mem here
    obtain ⟨-, there, across⟩ := List.pairwise_append.1 named.distinct
    refine .inr ⟨here, before, entry.2, after, rfl, fun other mem ↦ ?_, fun other mem ↦ ?_⟩
    · exact across other mem entry List.mem_cons_self
    · rw [named.same_comm (List.mem_append_right _ (List.mem_cons_of_mem _ mem))]
      exact List.rel_of_pairwise_cons there mem

end Named

/-- A key that is not among those of `given` has in both together what it has in `base`. -/
theorem find?_overlay_of_new (named : Named base) (new : IsNew key given) :
    find? key (overlay combine base given) = find? key base := by
  rcases named.new_or_split key with away | ⟨here, before, old, after, rfl, notBefore, -⟩
  · rw [find?_eq_none_iff.2 away, find?_eq_none_iff.2 (isNew_overlay away new)]
  · rw [overlay, List.map_append, List.map_cons, List.append_assoc, List.cons_append,
      changed_of_new new, find?_append_of_new (isNew_map_changed.2 notBefore),
      find?_append_of_new notBefore, find?_cons_of_same here, find?_cons_of_same here]

/-- One more entry is put over the others like those before it, if its key is new to them. -/
theorem overlay_append_singleton (combine : Value → Value → Value) (value : Value)
    (named : Named base) (new : IsNew key given) :
    overlay combine base (given ++ [(key, value)]) =
      put key (((find? key base).map (combine · value)).getD value)
        (overlay combine base given) := by
  have unchanged {part : List (Value × Value)} (sub : part ⊆ base) (away : IsNew key part) :
      part.map (changed combine (given ++ [(key, value)])) = part.map (changed combine given) :=
    List.map_congr_left fun entry mem ↦ named.changed_append_singleton (sub mem) (away entry mem)
  rcases named.new_or_split key with away | ⟨here, before, old, after, rfl, notBefore, notAfter⟩
  · have absent : find? key base = none := find?_eq_none_iff.2 away
    rw [put_of_new (isNew_overlay away new), overlay, unchanged (List.Subset.refl _) away,
      List.filter_append, absent, overlay]
    simp [absent]
  · have present : find? key (before ++ (key, old) :: after) = some old := by
      rw [find?_append_of_new notBefore, find?_cons_of_same here]
    rw [overlay, overlay, List.filter_append, List.map_append, List.map_cons, List.map_append,
      List.map_cons, unchanged (by simp) notBefore, unchanged (by simp) notAfter,
      changed_append_of_new new here, changed_of_new new, List.append_assoc,
      List.append_assoc, List.cons_append, List.cons_append,
      put_append_cons (isNew_map_changed.2 notBefore) here]
    simp [present]

theorem DistinctKeys.isNew {done rest : List (Value × Value)}
    (distinct : DistinctKeys (done ++ entry :: rest)) : IsNew entry.1 done :=
  fun other mem ↦ (List.pairwise_append.1 distinct).2.2 other mem entry List.mem_cons_self

/-- Entries with keys that differ are put over others all at once. -/
theorem putAll_eq_overlay (named : Named base) (distinct : DistinctKeys given) :
    putAll given base = overlay (fun _ value ↦ value) base given := by
  suffices ∀ rest done, DistinctKeys (done ++ rest) →
      putAll rest (overlay (fun _ value ↦ value) base done) =
        overlay (fun _ value ↦ value) base (done ++ rest) by
    simpa [overlay_nil] using this given [] distinct
  intro rest
  induction rest with
  | nil => simp [putAll]
  | cons entry rest ih =>
    intro done distinct
    have value : ((find? entry.1 base).map fun _ ↦ entry.2).getD entry.2 = entry.2 := by
      cases find? entry.1 base <;> rfl
    have step :=
      overlay_append_singleton (fun _ value ↦ value) entry.2 named distinct.isNew
    rw [value] at step
    rw [List.append_cons] at distinct ⊢
    rw [← ih _ distinct, step]
    rfl

end Tabstave.Value
