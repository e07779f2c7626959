import Mathlib.Data.List.DropRight
import Mathlib.Data.List.Forall2
import Mathlib.Data.List.Perm.Basic

/-!
# Lists

Facts about lists that the theory of more than one part of the program rests on: what is left when
elements are dropped or filtered from one end, and what is found in a list of pairs.
-/

namespace List

/-- Dropping from the right reaches the first element only if all others go. -/
theorem rdropWhile_cons {α : Type*} (p : α → Bool) (a : α) (l : List α) :
    (a :: l).rdropWhile p =
      if l.rdropWhile p = [] then (if p a then [] else [a]) else a :: l.rdropWhile p := by
  rw [rdropWhile, reverse_cons, dropWhile_append]
  by_cases all : l.reverse.dropWhile p = []
  · by_cases head : p a = true <;> simp [rdropWhile, all, head]
  · simp [rdropWhile, all]

/-- If exactly the elements from an index on are kept, keeping them is dropping the others. -/
theorem filter_eq_drop {α : Type*} {p : α → Bool} {l : List α} {k : Nat}
    (h : ∀ (i : Nat) (a : α), l[i]? = some a → (p a = true ↔ k ≤ i)) : l.filter p = l.drop k := by
  induction l generalizing k with
  | nil => rw [filter_nil, drop_nil]
  | cons a l ih =>
    have head := h 0 a rfl
    cases k with
    | zero =>
      rw [filter_cons_of_pos (head.2 le_rfl), drop_zero,
        ih (k := 0) fun i b found ↦ (h (i + 1) b found).trans (by simp), drop_zero]
    | succ k =>
      rw [filter_cons_of_neg (by rw [head]; omega), drop_succ_cons]
      exact ih fun i b found ↦ (h (i + 1) b found).trans (by omega)

/-- Nothing is taken, and so nothing dropped, where the first element is not to be taken. -/
theorem takeWhile_of_head?_any {α : Type*} {p : α → Bool} {l : List α}
    (h : l.head?.any p = false) : l.takeWhile p = [] := by
  cases l with
  | nil => rfl
  | cons a l => exact takeWhile_cons_of_neg (by simpa using h)

theorem dropWhile_of_head?_any {α : Type*} {p : α → Bool} {l : List α}
    (h : l.head?.any p = false) : l.dropWhile p = l := by
  cases l with
  | nil => rfl
  | cons a l => exact dropWhile_cons_of_neg (by simpa using h)

/-- What is left starts with an element that is not to be dropped. -/
theorem head?_any_dropWhile {α : Type*} (p : α → Bool) (l : List α) :
    (l.dropWhile p).head?.any p = false := by
  have head := head?_dropWhile_not p l
  cases found : (l.dropWhile p).head? with
  | none => rfl
  | some a => simpa [found] using head

/-- Going through a list with what gives a result for each element gives the results. -/
theorem mapM_eq_pure_of_forall₂ {m : Type → Type} [Monad m] [LawfulMonad m] {α β : Type}
    {f : α → m β} {l : List α} {l' : List β} (h : Forall₂ (fun a b ↦ f a = pure b) l l') :
    l.mapM f = pure l' := by
  induction h with
  | nil => rw [mapM_nil]
  | cons same _ ih => rw [mapM_cons, same, pure_bind, ih, pure_bind]

/-- What stands next to a key that occurs once is what is looked up. -/
theorem lookup_eq_some_of_mem {α β : Type*} [BEq α] [LawfulBEq α] {l : List (α × β)}
    (single : (l.map Prod.fst).Nodup) {a : α} {b : β} (mem : (a, b) ∈ l) :
    l.lookup a = some b := by
  induction l with
  | nil => cases mem
  | cons entry l ih =>
    obtain ⟨key, value⟩ := entry
    rw [map_cons, nodup_cons] at single
    rcases mem_cons.1 mem with same | inside
    · cases same
      exact lookup_cons_self
    · have other : (a == key) = false := by
        rw [beq_eq_false_iff_ne]
        rintro rfl
        exact single.1 (mem_map.2 ⟨_, inside, rfl⟩)
      rw [lookup_cons, other]
      exact ih single.2 inside

end List
