import Mathlib.Data.List.Perm.Basic
import Tabstave.Json.OfValue
import Tabstave.Proofs.Lists
import Tabstave.Proofs.Sorting.Permutation

/-!
# Records as JSON objects

A record is a dictionary whose keys are texts. It becomes an object of what its members become, in
some order: in that of the record, or sorted (`yields_toJson_record`). Texts can always be told
apart, so sorting by the keys does not fail. `Json.fields?` reads an object without regard to its
order: it gives the values of the keys that are asked for, if the object has these and no others.
-/

namespace Tabstave

namespace Json

/-- The values of these keys in their order, if a document is an object of them and no others. -/
def fields? (keys : List String) : Json → Option (List Json)
  | .obj members =>
    if members.length = keys.length then keys.mapM fun key ↦ members.lookup key else none
  | _ => none

/-- An object has as many members as keys. -/
theorem fields?_eq_none {json : Json} {keys others : List String} {values : List Json}
    (fields : json.fields? keys = some values) (other : others.length ≠ keys.length) :
    json.fields? others = none := by
  cases json with
  | obj members =>
    rw [fields?] at fields
    split at fields
    · next count => rw [fields?, if_neg fun count' ↦ other (count'.symm.trans count)]
    · cases fields
  | _ => cases fields

/-- The order of the members makes no difference. -/
theorem fields?_of_perm {members named : List (String × Json)} (same : members.Perm named)
    (single : (named.map Prod.fst).Nodup) :
    (Json.obj members).fields? (named.map Prod.fst) = some (named.map Prod.snd) := by
  have single' : (members.map Prod.fst).Nodup := (same.map Prod.fst).nodup_iff.2 single
  have found : ∀ member ∈ named, members.lookup member.1 = some member.2 :=
    fun member mem ↦ List.lookup_eq_some_of_mem single' (same.mem_iff.2 mem)
  rw [fields?, if_pos (by rw [List.length_map, same.length_eq])]
  refine List.mapM_eq_pure_of_forall₂ ?_
  rw [List.forall₂_map_left_iff, List.forall₂_map_right_iff, List.forall₂_same]
  exact found

end Json

namespace Value

/-- The entries of a dictionary whose keys are texts. -/
def record (members : List (String × Value)) : Value :=
  .dict (members.map fun member ↦ (.str member.1, member.2))

variable (sortKeys : Bool)

/-- A member of a record becomes a member of an object. -/
def MemberToJson (member : String × Value) (json : String × Json) : Prop :=
  member.1 = json.1 ∧ toJson sortKeys member.2 = .ok json.2

theorem itemsToJson_eq (items : List Value) :
    itemsToJson sortKeys items = items.map fun item ↦ (item, toJson sortKeys item) := by
  induction items with
  | nil => rfl
  | cons item rest ih => rw [itemsToJson, ih, List.map_cons]

/-- A list becomes the array of what its items become. -/
theorem toJson_list {items : List Value} {jsons : List Json}
    (each : List.Forall₂ (fun item json ↦ toJson sortKeys item = .ok json) items jsons) :
    toJson sortKeys (.list items) = .ok (.arr jsons) := by
  have all : (itemsToJson sortKeys items).mapM Prod.snd = .ok jsons := by
    rw [itemsToJson_eq]
    exact List.mapM_eq_pure_of_forall₂ (List.forall₂_map_left_iff.2 each)
  rw [toJson, all]
  rfl

/-- A member as it is put in order: its key, and what its value became. -/
def written (member : String × Json) : Value × Except Fault Json :=
  (.str member.1, .ok member.2)

theorem entriesToJson_record {members : List (String × Value)} {named : List (String × Json)}
    (each : List.Forall₂ (MemberToJson sortKeys) members named) :
    entriesToJson sortKeys (members.map fun member ↦ (.str member.1, member.2)) =
      named.map written := by
  induction each with
  | nil => rfl
  | cons same _ ih => rw [List.map_cons, List.map_cons, entriesToJson, ih, same.1, same.2, written]

/-- Members that were put in order are the members of an object, in some order. -/
theorem exists_mapM_of_perm {sorted : List (Value × Except Fault Json)}
    {named : List (String × Json)} (perm : sorted.Perm (named.map written)) :
    ∃ members : List (String × Json), members.Perm named ∧
      sorted.mapM (fun (key, value) ↦ do return (← keyText key, ← value)) = .ok members := by
  obtain ⟨members, same, perm⟩ :
      Relation.Comp (List.Forall₂ fun entry member ↦ entry = written member) List.Perm
        sorted named := by
    rw [List.forall₂_comp_perm_eq_perm_comp_forall₂]
    exact ⟨_, perm, List.forall₂_map_left_iff.2 (List.forall₂_same.2 fun _ _ ↦ rfl)⟩
  refine ⟨members, perm, List.mapM_eq_pure_of_forall₂ (same.imp fun entry member same ↦ ?_)⟩
  rw [same]
  rfl

/-- **A record becomes the object of what its members become, in some order.** -/
theorem yields_toJson_record {members : List (String × Value)} {named : List (String × Json)}
    (each : List.Forall₂ (MemberToJson sortKeys) members named) :
    Yields (toJson sortKeys (record members)) fun json ↦
      ∃ members, json = .obj members ∧ members.Perm named := by
  have texts : ∀ entry ∈ named.map written, ∃ s, entry.1 = .str s := by
    intro entry mem
    obtain ⟨member, -, rfl⟩ := List.mem_map.1 mem
    exact ⟨member.1, rfl⟩
  have answers : ∀ entry : Value × Except Fault Json, (∃ s, entry.1 = .str s) →
      Sorting.Answers (fun other : Value × Except Fault Json ↦ ∃ s, other.1 = .str s)
        fun other ↦ less entry.1 other.1 := by
    rintro ⟨_, value⟩ ⟨s, rfl⟩ ⟨_, other⟩ ⟨t, rfl⟩
    exact ⟨_, rfl, trivial⟩
  have object : ∀ sorted : List (Value × Except Fault Json), sorted.Perm (named.map written) →
      Yields (do
        let members ← sorted.mapM fun (key, value) ↦ do return (← keyText key, ← value)
        return Json.obj members) fun json ↦ ∃ members, json = .obj members ∧ members.Perm named := by
    intro sorted perm
    obtain ⟨members, perm, read⟩ := exists_mapM_of_perm perm
    rw [read]
    exact .pure ⟨members, rfl, perm⟩
  rw [record, toJson, entriesToJson_record sortKeys each]
  cases sortKeys with
  | true => exact (Sorting.yields_sort answers texts).bind object
  | false => exact object _ (List.Perm.refl _)

end Value

end Tabstave
