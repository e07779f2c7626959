import Mathlib.Data.List.Infix
import Tabstave.Document.Name

/-!
# The case of extensions

The test for an extension compares names in lower case. A tail of letters that are in lower case
already stays as it is, whatever stands before it (`suffix_lowerCaseAfter`), so a name that ends
with an extension in lower case has it. It has no other extension, unless one of them ends with the
other: so the names of documents in explicit form are not those of documents in short form.
-/

namespace Tabstave

namespace Text

/-- Whether a character is one of ASCII but no capital letter. -/
def isSteady (c : Char) : Bool :=
  c.toNat < 0x41 || 0x5a < c.toNat && c.toNat < 0x80

section Steady

variable {c : Char} (steady : isSteady c = true)

include steady

theorem ne_sigma_of_isSteady : c ≠ '\u03a3' := by
  rintro rfl
  exact absurd steady (by decide)

theorem lowerChar_of_isSteady : lowerChar c = [c] := by
  rw [isSteady, Bool.or_eq_true, Bool.and_eq_true, decide_eq_true_eq, decide_eq_true_eq,
    decide_eq_true_eq] at steady
  have ascii : c.toNat < 0x80 := by omega
  have notCapital : ¬(('A' ≤ c && c ≤ 'Z') = true) := by
    rw [Bool.and_eq_true, decide_eq_true_eq, decide_eq_true_eq]
    rintro ⟨low, high⟩
    have low : 0x41 ≤ c.toNat := low
    have high : c.toNat ≤ 0x5a := high
    omega
  rw [lowerChar, if_pos ascii, if_neg notCapital]

end Steady

theorem lowerCaseAfter_eq_self {tail : List Char} (steady : tail.all isSteady = true)
    (before : List Char) : lowerCaseAfter before tail = tail := by
  induction tail generalizing before with
  | nil => rfl
  | cons c rest ih =>
    obtain ⟨here, later⟩ := Bool.and_eq_true_iff.1 (List.all_cons.symm.trans steady)
    rw [lowerCaseAfter, if_neg (ne_sigma_of_isSteady here), lowerChar_of_isSteady here, ih later,
      List.singleton_append]

/-- A tail in lower case stays, whatever becomes of what stands before it. -/
theorem suffix_lowerCaseAfter {tail : List Char} (steady : tail.all isSteady = true)
    (before text : List Char) : tail <:+ lowerCaseAfter before (text ++ tail) := by
  induction text generalizing before with
  | nil =>
    rw [List.nil_append, lowerCaseAfter_eq_self steady]
  | cons c text ih =>
    rw [List.cons_append, lowerCaseAfter]
    exact (ih (c :: before)).trans (List.suffix_append _ _)

end Text

namespace Document

/-- A name that ends with an extension in lower case has it. -/
theorem hasExtension_of_suffix {name extension : List Char}
    (steady : extension.all Text.isSteady = true) (ends : extension <:+ name) :
    hasExtension name extension = true := by
  obtain ⟨stem, rfl⟩ := ends
  rw [hasExtension, List.isSuffixOf_iff_suffix, Text.lowerCase, Text.lowerCaseAfter_eq_self steady]
  exact Text.suffix_lowerCaseAfter steady [] stem

/-- A name has two extensions only if one of them ends with the other. -/
theorem suffix_or_suffix_of_hasExtension {name extension other : List Char}
    (has : hasExtension name extension = true) (hasOther : hasExtension name other = true) :
    Text.lowerCase extension <:+ Text.lowerCase other ∨
      Text.lowerCase other <:+ Text.lowerCase extension := by
  rw [hasExtension, List.isSuffixOf_iff_suffix] at has hasOther
  exact List.suffix_or_suffix_of_suffix has hasOther

/-- A name ends like that of a document in explicit form. -/
def IsExplicitName (name : String) : Prop :=
  ".vt".toList <:+ name.toList ∨ ".vextab".toList <:+ name.toList

section Explicit

variable {name : String} (explicit : IsExplicitName name)

include explicit

theorem IsExplicitName.exists_hasExtension : ∃ extension ∈ [".vt", ".vextab"],
    hasExtension name.toList extension.toList = true := by
  rcases explicit with ends | ends
  · exact ⟨".vt", by decide, hasExtension_of_suffix (by decide) ends⟩
  · exact ⟨".vextab", by decide, hasExtension_of_suffix (by decide) ends⟩

theorem IsExplicitName.toList_ne_nil : name.toList ≠ [] := by
  intro nothing
  rw [IsExplicitName, nothing] at explicit
  revert explicit
  decide

/-- The name is that of a document. -/
theorem IsExplicitName.hasName_documentExtensions :
    hasName (some name) (.tuple (documentExtensions.map .str)) = .ok true := by
  obtain ⟨extension, mem, has⟩ := explicit.exists_hasExtension
  have some_name : name.toList.isEmpty = false :=
    List.isEmpty_eq_false_iff.2 explicit.toList_ne_nil
  have among : ∀ extension ∈ [".vt", ".vextab"], extension ∈ documentExtensions := by decide
  rw [hasName_texts, isNamed, Option.any_some, endsWithAny, some_name,
    List.any_eq_true.2 ⟨_, List.mem_map_of_mem (among extension mem), has⟩]
  rfl

/-- The name is not that of a document in short form. -/
theorem IsExplicitName.hasName_shortFormExtensions :
    hasName (some name) (.tuple (shortFormExtensions.map .str)) = .ok false := by
  obtain ⟨extension, mem, has⟩ := explicit.exists_hasExtension
  have apart : ∀ extension ∈ [".vt", ".vextab"], ∀ other ∈ shortFormExtensions,
      ¬(Text.lowerCase extension.toList <:+ Text.lowerCase other.toList ∨
        Text.lowerCase other.toList <:+ Text.lowerCase extension.toList) := by decide
  rw [hasName_texts, isNamed, Option.any_some, endsWithAny, Bool.and_eq_false_imp.2]
  intro _
  rw [List.any_eq_false]
  rintro _ inside hasOther
  obtain ⟨other, mem', rfl⟩ := List.mem_map.1 inside
  exact apart extension mem other mem' (suffix_or_suffix_of_hasExtension has hasOther)

end Explicit

end Document

end Tabstave
