import Mathlib.Data.List.Infix
import Tabstave.Text.Case.Letters

/-!
# Lower case and the ends of texts

Two questions are answered here for the lower case of a text. The first is what the case of ASCII
letters means to it: nothing, wherever they stand (`lowerCase_map_toLower`). The second is when the
lower case of an ending is an ending of the lower case. All but one kind of character change by
themselves, so the only thing in the way is a sigma at whose place the word ends with the text in
front of it, and does not end without (`suffix_lowerCase_append_iff`).

Endings of characters that only ASCII leads to are found again by changing ASCII letters alone
(`suffix_map_toLower_of_suffix`).
-/

namespace Tabstave.Text

/-! ### What a sigma sees of its neighbours -/

theorem meetsCased_cons (c : Char) (rest : List Char) :
    meetsCased (c :: rest) = if isCaseIgnorable c then meetsCased rest else isCased c := by
  rw [meetsCased, List.find?_cons]
  cases isCaseIgnorable c <;> rfl

theorem meetsCased_sigma_cons (rest : List Char) : meetsCased ('\u03a3' :: rest) = true := by
  have counts : isCaseIgnorable '\u03a3' = false := by decide +kernel
  have cased : isCased '\u03a3' = true := by decide +kernel
  rw [meetsCased_cons, counts, if_neg Bool.false_ne_true, cased]

/-- Of the text in front only the nearest letter matters. -/
theorem lowerCaseAfter_congr {before before' : List Char}
    (same : meetsCased before = meetsCased before') (text : List Char) :
    lowerCaseAfter before text = lowerCaseAfter before' text := by
  induction text generalizing before before' with
  | nil => rfl
  | cons c rest ih =>
    have later : meetsCased (c :: before) = meetsCased (c :: before') := by
      rw [meetsCased_cons, meetsCased_cons, same]
    rw [lowerCaseAfter, lowerCaseAfter, same, ih later]

/-- What a text starts with changes nothing in how its end is changed, apart from what it is to a
sigma there. -/
theorem suffix_lowerCaseAfter_append (before stem tail : List Char) :
    lowerCaseAfter (stem.reverse ++ before) tail <:+ lowerCaseAfter before (stem ++ tail) := by
  induction stem generalizing before with
  | nil => exact List.suffix_rfl
  | cons c stem ih =>
    rw [List.reverse_cons, List.append_assoc, List.singleton_append, List.cons_append,
      lowerCaseAfter]
    exact (ih (c :: before)).trans (List.suffix_append _ _)

/-- A sigma is one character, whatever becomes of it. -/
theorem length_lowerCaseAfter (before before' text : List Char) :
    (lowerCaseAfter before text).length = (lowerCaseAfter before' text).length := by
  induction text generalizing before before' with
  | nil => rfl
  | cons c rest ih =>
    rw [lowerCaseAfter, lowerCaseAfter, List.length_append, List.length_append,
      ih (c :: before) (c :: before')]
    split <;> rfl

/-- Whether the first character of a text that is not passed over is a capital sigma, and no letter
comes next after it. What stands in front of such a text decides whether the sigma ends a word. -/
def startsWithLooseSigma : List Char → Bool
  | [] => false
  | c :: rest =>
    if c = '\u03a3' then !meetsCased rest else isCaseIgnorable c && startsWithLooseSigma rest

/-- A letter in front of a text matters to nothing but a loose sigma. -/
theorem lowerCaseAfter_eq_iff {before before' : List Char} (letter : meetsCased before = true)
    (noLetter : meetsCased before' = false) (text : List Char) :
    lowerCaseAfter before text = lowerCaseAfter before' text ↔
      startsWithLooseSigma text = false := by
  induction text generalizing before before' with
  | nil => simp [lowerCaseAfter, startsWithLooseSigma]
  | cons c rest ih =>
    by_cases sigma : c = '\u03a3'
    · subst sigma
      have later := lowerCaseAfter_congr ((meetsCased_sigma_cons before).trans
        (meetsCased_sigma_cons before').symm) rest
      have differ : ('\u03c2' : Char) ≠ '\u03c3' := by decide
      rw [lowerCaseAfter, lowerCaseAfter, later, List.append_cancel_right_eq, letter, noLetter,
        startsWithLooseSigma]
      cases meetsCased rest <;> simp [differ]
    · rw [lowerCaseAfter, lowerCaseAfter, if_neg sigma, if_neg sigma, List.append_cancel_left_eq,
        startsWithLooseSigma, if_neg sigma]
      cases passed : isCaseIgnorable c with
      | true =>
        rw [Bool.true_and]
        exact ih (by rw [meetsCased_cons, passed, if_pos rfl, letter])
          (by rw [meetsCased_cons, passed, if_pos rfl, noLetter])
      | false =>
        have nearest : meetsCased (c :: before) = meetsCased (c :: before') := by
          rw [meetsCased_cons, meetsCased_cons, passed]
          rfl
        simp [lowerCaseAfter_congr nearest rest]

/-- **The lower case of an ending is an ending of the lower case**, unless a letter comes before it
and it starts with a loose sigma. -/
theorem suffix_lowerCase_append_iff (stem tail : List Char) :
    lowerCase tail <:+ lowerCase (stem ++ tail) ↔
      (meetsCased stem.reverse && startsWithLooseSigma tail) = false := by
  have ending := suffix_lowerCaseAfter_append [] stem tail
  rw [List.append_nil] at ending
  have same : lowerCase tail <:+ lowerCase (stem ++ tail) ↔
      lowerCaseAfter stem.reverse tail = lowerCase tail := by
    constructor
    · intro ends
      have lengths := length_lowerCaseAfter stem.reverse [] tail
      exact (List.suffix_of_suffix_length_le ending ends lengths.le).eq_of_length lengths
    · intro equal
      rwa [equal] at ending
  rw [same]
  cases letter : meetsCased stem.reverse with
  | true => exact lowerCaseAfter_eq_iff letter rfl tail
  | false => exact iff_of_true (lowerCaseAfter_congr letter tail) rfl

/-! ### ASCII letters -/

/-- The capital letters of ASCII. -/
def asciiCapitals : List Char :=
  "ABCDEFGHIJKLMNOPQRSTUVWXYZ".toList

theorem toLower_eq_self_or_mem (c : Char) : c.toLower = c ∨ c ∈ asciiCapitals := by
  unfold Char.toLower
  split
  · next capital =>
    have low : 65 ≤ c.toNat := capital.1
    have high : c.toNat ≤ 90 := capital.2
    have listed : ∀ n < 26, Char.ofNat (65 + n) ∈ asciiCapitals := by decide
    have found := listed (c.toNat - 65) (by omega)
    rw [Nat.add_sub_cancel' low, Char.ofNat_toNat] at found
    exact .inr found
  · exact .inl rfl

/-- What is the same for each capital letter of ASCII and its small letter is so for all
characters. -/
theorem apply_toLower {α : Type} [DecidableEq α] {f : Char → α}
    (capitals : (asciiCapitals.all fun c ↦ f c.toLower == f c) = true) (c : Char) :
    f c.toLower = f c := by
  rcases toLower_eq_self_or_mem c with same | capital
  · rw [same]
  · exact eq_of_beq (List.all_eq_true.1 capitals c capital)

theorem lowerChar_toLower (c : Char) : lowerChar c.toLower = lowerChar c :=
  apply_toLower (by decide +kernel) c

theorem isCased_toLower (c : Char) : isCased c.toLower = isCased c :=
  apply_toLower (by decide +kernel) c

theorem isCaseIgnorable_toLower (c : Char) : isCaseIgnorable c.toLower = isCaseIgnorable c :=
  apply_toLower (by decide +kernel) c

theorem toLower_eq_sigma_iff (c : Char) : c.toLower = '\u03a3' ↔ c = '\u03a3' :=
  decide_eq_decide.1 (apply_toLower (f := fun c ↦ decide (c = '\u03a3')) (by decide +kernel) c)

theorem meetsCased_map_toLower (text : List Char) :
    meetsCased (text.map Char.toLower) = meetsCased text := by
  induction text with
  | nil => rfl
  | cons c rest ih =>
    rw [List.map_cons, meetsCased_cons, meetsCased_cons, isCaseIgnorable_toLower, isCased_toLower,
      ih]

theorem lowerCaseAfter_map_toLower (before text : List Char) :
    lowerCaseAfter before (text.map Char.toLower) = lowerCaseAfter before text := by
  induction text generalizing before with
  | nil => rfl
  | cons c rest ih =>
    have later : meetsCased (c.toLower :: before) = meetsCased (c :: before) := by
      rw [meetsCased_cons, meetsCased_cons, isCaseIgnorable_toLower, isCased_toLower]
    rw [List.map_cons, lowerCaseAfter, lowerCaseAfter, meetsCased_map_toLower, lowerChar_toLower,
      ih, lowerCaseAfter_congr later rest]
    simp only [toLower_eq_sigma_iff]

/-- **The case of ASCII letters makes no difference to the lower case of a text.** -/
theorem lowerCase_map_toLower (text : List Char) :
    lowerCase (text.map Char.toLower) = lowerCase text :=
  lowerCaseAfter_map_toLower [] text

/-! ### Endings that only ASCII leads to -/

/-- Whether a character is one of ASCII that is the lower case of no other character beyond ASCII:
neither the i, which the capital I with a dot above leads to, nor the k, which the sign for kelvin
leads to. -/
def isPlain (c : Char) : Bool :=
  0 < c.toNat && c.toNat < 0x80 && c != 'i' && c != 'k'

theorem isPlain_ofNat {n : Nat} (beyond : 0x80 ≤ n) : isPlain (Char.ofNat n) = false := by
  have large : decide (n < 0x80) = false := decide_eq_false (Nat.not_lt.2 beyond)
  by_cases valid : n.isValidChar
  · have code : (Char.ofNatAux n valid).toNat = n := rfl
    rw [Char.ofNat, dif_pos valid, isPlain, code, large, Bool.and_false, Bool.false_and,
      Bool.false_and]
  · rw [Char.ofNat, dif_neg valid]
    rfl

/-- Beyond ASCII the runs lead to nothing plain. -/
theorem isPlain_mapByRuns {c : Char} (beyond : 0x80 ≤ c.toNat) :
    isPlain (mapByRuns lowerRuns c) = false := by
  have leads : ∀ run ∈ lowerRuns, run.last < 0x80 ∨ 0x80 ≤ run.first + run.shift ∨
      run.first = 0x212a ∧ run.last = 0x212a ∧ run.shift = 0x6b - 0x212a := by
    decide +kernel
  rw [mapByRuns]
  split
  · next run found =>
    have fits := List.find?_some found
    rw [CaseRun.maps, Bool.and_eq_true, Bool.and_eq_true, decide_eq_true_eq, decide_eq_true_eq]
      at fits
    obtain ⟨⟨low, high⟩, -⟩ := fits
    rcases leads run (List.mem_of_find?_eq_some found) with ascii | far | ⟨first, last, shift⟩
    · omega
    · exact isPlain_ofNat (by omega)
    · obtain kelvin : c.toNat = 0x212a := by omega
      rw [kelvin, shift]
      rfl
  · rw [isPlain]
    simp [Nat.not_lt.2 beyond]

/-- What a character becomes, if it is not the small letter of ASCII alone, has nothing plain. -/
theorem lowerChar_cases (c : Char) :
    lowerChar c = [c.toLower] ∨ lowerChar c ≠ [] ∧ ∀ d ∈ lowerChar c, isPlain d = false := by
  by_cases ascii : c.toNat < 0x80
  · have alone : ∀ n < 0x80, lowerChar (Char.ofNat n) = [(Char.ofNat n).toLower] := by
      decide +kernel
    rw [← Char.ofNat_toNat c]
    exact .inl (alone c.toNat ascii)
  · rw [lowerChar, if_neg ascii]
    split
    · exact .inr ⟨List.cons_ne_nil _ _, by simp [isPlain]⟩
    · exact .inr ⟨List.cons_ne_nil _ _,
        List.forall_mem_singleton.2 (isPlain_mapByRuns (Nat.not_lt.1 ascii))⟩

theorem exists_lowerCaseAfter_cons (before : List Char) (c : Char) (rest : List Char) :
    ∃ lowered, lowerCaseAfter before (c :: rest) = lowered ++ lowerCaseAfter (c :: before) rest ∧
      (lowered = [c.toLower] ∨ lowered ≠ [] ∧ ∀ d ∈ lowered, isPlain d = false) := by
  refine ⟨_, rfl, ?_⟩
  split
  · refine .inr ⟨List.cons_ne_nil _ _, List.forall_mem_singleton.2 ?_⟩
    split <;> decide
  · exact lowerChar_cases c

/-- A lower case that is plain as a whole is that of ASCII. -/
theorem lowerCaseAfter_eq_of_isPlain {before text : List Char}
    (plain : ∀ d ∈ lowerCaseAfter before text, isPlain d = true) :
    lowerCaseAfter before text = text.map Char.toLower := by
  induction text generalizing before with
  | nil => rfl
  | cons c rest ih =>
    obtain ⟨lowered, parts, alone | ⟨some, others⟩⟩ := exists_lowerCaseAfter_cons before c rest
    · rw [parts] at plain ⊢
      rw [alone, ih fun d mem ↦ plain d (List.mem_append_right _ mem)]
      rfl
    · obtain ⟨d, mem⟩ := List.exists_mem_of_ne_nil _ some
      rw [parts] at plain
      have contra := plain d (List.mem_append_left _ mem)
      rw [others d mem] at contra
      cases contra

/-- An ending that is plain is there already when only ASCII letters are changed. -/
theorem suffix_map_toLower_of_suffix {tail : List Char} (plain : ∀ d ∈ tail, isPlain d = true)
    {before text : List Char} (ends : tail <:+ lowerCaseAfter before text) :
    tail <:+ text.map Char.toLower := by
  induction text generalizing before with
  | nil => exact ends
  | cons c rest ih =>
    obtain ⟨lowered, parts, kept⟩ := exists_lowerCaseAfter_cons before c rest
    rw [parts] at ends
    have later := List.suffix_append lowered (lowerCaseAfter (c :: before) rest)
    rcases Nat.le_total tail.length (lowerCaseAfter (c :: before) rest).length with short | long
    · exact (ih (List.suffix_of_suffix_length_le ends later short)).trans (List.suffix_cons _ _)
    · -- The ending takes in all that comes after the character, and a part of what it becomes.
      obtain ⟨start, rfl⟩ := List.suffix_of_suffix_length_le later ends long
      rw [lowerCaseAfter_eq_of_isPlain fun d mem ↦ plain d (List.mem_append_right _ mem)] at ends ⊢
      rcases kept with alone | ⟨-, others⟩
      · rwa [alone] at ends
      · have inside := List.suffix_append_self_iff.1 ends
        have nothing : start = [] := List.eq_nil_iff_forall_not_mem.2 fun d mem ↦ by
          have contra := plain d (List.mem_append_left _ mem)
          rw [others d (inside.subset mem)] at contra
          cases contra
        rw [nothing]
        exact List.suffix_cons _ _

end Tabstave.Text
