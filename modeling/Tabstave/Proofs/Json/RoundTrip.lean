import Tabstave.Proofs.Json.Reader

/-!
# What is written is read back

Whatever the layout, a document that is written is read as it was, if it holds no infinities and the
unit of indentation is white space (`read_render`). The proof follows the document: what is read of
a part does not depend on what stands behind it, as long as that does not look like more of a
number, and behind a part of a document stands a comma, a bracket or a line break.
-/

namespace Tabstave.Json

open Reader

/-- All binary numbers in a document are finite. -/
inductive Finite : Json → Prop
  | null : Finite .null
  | bool (b : Bool) : Finite (.bool b)
  | int (n : Int) : Finite (.int n)
  | float {x : Binary64} (finite : x.magnitude?.isSome) : Finite (.float x)
  | str (s : String) : Finite (.str s)
  | arr {items : List Json} (all : ∀ item ∈ items, Finite item) : Finite (.arr items)
  | obj {members : List (String × Json)} (all : ∀ member ∈ members, Finite member.2) :
    Finite (.obj members)

/-- What a layout indents by is white space. -/
def Layout.IsBlank : Layout → Prop
  | .compact => True
  | .indented _ unit => ∀ c ∈ unit, isGap c = true

/-! ### Gaps -/

theorem skip_append {gap : List Char} (blank : ∀ c ∈ gap, isGap c = true) (text : List Char) :
    skip (gap ++ text) = skip text :=
  List.dropWhile_append_of_pos blank

theorem skip_of_head? {text : List Char} (h : ∀ c ∈ text.head?, isGap c = false) :
    skip text = text := by
  cases text with
  | nil => rfl
  | cons c rest => exact List.dropWhile_cons_of_neg (by simp [h c rfl])

theorem isGap_of_mem_lineBreak {layout : Layout} (blank : layout.IsBlank) {level : Nat} {c : Char}
    (mem : c ∈ layout.lineBreak level) : isGap c = true := by
  cases layout with
  | compact => cases mem
  | indented count unit =>
    rcases List.mem_cons.1 mem with rfl | mem
    · rfl
    · obtain ⟨_, copies, mem⟩ := List.mem_flatten.1 mem
      rw [List.eq_of_mem_replicate copies] at mem
      exact blank c mem

theorem skip_lineBreak {layout : Layout} (blank : layout.IsBlank) (level : Nat)
    (text : List Char) : skip (layout.lineBreak level ++ text) = skip text :=
  skip_append (fun _ ↦ isGap_of_mem_lineBreak blank) text

/-- Between two parts there is a comma, and then white space. -/
theorem exists_separator (layout : Layout) :
    ∃ gap, layout.separator = ',' :: gap ∧ ∀ c ∈ gap, isGap c = true := by
  cases layout with
  | compact => exact ⟨[' '], rfl, List.forall_mem_singleton.2 rfl⟩
  | indented count unit => exact ⟨[], rfl, List.forall_mem_nil _⟩

/-! ### The start of a part -/

/-- A text starts with a character that neither is white space nor closes a list of items. -/
def Starts (text : List Char) : Prop :=
  ∃ c ∈ text.head?, isGap c = false ∧ c ≠ ']'

theorem Starts.skip_append {text : List Char} (starts : Starts text) (rest : List Char) :
    skip (text ++ rest) = text ++ rest ∧ pass? ']' (text ++ rest) = none := by
  obtain ⟨c, head, noGap, noClose⟩ := starts
  have same : (text ++ rest).head? = some c := by
    rw [List.head?_append, head, Option.some_or]
  refine ⟨skip_of_head? fun d first ↦ ?_, pass?_of_head?_ne fun close ↦ ?_⟩
  · obtain rfl := Option.some.inj (same.symm.trans first)
    exact noGap
  · exact noClose (Option.some.inj (same.symm.trans close))

/-- A number starts with a digit or a minus sign. -/
theorem Numeral.WellFormed.exists_head? {numeral : Numeral} (wellFormed : numeral.WellFormed) :
    ∃ c ∈ numeral.text.head?, c = '-' ∨ c.isDigit = true := by
  obtain ⟨negative, whole, fraction, exponent⟩ := numeral
  cases negative with
  | true => exact ⟨'-', rfl, .inl rfl⟩
  | false =>
    cases whole with
    | nil => exact absurd rfl wellFormed.whole_ne_nil
    | cons d whole => exact ⟨d, rfl, .inr (wellFormed.whole d List.mem_cons_self)⟩

theorem Numeral.WellFormed.starts {numeral : Numeral} (wellFormed : numeral.WellFormed) :
    Starts numeral.text := by
  obtain ⟨c, head, first⟩ := wellFormed.exists_head?
  refine ⟨c, head, ?_, ?_⟩
  · by_contra gap
    simp only [isGap, Bool.not_eq_false, Bool.or_eq_true, beq_iff_eq] at gap
    rcases gap with ((rfl | rfl) | rfl) | rfl <;> exact absurd first (by decide)
  · rintro rfl
    exact absurd first (by decide)

theorem starts_render (layout : Layout) (level : Nat) {json : Json} (finite : json.Finite) :
    Starts (render layout level json) := by
  cases finite with
  | null => exact ⟨'n', rfl, rfl, by decide⟩
  | bool b => cases b <;> exact ⟨_, rfl, rfl, by decide⟩
  | int n =>
    rw [render, ← Numeral.text_ofInt]
    exact (Numeral.wellFormed_ofInt n).starts
  | float finite =>
    obtain ⟨numeral, wellFormed, text, -⟩ := Numeral.exists_of_finite finite
    rw [render, ← text]
    exact wellFormed.starts
  | str s => exact ⟨'"', rfl, rfl, by decide⟩
  | @arr items all => cases items <;> exact ⟨'[', rfl, rfl, by decide⟩
  | @obj members all => cases members <;> exact ⟨'\x7b', rfl, rfl, by decide⟩

/-- What starts with a digit or a minus sign is read as a number. -/
theorem value?_eq_number? {text : List Char} {c : Char} (head : text.head? = some c)
    (first : c = '-' ∨ c.isDigit = true) (fuel : Nat) :
    value? (fuel + 1) text = number? text := by
  have other {mark : Char} (no_number : ¬(mark = '-' ∨ mark.isDigit = true)) :
      ¬text.head? = some mark := by
    rw [head]
    rintro ⟨⟩
    exact no_number first
  rw [value?, if_neg (other (by decide)), if_neg (other (by decide)), if_neg (other (by decide)),
    if_neg (other (by decide)), if_neg (other (by decide)), if_neg (other (by decide))]

theorem value?_numeral {numeral : Numeral} (wellFormed : numeral.WellFormed) {rest : List Char}
    (ends : Ends rest) {fuel : Nat} (enough : numeral.text.length ≤ fuel) :
    value? fuel (numeral.text ++ rest) = some (numeral.value, rest) := by
  obtain ⟨c, head, first⟩ := wellFormed.exists_head?
  have same : (numeral.text ++ rest).head? = some c := by
    rw [List.head?_append, head, Option.some_or]
  cases fuel with
  | zero =>
    rw [List.eq_nil_of_length_eq_zero (Nat.le_zero.1 enough)] at head
    cases head
  | succ fuel => rw [value?_eq_number? same first, number?_append wellFormed ends]

/-! ### The end of a part -/

/-- Behind an item comes another one, or the closing bracket. -/
theorem ends_renderItems (layout : Layout) (level outer : Nat) (items : List Json)
    (rest : List Char) :
    Ends (renderItems layout level items ++ (layout.lineBreak outer ++ ']' :: rest)) := by
  rintro c head
  cases items with
  | nil => cases layout <;> cases head <;> simp
  | cons item items => cases layout <;> cases head <;> simp

/-- Behind a member comes another one, or the closing brace. -/
theorem ends_renderMembers (layout : Layout) (level outer : Nat) (members : List (String × Json))
    (rest : List Char) :
    Ends (renderMembers layout level members ++ (layout.lineBreak outer ++ '\x7d' :: rest)) := by
  rintro c head
  cases members with
  | nil => cases layout <;> cases head <;> simp
  | cons member members => cases layout <;> cases head <;> simp

/-! ### Documents -/

section Render

variable {layout : Layout} (blank : layout.IsBlank)

theorem value?_string (s : String) (rest : List Char) {fuel : Nat} (enough : 0 < fuel) :
    value? fuel (renderString s ++ rest) = some (.str s, rest) := by
  cases fuel with
  | zero => cases enough
  | succ fuel =>
    have quote : (renderString s ++ rest).head? = some '"' := rfl
    rw [value?, if_pos quote, string?_renderString]
    rfl

include blank

/-- An array is read if its first item is and the others are. -/
theorem value?_array {item : Json} {items : List Json} (finite : item.Finite) {level fuel : Nat}
    {rest : List Char}
    (first : value? fuel (render layout (level + 1) item ++
      (renderItems layout (level + 1) items ++ (layout.lineBreak level ++ ']' :: rest))) =
        some (item, renderItems layout (level + 1) items ++
          (layout.lineBreak level ++ ']' :: rest)))
    (others : items? fuel (skip (renderItems layout (level + 1) items ++
      (layout.lineBreak level ++ ']' :: rest))) = some (items, rest)) :
    value? (fuel + 1) (render layout level (.arr (item :: items)) ++ rest) =
      some (.arr (item :: items), rest) := by
  have parts : render layout level (.arr (item :: items)) ++ rest =
      '[' :: (layout.lineBreak (level + 1) ++ (render layout (level + 1) item ++
        (renderItems layout (level + 1) items ++ (layout.lineBreak level ++ ']' :: rest)))) := by
    simp [render]
  obtain ⟨unskipped, unclosed⟩ := (starts_render layout (level + 1) finite).skip_append
    (renderItems layout (level + 1) items ++ (layout.lineBreak level ++ ']' :: rest))
  have noQuote : ¬(some '[' : Option Char) = some '"' := by decide
  rw [parts, value?, List.head?_cons, if_neg noQuote, if_pos rfl, List.tail_cons,
    skip_lineBreak blank, unskipped, unclosed]
  simp only [first, others, Option.bind_eq_bind, Option.bind_some, Option.pure_def]

/-- An item after the first is read behind its comma. -/
theorem items?_cons {item : Json} {items : List Json} (finite : item.Finite)
    {level outer fuel : Nat} {rest : List Char}
    (first : value? fuel (render layout level item ++
      (renderItems layout level items ++ (layout.lineBreak outer ++ ']' :: rest))) =
        some (item, renderItems layout level items ++ (layout.lineBreak outer ++ ']' :: rest)))
    (others : items? fuel (skip (renderItems layout level items ++
      (layout.lineBreak outer ++ ']' :: rest))) = some (items, rest)) :
    items? (fuel + 1) (skip (renderItems layout level (item :: items) ++
      (layout.lineBreak outer ++ ']' :: rest))) = some (item :: items, rest) := by
  obtain ⟨gap, separator, isBlank⟩ := exists_separator layout
  have parts : renderItems layout level (item :: items) ++ (layout.lineBreak outer ++ ']' :: rest) =
      ',' :: (gap ++ (layout.lineBreak level ++ (render layout level item ++
        (renderItems layout level items ++ (layout.lineBreak outer ++ ']' :: rest))))) := by
    simp [renderItems, separator]
  obtain ⟨unskipped, -⟩ := (starts_render layout level finite).skip_append
    (renderItems layout level items ++ (layout.lineBreak outer ++ ']' :: rest))
  have comma (text : List Char) : skip (',' :: text) = ',' :: text := rfl
  have unclosed (text : List Char) : pass? ']' (',' :: text) = none := rfl
  rw [parts, comma, items?, unclosed]
  simp only [pass?_cons, skip_append isBlank, skip_lineBreak blank, unskipped, first, others,
    Option.bind_eq_bind, Option.bind_some, Option.pure_def]

omit blank in
/-- A key is read, and so is the gap up to its value. -/
theorem key?_append (key : String) (text : List Char) :
    key? (renderString key ++ ':' :: ' ' :: text) = some (key, skip text) := by
  have colon (text : List Char) : skip (':' :: text) = ':' :: text := rfl
  have space (text : List Char) : skip (' ' :: text) = skip text := rfl
  simp only [key?, string?_renderString, colon, pass?_cons, space, Option.bind_eq_bind,
    Option.bind_some, Option.pure_def]

/-- An object is read if its first member is and the others are. -/
theorem value?_object {key : String} {value : Json} {members : List (String × Json)}
    (finite : value.Finite) {level fuel : Nat} {rest : List Char}
    (first : value? fuel (render layout (level + 1) value ++
      (renderMembers layout (level + 1) members ++ (layout.lineBreak level ++ '\x7d' :: rest))) =
        some (value, renderMembers layout (level + 1) members ++
          (layout.lineBreak level ++ '\x7d' :: rest)))
    (others : members? fuel (skip (renderMembers layout (level + 1) members ++
      (layout.lineBreak level ++ '\x7d' :: rest))) = some (members, rest)) :
    value? (fuel + 1) (render layout level (.obj ((key, value) :: members)) ++ rest) =
      some (.obj ((key, value) :: members), rest) := by
  have parts : render layout level (.obj ((key, value) :: members)) ++ rest =
      '\x7b' :: (layout.lineBreak (level + 1) ++ (renderString key ++ ':' :: ' ' ::
        (render layout (level + 1) value ++ (renderMembers layout (level + 1) members ++
          (layout.lineBreak level ++ '\x7d' :: rest))))) := by
    simp [render]
  obtain ⟨unskipped, -⟩ := (starts_render layout (level + 1) finite).skip_append
    (renderMembers layout (level + 1) members ++ (layout.lineBreak level ++ '\x7d' :: rest))
  have keyed (text : List Char) : skip (renderString key ++ text) = renderString key ++ text := rfl
  have unclosed (text : List Char) : pass? '\x7d' (renderString key ++ text) = none := rfl
  have noQuote : ¬(some '\x7b' : Option Char) = some '"' := by decide
  have noBracket : ¬(some '\x7b' : Option Char) = some '[' := by decide
  rw [parts, value?, List.head?_cons, if_neg noQuote, if_neg noBracket, if_pos rfl, List.tail_cons,
    skip_lineBreak blank, keyed, unclosed]
  simp only [key?_append, unskipped, first, others, Option.bind_eq_bind, Option.bind_some,
    Option.pure_def]

/-- A member after the first is read behind its comma. -/
theorem members?_cons {key : String} {value : Json} {members : List (String × Json)}
    (finite : value.Finite) {level outer fuel : Nat} {rest : List Char}
    (first : value? fuel (render layout level value ++
      (renderMembers layout level members ++ (layout.lineBreak outer ++ '\x7d' :: rest))) =
        some (value, renderMembers layout level members ++
          (layout.lineBreak outer ++ '\x7d' :: rest)))
    (others : members? fuel (skip (renderMembers layout level members ++
      (layout.lineBreak outer ++ '\x7d' :: rest))) = some (members, rest)) :
    members? (fuel + 1) (skip (renderMembers layout level ((key, value) :: members) ++
      (layout.lineBreak outer ++ '\x7d' :: rest))) = some ((key, value) :: members, rest) := by
  obtain ⟨gap, separator, isBlank⟩ := exists_separator layout
  have parts : renderMembers layout level ((key, value) :: members) ++
      (layout.lineBreak outer ++ '\x7d' :: rest) =
        ',' :: (gap ++ (layout.lineBreak level ++ (renderString key ++ ':' :: ' ' ::
          (render layout level value ++ (renderMembers layout level members ++
            (layout.lineBreak outer ++ '\x7d' :: rest)))))) := by
    simp [renderMembers, separator]
  obtain ⟨unskipped, -⟩ := (starts_render layout level finite).skip_append
    (renderMembers layout level members ++ (layout.lineBreak outer ++ '\x7d' :: rest))
  have keyed (text : List Char) : skip (renderString key ++ text) = renderString key ++ text := rfl
  have comma (text : List Char) : skip (',' :: text) = ',' :: text := rfl
  have unclosed (text : List Char) : pass? '\x7d' (',' :: text) = none := rfl
  rw [parts, comma, members?, unclosed]
  simp only [pass?_cons, skip_append isBlank, skip_lineBreak blank, keyed, key?_append, unskipped,
    first, others, Option.bind_eq_bind, Option.bind_some, Option.pure_def]

-- The induction is on the document, and the fuel is enough as each part is shorter than the whole.
mutual

/-- A part of a document is read as it was, whatever stands behind it. -/
theorem value?_render : ∀ {json : Json} (level : Nat) {fuel : Nat} {rest : List Char},
    json.Finite → (render layout level json).length ≤ fuel → Ends rest →
      value? fuel (render layout level json ++ rest) = some (json, rest)
  | .null, level, 0, rest, finite, enough, ends => by cases enough
  | .null, level, fuel + 1, rest, finite, enough, ends => rfl
  | .bool b, level, 0, rest, finite, enough, ends => by cases b <;> cases enough
  | .bool b, level, fuel + 1, rest, finite, enough, ends => by cases b <;> rfl
  | .int n, level, fuel, rest, finite, enough, ends => by
    rw [render, ← Numeral.text_ofInt] at enough ⊢
    rw [value?_numeral (Numeral.wellFormed_ofInt n) ends enough, Numeral.value_ofInt]
  | .float x, level, fuel, rest, finite, enough, ends => by
    cases finite with
    | float finite =>
      obtain ⟨numeral, wellFormed, text, value⟩ := Numeral.exists_of_finite finite
      rw [render, ← text] at enough ⊢
      rw [value?_numeral wellFormed ends enough, value]
  | .str s, level, fuel, rest, finite, enough, ends =>
    value?_string s rest (Nat.lt_of_lt_of_le (Nat.succ_pos _) enough)
  | .arr [], level, 0, rest, finite, enough, ends => by cases enough
  | .arr [], level, fuel + 1, rest, finite, enough, ends => rfl
  | .arr (item :: items), level, 0, rest, finite, enough, ends => by
    simp [render] at enough
  | .arr (item :: items), level, fuel + 1, rest, finite, enough, ends => by
    cases finite with
    | arr all =>
      obtain ⟨finite, all⟩ := List.forall_mem_cons.1 all
      simp only [render, List.length_append, List.length_cons] at enough
      have closed := ends_renderItems layout (level + 1) level items rest
      exact value?_array blank finite (value?_render (level + 1) finite (by omega) closed)
        (items?_renderItems (level + 1) level all (by omega))
  | .obj [], level, 0, rest, finite, enough, ends => by cases enough
  | .obj [], level, fuel + 1, rest, finite, enough, ends => rfl
  | .obj (_ :: _), level, 0, rest, finite, enough, ends => by simp [render] at enough
  | .obj ((key, value) :: members), level, fuel + 1, rest, finite, enough, ends => by
    cases finite with
    | obj all =>
      obtain ⟨finite, all⟩ : value.Finite ∧ ∀ member ∈ members, member.2.Finite :=
        List.forall_mem_cons.1 all
      simp only [render, List.length_append, List.length_cons] at enough
      have closed := ends_renderMembers layout (level + 1) level members rest
      exact value?_object blank finite (value?_render (level + 1) finite (by omega) closed)
        (members?_renderMembers (level + 1) level all (by omega))

/-- The items after the first are read, to the closing bracket. -/
theorem items?_renderItems : ∀ {items : List Json} (level outer : Nat) {fuel : Nat}
    {rest : List Char}, (∀ item ∈ items, item.Finite) →
      (renderItems layout level items).length < fuel →
        items? fuel (skip (renderItems layout level items ++
          (layout.lineBreak outer ++ ']' :: rest))) = some (items, rest)
  | _, level, outer, 0, rest, all, enough => absurd enough (Nat.not_lt_zero _)
  | [], level, outer, fuel + 1, rest, all, enough => by
    rw [renderItems, List.nil_append, skip_lineBreak blank]
    rfl
  | item :: items, level, outer, fuel + 1, rest, all, enough => by
    obtain ⟨finite, all⟩ := List.forall_mem_cons.1 all
    obtain ⟨gap, separator, -⟩ := exists_separator layout
    simp only [renderItems, separator, List.length_append, List.length_cons] at enough
    have closed := ends_renderItems layout level outer items rest
    exact items?_cons blank finite (value?_render level finite (by omega) closed)
      (items?_renderItems level outer all (by omega))

/-- The members after the first are read, to the closing brace. -/
theorem members?_renderMembers : ∀ {members : List (String × Json)} (level outer : Nat)
    {fuel : Nat} {rest : List Char}, (∀ member ∈ members, member.2.Finite) →
      (renderMembers layout level members).length < fuel →
        members? fuel (skip (renderMembers layout level members ++
          (layout.lineBreak outer ++ '\x7d' :: rest))) = some (members, rest)
  | _, level, outer, 0, rest, all, enough => absurd enough (Nat.not_lt_zero _)
  | [], level, outer, fuel + 1, rest, all, enough => by
    rw [renderMembers, List.nil_append, skip_lineBreak blank]
    rfl
  | (key, value) :: members, level, outer, fuel + 1, rest, all, enough => by
    obtain ⟨finite, all⟩ : value.Finite ∧ ∀ member ∈ members, member.2.Finite :=
      List.forall_mem_cons.1 all
    obtain ⟨gap, separator, -⟩ := exists_separator layout
    simp only [renderMembers, separator, List.length_append, List.length_cons] at enough
    have closed := ends_renderMembers layout level outer members rest
    exact members?_cons blank finite (value?_render level finite (by omega) closed)
      (members?_renderMembers level outer all (by omega))

end

/-- **What is written is read back.** -/
theorem read_render {json : Json} (finite : json.Finite) :
    read (render layout 0 json) = some json := by
  have ends : Ends [] := by rintro c ⟨⟩
  have first := (starts_render layout 0 finite).skip_append []
  have whole := value?_render blank 0 finite le_rfl ends
  rw [List.append_nil] at first whole
  simp only [read, first.1, whole, Option.bind_eq_bind, Option.bind_some]
  rfl

end Render

end Tabstave.Json
