import Mathlib.Logic.Function.Iterate
import Tabstave.Document.Outcome
import Tabstave.Proofs.Stave.Settled

/-!
# Preprocessing again and again

A buffer may be preprocessed more than once, each time over what the time before gave and under
whatever name it has by then. `Document.passes` is such a run. Its names matter only in whether they
are of short form, so it is the run of `Stave.passes`, and it cannot fail.

`Stave.Converges` says what a run comes to: nothing but the first pass in short form expands
anything. The passes before it let the source through (`converges_passes`, by induction on the run),
and those after it find a settled text, in which every line stays where it is.
-/

namespace Tabstave

namespace Stave

/-- Expand a text or let it through time and again, each time over the text of the time before. -/
def passes : List Bool → List Char → List Expansion
  | [], _ => []
  | shortForm :: later, text =>
    expandIf shortForm text :: passes later (expandIf shortForm text).text

/-- The text that a run of passes ends with. -/
def textAfter (source : List Char) (run : List Expansion) : List Char :=
  run.foldl (fun _ pass ↦ pass.text) source

/-- Carry a cursor over from pass to pass. -/
def locateThrough (run : List Expansion) (cursor : Cursor) : Cursor :=
  run.foldl (fun cursor pass ↦ pass.locate cursor) cursor

/-- Every line stays on its line and in its column. -/
def Expansion.InPlace (pass : Expansion) : Prop :=
  ∀ entry ∈ pass.lineMap, entry.expandedLine = entry.sourceLine ∧ entry.columnOffset = 0

/-- The text that passes over a source end with, given how many of them are in short form: the first
one expands it, and the others join its lines anew. -/
def convergedText (source : List Char) : Nat → List Char
  | 0 => source
  | more + 1 => Text.rejoin^[more] (expand source).text

/-- What a run of passes over a source comes to, given which of them are in short form. -/
structure Converges (shortForms : List Bool) (source : List Char) (run : List Expansion) :
    Prop where
  shortForm : run.map Expansion.shortForm = shortForms
  text : textAfter source run = convergedText source (shortForms.count true)
  /-- A cursor goes where the first pass in short form carries it. -/
  cursor : ∀ cursor, locateThrough run cursor =
    if true ∈ shortForms then (expand source).locate cursor else cursor
  /-- In all passes in short form but the first, every line stays in place. -/
  inPlace : ∀ pass ∈ (run.filter Expansion.shortForm).tail, pass.InPlace

/-! ### Passes over a settled text -/

theorem shortForm_expandIf (shortForm : Bool) (source : List Char) :
    (expandIf shortForm source).shortForm = shortForm := by
  cases shortForm <;> rfl

theorem map_shortForm_passes (shortForms : List Bool) (source : List Char) :
    (passes shortForms source).map Expansion.shortForm = shortForms := by
  induction shortForms generalizing source with
  | nil => rfl
  | cons shortForm later ih => rw [passes, List.map_cons, shortForm_expandIf, ih]

/-- Whatever the pass, a settled text has its lines joined anew at most. -/
theorem text_expandIf_of_settled {text : List Char} (h : Settled false (Text.splitLines text))
    (shortForm : Bool) :
    (expandIf shortForm text).text = Text.rejoin^[shortForm.toNat] text := by
  cases shortForm with
  | true => rw [expandIf, if_pos rfl, expand_of_settled h]; rfl
  | false => rfl

theorem settled_expandIf {text : List Char} (h : Settled false (Text.splitLines text))
    (shortForm : Bool) : Settled false (Text.splitLines (expandIf shortForm text).text) := by
  cases shortForm with
  | true => exact settled_splitLines_expand text
  | false => exact h

theorem locate_expandIf_of_settled {text : List Char} (h : Settled false (Text.splitLines text))
    (shortForm : Bool) (cursor : Cursor) : (expandIf shortForm text).locate cursor = cursor := by
  cases shortForm with
  | true =>
    rw [expandIf, if_pos rfl, expand_of_settled h]
    exact LineMap.locate_identityFrom (Text.splitLines text) cursor
  | false => rfl

theorem inPlace_expandIf_of_settled {text : List Char} (h : Settled false (Text.splitLines text))
    (shortForm : Bool) : (expandIf shortForm text).InPlace := by
  have same : (expandIf shortForm text).lineMap = (passThrough text).lineMap := by
    cases shortForm with
    | true => rw [expandIf, if_pos rfl, expand_of_settled h]; rfl
    | false => rfl
  intro entry mem
  rw [same] at mem
  obtain ⟨index, found⟩ := List.mem_iff_getElem?.1 mem
  rw [getElem?_lineMap_passThrough, Option.map_eq_some_iff] at found
  obtain ⟨line, -, rfl⟩ := found
  exact ⟨rfl, rfl⟩

/-- Over a settled text no pass does more, and so none does in a run. -/
theorem textAfter_passes_of_settled (shortForms : List Bool) {text : List Char}
    (h : Settled false (Text.splitLines text)) :
    textAfter text (passes shortForms text) = Text.rejoin^[shortForms.count true] text := by
  induction shortForms generalizing text with
  | nil => rfl
  | cons shortForm later ih =>
    have rest := ih (settled_expandIf h shortForm)
    rw [text_expandIf_of_settled h, ← Function.iterate_add_apply] at rest
    cases shortForm <;> simpa [passes, textAfter, text_expandIf_of_settled h] using rest

theorem locateThrough_passes_of_settled (shortForms : List Bool) {text : List Char}
    (h : Settled false (Text.splitLines text)) (cursor : Cursor) :
    locateThrough (passes shortForms text) cursor = cursor := by
  induction shortForms generalizing text with
  | nil => rfl
  | cons shortForm later ih =>
    rw [passes, locateThrough, List.foldl_cons, locate_expandIf_of_settled h]
    exact ih (settled_expandIf h shortForm)

theorem inPlace_of_mem_passes_of_settled (shortForms : List Bool) {text : List Char}
    (h : Settled false (Text.splitLines text)) : ∀ pass ∈ passes shortForms text, pass.InPlace := by
  induction shortForms generalizing text with
  | nil => exact List.forall_mem_nil _
  | cons shortForm later ih =>
    rw [passes]
    exact List.forall_mem_cons.2
      ⟨inPlace_expandIf_of_settled h shortForm, ih (settled_expandIf h shortForm)⟩

/-! ### Passes over any source -/

/-- A run of passes converges: what lets the source through changes nothing, and after the first
pass in short form the text is settled. -/
theorem converges_passes (shortForms : List Bool) (source : List Char) :
    Converges shortForms source (passes shortForms source) := by
  induction shortForms with
  | nil => exact ⟨rfl, rfl, fun _ ↦ by simp [passes, locateThrough], by simp [passes]⟩
  | cons shortForm later ih =>
    cases shortForm with
    | false =>
      refine ⟨map_shortForm_passes _ source, ?_, fun cursor ↦ ?_, ?_⟩
      · rw [List.count_cons_of_ne Bool.false_ne_true]
        exact ih.text
      · simp only [List.mem_cons, Bool.true_eq_false, false_or]
        exact ih.cursor cursor
      · exact ih.inPlace
    | true =>
      -- The induction hypothesis speaks of the source; what is left goes over a settled text.
      have settled := settled_splitLines_expand source
      refine ⟨map_shortForm_passes _ source, ?_, fun cursor ↦ ?_, fun pass mem ↦ ?_⟩
      · rw [List.count_cons_self]
        exact textAfter_passes_of_settled later settled
      · rw [if_pos List.mem_cons_self]
        exact locateThrough_passes_of_settled later settled _
      · exact inPlace_of_mem_passes_of_settled later settled pass (List.mem_of_mem_filter mem)

end Stave

namespace Document

/-- Preprocess a text under one name after the other, each pass over what the one before it gave. -/
def passes (extensions : Value) :
    List (Option String) → List Char → Except Fault (List Stave.Expansion)
  | [], _ => .ok []
  | name :: names, text => do
    let pass ← expandNamed text name extensions none
    let later ← passes extensions names pass.text
    return pass :: later

/-- With extensions that are texts, no pass fails, and a name matters only in its extension. -/
theorem passes_texts (extensions : List String) (names : List (Option String))
    (source : List Char) : passes (.tuple (extensions.map .str)) names source =
      .ok (Stave.passes (names.map (isNamed extensions)) source) := by
  induction names generalizing source with
  | nil => rfl
  | cons name names ih =>
    have named := hasName_texts name extensions
    simp only [passes, expandNamed, isShortForm, named, Bind.bind, Except.bind, pure, Except.pure,
      ih, Stave.passes, List.map_cons]

/-- **Preprocessing repeatedly converges with the first pass in short form**, whatever the names,
and is idempotent where no carriage return stands in front of a break. -/
theorem passes_converge (extensions : List String) (names : List (Option String))
    (source : List Char) :
    (∃ run, passes (.tuple (extensions.map .str)) names source = .ok run ∧
      Stave.Converges (names.map (isNamed extensions)) source run) ∧
    (¬['\r', '\r', '\n'] <:+: source →
      (Stave.expand (Stave.expand source).text).text = (Stave.expand source).text ∧
        ∀ cursor, (Stave.expand (Stave.expand source).text).locate
          ((Stave.expand source).locate cursor) = (Stave.expand source).locate cursor) := by
  constructor
  · exact ⟨_, passes_texts extensions names source, Stave.converges_passes _ source⟩
  · intro plain
    refine ⟨Stave.text_expand_expand (Text.returnFree_splitLines plain), fun cursor ↦ ?_⟩
    exact Stave.locate_expandIf_of_settled (Stave.settled_splitLines_expand source) true _

end Document

end Tabstave
