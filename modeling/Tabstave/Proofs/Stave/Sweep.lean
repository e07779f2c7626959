import Tabstave.Proofs.Stave.Lookahead

/-!
# Looking ahead from all lines in one sweep

From each line the lookahead goes down past blank lines and comments to the first line that decides.
`opensBefore_eq_false_iff` says which line that is, in terms of kinds. Going up from the end of the
source, the answer from above a line follows from its kind and from the answer below it
(`opensPast`), so one sweep answers for all lines (`map_opensAt_eq_scanr`).

An index may be any whole number: a negative one counts from the end of the source, and one past the
end leaves no lines to look at.
-/

namespace Tabstave.Stave

/-- Whether a stave is opened above a line, given whether one is opened below it. -/
def opensPast (line : Line) (below : Bool) : Bool :=
  if line.kind.isSkipped then below else !line.kind.isPreamble

theorem opensBefore_eq_foldr (lines : List Line) :
    opensBefore lines = lines.foldr opensPast true := by
  induction lines with
  | nil => rfl
  | cons line rest ih => rw [opensBefore_cons, List.foldr_cons, opensPast, ih]

/-- **No stave is opened exactly when the first line that is not passed over is preamble.** -/
theorem opensBefore_eq_false_iff (lines : List Line) :
    opensBefore lines = false ↔
      ∃ line, lines.find? (fun line ↦ !line.kind.isSkipped) = some line ∧
        line.kind.isPreamble = true := by
  induction lines with
  | nil => simp [opensBefore]
  | cons line rest ih =>
    rw [opensBefore_cons, List.find?_cons]
    cases line.kind.isSkipped with
    | true => exact ih
    | false => simp

/-! ### The lines below an index -/

/-- From a position in the source on. -/
theorem linesFrom_natCast (lines : List Line) (n : Nat) : linesFrom lines n = lines.drop n := by
  rw [linesFrom, if_neg (by omega), Int.toNat_natCast]

/-- From a position on that is counted from the end; the source starts where there is none. -/
theorem linesFrom_neg_succ (lines : List Line) (n : Nat) :
    linesFrom lines (-(n + 1 : Nat)) = lines.drop (lines.length - (n + 1)) := by
  rw [linesFrom, if_pos (by omega)]
  congr 1
  omega

theorem opensAt_natCast (lines : List Line) (index : Nat) :
    opensAt lines index = opensBefore (lines.drop (index + 1)) := by
  rw [opensAt, ← linesFrom_natCast, Int.natCast_succ]

/-- Above a line that is passed over the answer is the one below it. -/
theorem opensAt_of_isSkipped {lines : List Line} {index : Nat} (inside : index + 1 < lines.length)
    (skipped : lines[index + 1].kind.isSkipped = true) :
    opensAt lines index = opensAt lines (index + 1 : Nat) := by
  rw [opensAt_natCast, opensAt_natCast, List.drop_eq_getElem_cons inside, opensBefore_cons, skipped,
    if_pos rfl]

/-- One sweep up from the end of the source answers for all lines. -/
theorem map_opensAt_eq_scanr (lines : List Line) :
    (List.range lines.length).map (fun index : Nat ↦ opensAt lines index) =
      (lines.scanr opensPast true).tail := by
  refine List.ext_getElem (by simp) fun index _ _ ↦ ?_
  rw [List.getElem_map, List.getElem_range, List.getElem_tail, List.getElem_scanr, opensAt_natCast,
    opensBefore_eq_foldr]

/-- **Looking ahead from an index answers by the kinds of the lines below it**: no stave is opened
exactly when the first of them that is not passed over is preamble. The lines below an index are
those of a slice, whatever the index is. A line that is passed over answers like the one below it,
and so one sweep up from the end answers for all lines. -/
theorem opensAt_by_kinds (lines : List Line) :
    (∀ index : Int, opensAt lines index = false ↔
      ∃ line, (linesFrom lines (index + 1)).find? (fun line ↦ !line.kind.isSkipped) = some line ∧
        line.kind.isPreamble = true) ∧
    (∀ n : Nat, linesFrom lines n = lines.drop n ∧
      linesFrom lines (-(n + 1 : Nat)) = lines.drop (lines.length - (n + 1))) ∧
    (∀ (index : Nat) (inside : index + 1 < lines.length),
      lines[index + 1].kind.isSkipped = true →
        opensAt lines index = opensAt lines (index + 1 : Nat)) ∧
    (List.range lines.length).map (fun index : Nat ↦ opensAt lines index) =
      (lines.scanr opensPast true).tail :=
  ⟨fun _ ↦ opensBefore_eq_false_iff _, fun n ↦ ⟨linesFrom_natCast lines n,
    linesFrom_neg_succ lines n⟩, fun _ inside ↦ opensAt_of_isSkipped inside,
    map_opensAt_eq_scanr lines⟩

end Tabstave.Stave
