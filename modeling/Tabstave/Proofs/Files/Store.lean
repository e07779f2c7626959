import Mathlib.Data.List.Infix
import Tabstave.Files.Store

/-!
# Walking through files that change

Following a path passes through directories alone. So a walk leads to the same place in every store
that still has these directories, whatever else has changed (`resolve_of_keeps`), and what it finds
there is what is there now.

Two things are done to files. Making a directory and those above it leaves everything as it is but
for directories on the path, where nothing was before: `madeAlong_makeDirectories` says so also of
an attempt that fails midway, which is then because of something among the files
(`exists_file_of_makeDirectories`). Writing a file changes nothing but the place that its path leads
to, where it is found afterwards (`exists_resolve_of_write`).
-/

namespace Tabstave.Store

/-! ### Directories that stay -/

/-- The directories of one store are directories in the other, and one starts from the same. -/
structure KeepsDirectories (before after : Store) : Prop where
  working : after.working = before.working
  directory : ∀ place, before.get? place = some .directory → after.get? place = some .directory

section Keeps

variable {before after : Store}

theorem keepsDirectories_refl (store : Store) : store.KeepsDirectories store :=
  ⟨rfl, fun _ here ↦ here⟩

theorem get?_root (store : Store) : store.get? [] = some .directory :=
  if_pos rfl

theorem ne_nil_of_get?_ne {store : Store} {place : Place}
    (other : store.get? place ≠ some .directory) : place ≠ [] := by
  rintro rfl
  exact other store.get?_root

/-- What is put where no directory is leaves the directories. -/
theorem keepsDirectories_put {store : Store} {place : Place}
    (other : store.get? place ≠ some .directory) (node : Node) :
    store.KeepsDirectories (store.put place node) := by
  refine ⟨rfl, fun there directory ↦ ?_⟩
  rw [get?_put _ _ _ _ (ne_nil_of_get?_ne other), if_neg]
  · exact directory
  · rintro rfl
    exact other directory

/-- A walk that goes on starts in a directory. -/
theorem directory_of_walk_cons {store : Store} {start : Place} {name : String} {rest : List String}
    {reached : Place × Option Node} (walked : store.walk start (name :: rest) = .ok reached) :
    store.get? start = some .directory := by
  rw [walk.eq_def] at walked
  dsimp only at walked
  split at walked
  · assumption
  all_goals cases walked

/-- A walk leads to the same place in a store that has the same directories, and finds what is there
now. -/
theorem walk_of_keeps (keeps : before.KeepsDirectories after) {start place : Place}
    {names : List String} {found : Option Node}
    (walked : before.walk start names = .ok (place, found)) :
    after.walk start names = .ok (place, after.get? place) := by
  induction names generalizing start with
  | nil =>
    cases walked
    rfl
  | cons name rest ih =>
    have directory := directory_of_walk_cons walked
    rw [walk.eq_def] at walked ⊢
    simp only [directory, keeps.directory start directory] at walked ⊢
    split_ifs at walked ⊢
    · exact ih walked
    · cases rest with
      | nil =>
        cases walked
        rfl
      | cons next rest =>
        cases there : before.get? (start ++ [name]) with
        | none => rw [there] at walked; cases walked
        | some node =>
          rw [there] at walked
          -- What the walk passes through is a directory, so it is still there.
          rw [keeps.directory _ (directory_of_walk_cons walked)]
          exact ih walked

theorem resolve_of_keeps (keeps : before.KeepsDirectories after) {path : Path} {place : Place}
    {found : Option Node} (resolved : before.resolve path = .ok (place, found)) :
    after.resolve path = .ok (place, after.get? place) := by
  rw [resolve] at resolved ⊢
  rw [keeps.working]
  split_ifs at resolved ⊢ <;> exact walk_of_keeps keeps resolved

/-- What a path leads to is what is at the place. -/
theorem eq_get?_of_resolve {store : Store} {path : Path} {place : Place} {found : Option Node}
    (resolved : store.resolve path = .ok (place, found)) : found = store.get? place := by
  have again := resolve_of_keeps store.keepsDirectories_refl resolved
  rw [resolved] at again
  cases again
  rfl

end Keeps

/-! ### Making directories -/

/-- A place is a directory that some beginning of a path leads to. -/
def IsAlong (store : Store) (path : Path) (place : Place) : Prop :=
  ∃ names, names <+: path.names ∧ store.resolve ⟨path.root, names⟩ = .ok (place, some .directory)

/-- Nothing is different between two stores but directories along a path, where nothing was. -/
structure MadeAlong (path : Path) (before after : Store) : Prop where
  working : after.working = before.working
  same_or_made : ∀ place, after.get? place = before.get? place ∨
    before.get? place = none ∧ after.get? place = some .directory ∧ after.IsAlong path place

section MadeAlong

variable {path : Path} {before middle after : Store}

theorem madeAlong_refl (path : Path) (store : Store) : MadeAlong path store store :=
  ⟨rfl, fun _ ↦ .inl rfl⟩

/-- All that was there is still there. -/
theorem MadeAlong.get?_of_some (made : MadeAlong path before after) {place : Place} {node : Node}
    (here : before.get? place = some node) : after.get? place = some node := by
  rcases made.same_or_made place with same | ⟨nothing, -, -⟩
  · exact same.trans here
  · rw [nothing] at here
    cases here

theorem MadeAlong.keepsDirectories (made : MadeAlong path before after) :
    before.KeepsDirectories after :=
  ⟨made.working, fun _ directory ↦ made.get?_of_some directory⟩

theorem IsAlong.of_keeps (keeps : before.KeepsDirectories after) {place : Place}
    (along : before.IsAlong path place) : after.IsAlong path place := by
  obtain ⟨names, beginning, resolved⟩ := along
  have directory := (eq_get?_of_resolve resolved).symm
  refine ⟨names, beginning, ?_⟩
  rw [resolve_of_keeps keeps resolved, keeps.directory place directory]

theorem MadeAlong.trans (first : MadeAlong path before middle)
    (second : MadeAlong path middle after) : MadeAlong path before after := by
  refine ⟨second.working.trans first.working, fun place ↦ ?_⟩
  rcases second.same_or_made place with same | ⟨nothing, made⟩
  · rw [same]
    rcases first.same_or_made place with same | ⟨nothing, directory, along⟩
    · exact .inl same
    · exact .inr ⟨nothing, directory, along.of_keeps second.keepsDirectories⟩
  · refine .inr ⟨?_, made⟩
    cases here : before.get? place with
    | none => rfl
    | some node =>
      rw [first.get?_of_some here] at nothing
      cases nothing

/-- What was made along the beginning of a path was made along the path. -/
theorem MadeAlong.of_prefix {root : String} {names more : List String} (beginning : names <+: more)
    (made : MadeAlong ⟨root, names⟩ before after) : MadeAlong ⟨root, more⟩ before after := by
  refine ⟨made.working, fun place ↦ (made.same_or_made place).imp_right ?_⟩
  rintro ⟨nothing, directory, shorter, inside, resolved⟩
  exact ⟨nothing, directory, shorter, inside.trans beginning, resolved⟩

theorem madeAlong_makeDirectory {store : Store} (made : store.makeDirectory path = .ok after) :
    MadeAlong path store after := by
  rw [makeDirectory] at made
  cases resolved : store.resolve path with
  | error fault => rw [resolved] at made; cases made
  | ok reached =>
    obtain ⟨place, found⟩ := reached
    rw [resolved] at made
    cases found with
    | some node => cases made
    | none =>
      cases made
      have nothing : store.get? place = none := (eq_get?_of_resolve resolved).symm
      have free : store.get? place ≠ some .directory := by rw [nothing]; nofun
      have keeps := keepsDirectories_put free .directory
      have put (other : Place) := store.get?_put place other .directory (ne_nil_of_get?_ne free)
      refine ⟨rfl, fun other ↦ ?_⟩
      rw [put other]
      split_ifs with same
      · subst same
        refine .inr ⟨nothing, rfl, path.names, List.prefix_refl _, ?_⟩
        rw [resolve_of_keeps keeps resolved, put, if_pos rfl]
      · exact .inl rfl

theorem eq_of_settle {store : Store} {fault : FileFault}
    (settled : store.settle path fault = .ok after) : after = store := by
  rw [settle.eq_def] at settled
  split at settled
  · split at settled <;> cases settled <;> rfl
  · cases settled

theorem madeAlong_ensureDirectory {store : Store} (made : store.ensureDirectory path = .ok after) :
    MadeAlong path store after := by
  rw [ensureDirectory] at made
  split at made
  · next inner => cases made; exact madeAlong_makeDirectory inner
  · rw [eq_of_settle made]
    exact madeAlong_refl path store

theorem madeAlong_makeDirectoriesReversed (store : Store) (root : String) (names : List String) :
    MadeAlong ⟨root, names.reverse⟩ store (store.makeDirectoriesReversed root names).1 := by
  induction names with
  | nil =>
    rw [makeDirectoriesReversed]
    split
    · next made => exact madeAlong_ensureDirectory made
    · exact madeAlong_refl _ store
  | cons name above ih =>
    rw [makeDirectoriesReversed]
    split
    · next made => exact madeAlong_makeDirectory made
    · -- The directories above are made first, which may be all that is done.
      have beginning : above.reverse <+: (name :: above).reverse := by
        rw [List.reverse_cons]
        exact List.prefix_append _ _
      have upper := ih.of_prefix beginning
      split
      · next upperMade =>
        rw [upperMade] at upper
        split
        · next made => exact upper.trans (madeAlong_ensureDirectory made)
        · exact upper
      · exact upper
    · split
      · next settled => rw [eq_of_settle settled]; exact madeAlong_refl _ store
      · exact madeAlong_refl _ store

/-- **Making a directory and those above it leaves everything but directories on the path as it
was**, also if it fails. -/
theorem madeAlong_makeDirectories (store : Store) (path : Path) :
    MadeAlong path store (store.makeDirectories path).1 := by
  rw [makeDirectories]
  split_ifs
  · exact madeAlong_refl path store
  · have made := madeAlong_makeDirectoriesReversed store path.root path.names.reverse
    rwa [List.reverse_reverse] at made

end MadeAlong

/-! What stands in the way of a directory is something among the files, unless its path is none. -/

theorem makeDirectories_of_hasNul {store : Store} {path : Path} (nul : hasNul path = true) :
    store.makeDirectories path = (store, .error .nulInPath) := by
  rw [makeDirectories, nul, if_pos rfl]

theorem exists_file_of_settle {store : Store} {path : Path} {refusal : FileFault} {fault : Fault}
    (failed : store.settle path refusal = .error fault) :
    ∃ reason text, fault = .file reason text := by
  rw [settle.eq_def] at failed
  split at failed
  · split at failed <;> cases failed
    exact ⟨_, _, rfl⟩
  · cases failed
    exact ⟨_, _, rfl⟩

theorem exists_file_of_ensureDirectory {store : Store} {path : Path} {fault : Fault}
    (failed : store.ensureDirectory path = .error fault) :
    ∃ reason text, fault = .file reason text := by
  rw [ensureDirectory] at failed
  split at failed
  · cases failed
  · exact exists_file_of_settle failed

theorem exists_file_of_makeDirectoriesReversed {store : Store} {root : String}
    {names : List String} {fault : Fault}
    (failed : (store.makeDirectoriesReversed root names).2 = .error fault) :
    ∃ reason text, fault = .file reason text := by
  induction names with
  | nil =>
    rw [makeDirectoriesReversed] at failed
    split at failed
    · cases failed
    · next refused => cases failed; exact exists_file_of_ensureDirectory refused
  | cons name above ih =>
    rw [makeDirectoriesReversed] at failed
    split at failed
    · cases failed
    · split at failed
      · split at failed
        · cases failed
        · next refused => cases failed; exact exists_file_of_ensureDirectory refused
      · exact ih failed
    · split at failed
      · cases failed
      · next refused => cases failed; exact exists_file_of_settle refused

theorem exists_file_of_makeDirectories {store : Store} {path : Path} {fault : Fault}
    (noNul : hasNul path = false) (failed : (store.makeDirectories path).2 = .error fault) :
    ∃ reason text, fault = .file reason text := by
  rw [makeDirectories, noNul, if_neg Bool.false_ne_true] at failed
  exact exists_file_of_makeDirectoriesReversed failed

/-! ### Files -/

section Found

variable {store : Store} {path : Path} {node : Node}

theorem contains_eq_false {s : String} {c : Char} (other : c ∉ s.toList) :
    s.contains c = false := by
  rw [String.contains_char_eq]
  exact decide_eq_false other

theorem hasNul_eq_false {path : Path} (noNul : '\x00' ∉ path.toString.toList) :
    hasNul path = false :=
  contains_eq_false noNul

/-- What is found at a path is what it leads to. -/
theorem exists_resolve_of_find? (found : store.find? path = .ok (some node)) :
    hasNul path = false ∧ ∃ place, store.resolve path = .ok (place, some node) := by
  rw [find?] at found
  split_ifs at found with nul
  · cases found
  refine ⟨Bool.eq_false_iff.2 nul, ?_⟩
  split at found <;> cases found
  next here =>
  rw [Store.node] at here
  cases resolved : store.resolve path with
  | error fault => rw [resolved] at here; cases here
  | ok reached =>
    obtain ⟨place, there⟩ := reached
    rw [resolved] at here
    cases there with
    | none => cases here
    | some node => cases here; exact ⟨place, rfl⟩

/-- That something is to be found is a fault only of a path that is too long or leads through a
directory that is closed. -/
theorem eq_or_eq_of_find?_error {fault : Fault} (failed : store.find? path = .error fault) :
    fault = .file .nameTooLong path.toString ∨ fault = .file .denied path.toString := by
  rw [find?] at failed
  split_ifs at failed
  split at failed <;> cases failed
  · exact .inl rfl
  · exact .inr rfl

theorem node_of_resolve {place : Place} (resolved : store.resolve path = .ok (place, some node)) :
    store.node path = .ok node := by
  rw [Store.node, resolved]
  rfl

theorem find?_of_resolve (noNul : hasNul path = false) {place : Place}
    (resolved : store.resolve path = .ok (place, some node)) :
    store.find? path = .ok (some node) := by
  rw [find?, noNul, if_neg Bool.false_ne_true, node_of_resolve resolved]

theorem read_of_resolve (noNul : hasNul path = false) {place : Place} {bytes : List UInt8}
    (resolved : store.resolve path = .ok (place, some (.file bytes))) :
    store.read path = .ok bytes := by
  rw [read, noNul, if_neg Bool.false_ne_true, node_of_resolve resolved]
  rfl

theorem read_of_locked (noNul : hasNul path = false) {place : Place}
    (resolved : store.resolve path = .ok (place, some .locked)) :
    store.read path = .error (.file .denied path.toString) := by
  rw [read, noNul, if_neg Bool.false_ne_true, node_of_resolve resolved]
  rfl

/-- What is found at a path is found there also once directories are made. -/
theorem MadeAlong.find?_of_some {along : Path} {before after : Store}
    (made : MadeAlong along before after) (found : before.find? path = .ok (some node)) :
    after.find? path = .ok (some node) := by
  obtain ⟨noNul, place, resolved⟩ := exists_resolve_of_find? found
  have here := made.get?_of_some (eq_get?_of_resolve resolved).symm
  have resolved := resolve_of_keeps made.keepsDirectories resolved
  rw [here] at resolved
  exact find?_of_resolve noNul resolved

/-- No name on the way of a walk is too long. -/
theorem utf8ByteSize_le_of_walk {start : Place} {names : List String}
    {reached : Place × Option Node} (walked : store.walk start names = .ok reached) :
    ∀ name ∈ names, name.utf8ByteSize ≤ maxNameBytes := by
  induction names generalizing start with
  | nil => exact List.forall_mem_nil _
  | cons name rest ih =>
    have directory := directory_of_walk_cons walked
    rw [walk.eq_def] at walked
    simp only [directory] at walked
    split_ifs at walked with long up
    · exact List.forall_mem_cons.2 ⟨Nat.le_of_not_lt long, ih walked⟩
    · refine List.forall_mem_cons.2 ⟨Nat.le_of_not_lt long, ?_⟩
      cases rest with
      | nil => exact List.forall_mem_nil _
      | cons next rest =>
        cases there : store.get? (start ++ [name]) with
        | none => rw [there] at walked; cases walked
        | some node => rw [there] at walked; exact ih walked

theorem utf8ByteSize_le_of_resolve {reached : Place × Option Node}
    (resolved : store.resolve path = .ok reached) :
    ∀ name ∈ path.names, name.utf8ByteSize ≤ maxNameBytes := by
  rw [resolve] at resolved
  split_ifs at resolved <;> exact utf8ByteSize_le_of_walk resolved

end Found

section Write

variable {store after : Store} {path : Path} {bytes : List UInt8}

/-- A file is written at the place that its path leads to, where nothing is or a file that can be
opened. -/
theorem exists_of_write (written : store.write path bytes = .ok after) :
    hasNul path = false ∧ ∃ place found, store.resolve path = .ok (place, found) ∧
      (found = none ∨ ∃ old, found = some (.file old)) ∧
      after = store.put place (.file bytes) := by
  rw [write] at written
  split_ifs at written with nul
  refine ⟨Bool.eq_false_iff.2 nul, ?_⟩
  cases resolved : store.resolve path with
  | error fault => rw [resolved] at written; cases written
  | ok reached =>
    obtain ⟨place, found⟩ := reached
    rw [resolved] at written
    cases found with
    | none => cases written; exact ⟨place, none, rfl, .inl rfl, rfl⟩
    | some node =>
      cases node with
      | directory | sealed | locked => cases written
      | file old => cases written; exact ⟨place, _, rfl, .inr ⟨old, rfl⟩, rfl⟩

/-- Whether a file can be written does not depend on what is written. -/
theorem exists_write_of_write (written : store.write path bytes = .ok after)
    (other : List UInt8) : ∃ after', store.write path other = .ok after' := by
  obtain ⟨noNul, place, found, resolved, free, -⟩ := exists_of_write written
  refine ⟨store.put place (.file other), ?_⟩
  rw [write, noNul, if_neg Bool.false_ne_true, resolved]
  rcases free with rfl | ⟨old, rfl⟩ <;> rfl

/-- A file that was written is there, and everything else is as it was. -/
theorem exists_resolve_of_write (written : store.write path bytes = .ok after) :
    ∃ place, after.resolve path = .ok (place, some (.file bytes)) ∧
      after.working = store.working ∧ after.get? place = some (.file bytes) ∧
      store.get? place ≠ some .directory ∧
      ∀ other, other ≠ place → after.get? other = store.get? other := by
  obtain ⟨-, place, found, resolved, fileOrNone, rfl⟩ := exists_of_write written
  have free : found ≠ some .directory := by
    rcases fileOrNone with rfl | ⟨old, rfl⟩ <;> nofun
  rw [eq_get?_of_resolve resolved] at free
  have put (other : Place) := store.get?_put place other (.file bytes) (ne_nil_of_get?_ne free)
  have here : (store.put place (.file bytes)).get? place = some (.file bytes) := by
    rw [put, if_pos rfl]
  refine ⟨place, ?_, rfl, here, free, fun other different ↦ by rw [put, if_neg different]⟩
  rw [resolve_of_keeps (keepsDirectories_put free _) resolved, here]

theorem read_of_write (written : store.write path bytes = .ok after) :
    after.read path = .ok bytes := by
  obtain ⟨place, resolved, -⟩ := exists_resolve_of_write written
  exact read_of_resolve (exists_of_write written).1 resolved

end Write

end Tabstave.Store
