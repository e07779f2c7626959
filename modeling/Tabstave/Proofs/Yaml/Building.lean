import Mathlib.Order.Defs.Unbundled
import Tabstave.Yaml.Load

/-!
# The keys of what is built

While nodes are made into values, a node that can be a key is made so once and stays as it is, and a
collection stays a collection (`Extends`). So two keys that are told apart when they are put into a
dictionary are told apart ever after, and the dictionaries keep what they had when they were put
together: entries with keys that differ (`Sound`).
-/

namespace Tabstave.Yaml

/-- What a node has become so far. -/
def Builder.part? (builder : Builder) (number : Nat) : Option Part :=
  (builder.parts[number]?).join

/-- The nodes when one has become something. -/
def Builder.becomes (builder : Builder) (number : Nat) (part : Part) : Builder :=
  { builder with parts := builder.parts.setIfInBounds number (some part) }

namespace Build

variable {α β : Type} {R : Builder → Builder → Prop}

/-! ### What a computation keeps -/

/-- If a computation succeeds, what is known before it and after it are in a relation. -/
def Keeps (R : Builder → Builder → Prop) (act : Build α) : Prop :=
  ∀ before after a, act.run before = .ok (a, after) → R before after

theorem exists_of_run_bind {act : Build α} {next : α → Build β} {before after : Builder} {b : β}
    (ran : (act >>= next).run before = .ok (b, after)) :
    ∃ a between, act.run before = .ok (a, between) ∧ (next a).run between = .ok (b, after) := by
  rw [StateT.run_bind] at ran
  cases first : act.run before with
  | error fault =>
    rw [first] at ran
    cases ran
  | ok result =>
    rw [first] at ran
    exact ⟨result.1, result.2, rfl, ran⟩

namespace Keeps

theorem throw (fault : Fault) : Keeps R (throw fault : Build α) := by
  intro before after a ran
  cases ran

theorem refuse : Keeps R (Build.refuse : Build α) :=
  throw _

section Preorder

variable [IsPreorder Builder R]

theorem pure (a : α) : Keeps R (Pure.pure a : Build α) := by
  intro before after b ran
  cases ran
  exact refl_of R _

theorem get : Keeps R (MonadState.get : Build Builder) := by
  intro before after b ran
  cases ran
  exact refl_of R _

theorem lift (result : Except Fault α) : Keeps R (liftM result : Build α) := by
  intro before after a ran
  cases result with
  | error fault => cases ran
  | ok b =>
    cases ran
    exact refl_of R _

theorem bind {act : Build α} {next : α → Build β} (first : Keeps R act)
    (later : ∀ a, Keeps R (next a)) : Keeps R (act >>= next) := by
  intro before after b ran
  obtain ⟨a, between, ran, ran'⟩ := exists_of_run_bind ran
  exact trans_of R (first _ _ _ ran) (later a _ _ _ ran')

theorem forM {f : α → Build Unit} {items : List α} (each : ∀ a ∈ items, Keeps R (f a)) :
    Keeps R (items.forM f) := by
  induction items with
  | nil => exact pure _
  | cons a rest ih =>
    change Keeps R (f a >>= fun _ ↦ rest.forM f)
    exact bind (each a List.mem_cons_self) fun _ ↦
      ih fun b mem ↦ each b (List.mem_cons_of_mem _ mem)

theorem mapM {f : α → Build β} {items : List α} (each : ∀ a ∈ items, Keeps R (f a)) :
    Keeps R (items.mapM f) := by
  induction items with
  | nil => rw [List.mapM_nil]; exact pure _
  | cons a rest ih =>
    rw [List.mapM_cons]
    exact bind (each a List.mem_cons_self) fun _ ↦
      bind (ih fun b mem ↦ each b (List.mem_cons_of_mem _ mem)) fun _ ↦ pure _

end Preorder

end Keeps

/-! ### Looking at nodes and changing them -/

/-- What the nodes have become is the same, and so are the collections that wait. -/
def SameParts (before after : Builder) : Prop :=
  after.parts = before.parts ∧ after.waiting = before.waiting

instance : IsPreorder Builder SameParts where
  refl _ := ⟨rfl, rfl⟩
  trans _ _ _ first second := ⟨second.1.trans first.1, second.2.trans first.2⟩

theorem keeps_tagOf (number : Nat) : Keeps SameParts (tagOf number) :=
  Keeps.get.bind fun _ ↦ .pure _

theorem keeps_contentOf (number : Nat) : Keeps SameParts (contentOf number) :=
  Keeps.get.bind fun _ ↦ .pure _

theorem keeps_entriesOf (number : Nat) : Keeps SameParts (entriesOf number) := by
  refine (keeps_contentOf number).bind fun content ↦ ?_
  split
  · exact .pure _
  · exact .refuse

theorem keeps_itemsOf (number : Nat) : Keeps SameParts (itemsOf number) := by
  refine (keeps_contentOf number).bind fun content ↦ ?_
  split
  · exact .pure _
  · exact .refuse

theorem keeps_change (number : Nat) (f : Node → Node) : Keeps SameParts (change number f) := by
  intro before after a ran
  cases ran
  exact ⟨rfl, rfl⟩

theorem keeps_flatten (fuel number : Nat) (merged : List (Nat × Nat)) :
    Keeps SameParts (flatten fuel number merged) := by
  induction fuel generalizing number merged with
  | zero => exact .refuse
  | succ fuel ih =>
    rw [flatten]
    refine (keeps_entriesOf number).bind fun entries ↦ Keeps.get.bind fun builder ↦ ?_
    split
    · refine (Keeps.forM ?_).bind fun _ ↦ keeps_change _ _
      rintro ⟨key, value⟩ -
      refine (keeps_tagOf key).bind fun tag ↦ ?_
      split
      · exact keeps_change _ _
      · exact .pure _
    · have keeps_flat (source : Nat) : Keeps SameParts (do
          let _ ← entriesOf source
          flatten fuel source []
          entriesOf source) :=
        (keeps_entriesOf source).bind fun _ ↦ (ih source []).bind fun _ ↦ keeps_entriesOf source
      refine (keeps_change _ _).bind fun _ ↦ (keeps_contentOf _).bind fun content ↦ ?_
      dsimp only
      split
      · refine (Keeps.mapM fun source _ ↦ keeps_flat source).bind fun _ ↦ ?_
        exact (Keeps.pure _).bind fun _ ↦ ih _ _
      · exact (keeps_flat _).bind fun _ ↦ ih _ _

/-! ### Scalars -/

/-- A value is no dictionary. -/
def IsPlain (value : Value) : Prop :=
  ∀ entries, value ≠ .dict entries

/-- If a computation has a result, that has a property. -/
def IfOk (Q : α → Prop) (result : Except Fault α) : Prop :=
  ∀ a, result = .ok a → Q a

theorem IfOk.error {Q : α → Prop} (fault : Fault) : IfOk Q (.error fault) :=
  fun _ failed ↦ nomatch failed

theorem IfOk.pure {Q : α → Prop} {a : α} (h : Q a) : IfOk Q (.ok a) := by
  rintro _ ⟨⟩
  exact h

theorem IfOk.bind {Q : β → Prop} {first : Except Fault α} {next : α → Except Fault β}
    (later : ∀ a, IfOk Q (next a)) : IfOk Q (first >>= next) := by
  cases first with
  | error fault => exact .error fault
  | ok a => exact later a

theorem IfOk.map {Q : β → Prop} {first : Except Fault α} {f : α → β} (h : ∀ a, Q (f a)) :
    IfOk Q (first.map f) := by
  cases first with
  | error fault => exact .error fault
  | ok a => exact .pure (h a)

theorem isPlain_dateValue (text : List Char) : IfOk IsPlain (dateValue text) := by
  rw [dateValue]
  split
  · exact .error _
  · split
    · exact .bind fun _ ↦ .pure nofun
    · exact .bind fun _ ↦ .bind fun _ ↦ .bind fun _ ↦ .pure nofun

theorem isPlain_textValue (tag : Tag) (text : List Char) : IfOk IsPlain (textValue tag text) := by
  cases tag with
  | null | str => exact .pure nofun
  | bool | int | float | binary => exact .map fun _ ↦ nofun
  | timestamp => exact isPlain_dateValue text
  | _ => exact .error _

theorem isPlain_halvesValue (tag : Tag) (codes : List Nat) :
    IfOk IsPlain (halvesValue tag codes) := by
  cases tag with
  | null | str => exact .pure nofun
  | _ => exact .error _

theorem isPlain_scalarValue (tag : Tag) (codes : List Nat) :
    IfOk IsPlain (scalarValue tag codes) := by
  rw [scalarValue]
  split
  · exact isPlain_textValue tag _
  · exact isPlain_halvesValue tag codes

/-- What a scalar becomes: a value that is no dictionary. -/
inductive IsScalar : Part → Prop
  | atom {value : Value} (plain : IsPlain value) : IsScalar (.atom value)
  | noNumber : IsScalar .noNumber

theorem IsScalar.isKey {part : Part} (scalar : IsScalar part) : part.isKey = true := by
  cases scalar <;> rfl

/-- If a computation on nodes has a result, that has a property. -/
def Gives (Q : α → Prop) (act : Build α) : Prop :=
  ∀ before, IfOk (fun result ↦ Q result.1) (act.run before)

namespace Gives

variable {Q : α → Prop}

theorem pure {a : α} (h : Q a) : Gives Q (Pure.pure a) :=
  fun _ ↦ .pure h

theorem bind {act : Build β} {next : β → Build α} (later : ∀ b, Gives Q (next b)) :
    Gives Q (act >>= next) :=
  fun before ↦ by
    rw [StateT.run_bind]
    exact .bind fun result ↦ later result.1 result.2

theorem lift_bind {P : β → Prop} {result : Except Fault β} {next : β → Build α}
    (first : IfOk P result) (later : ∀ b, P b → Gives Q (next b)) :
    Gives Q (liftM result >>= next) := by
  cases result with
  | error fault => exact fun _ ↦ .error fault
  | ok b => exact later b (first b rfl)

end Gives

theorem isScalar_scalarPart (tag : Tag) (number : Nat) :
    Gives IsScalar (scalarPart tag number) := by
  refine .bind fun builder ↦ .bind fun text ↦ .bind fun content ↦ ?_
  split
  · exact .lift_bind (isPlain_scalarValue _ _) fun _ plain ↦ .pure (.atom plain)
  · exact fun _ ↦ .error _
  · split
    · exact .pure .noNumber
    · exact .lift_bind (isPlain_scalarValue _ _) fun _ plain ↦ .pure (.atom plain)
  · exact .lift_bind (isPlain_scalarValue _ _) fun _ plain ↦ .pure (.atom plain)

theorem keeps_scalarPart (tag : Tag) (number : Nat) :
    Keeps SameParts (scalarPart tag number) := by
  refine Keeps.get.bind fun builder ↦ (Keeps.lift _).bind fun text ↦
    (keeps_contentOf number).bind fun content ↦ ?_
  split
  · exact (Keeps.lift _).bind fun _ ↦ .pure _
  · exact .throw _
  · split
    · exact .pure _
    · exact (Keeps.lift _).bind fun _ ↦ .pure _
  · exact (Keeps.lift _).bind fun _ ↦ .pure _

/-! ### What stays of what nodes have become -/

/-- What can be a key stays as it is, and a collection stays a collection. -/
structure Extends (before after : Builder) : Prop where
  size : after.parts.size = before.parts.size
  key : ∀ number part, before.part? number = some part → part.isKey = true →
    after.part? number = some part
  collection : ∀ number part, before.part? number = some part → part.isKey = false →
    ∃ part', after.part? number = some part' ∧ part'.isKey = false

theorem Extends.refl (builder : Builder) : Extends builder builder :=
  ⟨rfl, fun _ _ found _ ↦ found, fun _ part found other ↦ ⟨part, found, other⟩⟩

theorem Extends.trans {before between after : Builder} (first : Extends before between)
    (second : Extends between after) : Extends before after where
  size := second.size.trans first.size
  key number part found isKey := second.key _ _ (first.key number part found isKey) isKey
  collection number part found other := by
    obtain ⟨part', found', other'⟩ := first.collection number part found other
    exact second.collection _ _ found' other'

/-- A node has become a collection, if there is such a node. -/
def Collects (builder : Builder) (number : Nat) : Prop :=
  number < builder.parts.size → ∃ part, builder.part? number = some part ∧ part.isKey = false

/-- Keys of which all have become something, and no two the same. -/
structure Distinct (builder : Builder) (keys : List Nat) : Prop where
  isKey : ∀ key ∈ keys, ∃ part, builder.part? key = some part ∧ part.isKey = true
  differ : keys.Pairwise fun first second ↦ sameKey builder.parts first second = false

section Extends

variable {before after : Builder} (extends_ : Extends before after)

include extends_

theorem Collects.mono {number : Nat} (collects : Collects before number) :
    Collects after number := by
  intro inside
  rw [extends_.size] at inside
  obtain ⟨part, found, other⟩ := collects inside
  exact extends_.collection number part found other

theorem Distinct.mono {keys : List Nat} (distinct : Distinct before keys) :
    Distinct after keys := by
  have stays (key : Nat) (mem : key ∈ keys) : after.part? key = before.part? key := by
    obtain ⟨part, found, isKey⟩ := distinct.isKey key mem
    rw [found, extends_.key key part found isKey]
  refine ⟨fun key mem ↦ ?_, distinct.differ.imp_of_mem fun first second differ ↦ ?_⟩
  · rw [stays key mem]
    exact distinct.isKey key mem
  · rw [sameKey] at differ ⊢
    have here := stays _ first
    have there := stays _ second
    rw [Builder.part?, Builder.part?] at here there
    rwa [here, there]

end Extends

/-- What holds while nodes are made into values: what can be a key is no dictionary, dictionaries
have keys that differ, and the nodes that wait are collections. -/
structure Sound (builder : Builder) : Prop where
  scalars : ∀ number part, builder.part? number = some part → part.isKey = true → IsScalar part
  dicts : ∀ number entries, builder.part? number = some (.dict entries) →
    Distinct builder (entries.map Prod.fst)
  waiting : ∀ number ∈ builder.waiting, Collects builder number

/-- What is sound goes on to be, and is only added to. -/
def Grows (before after : Builder) : Prop :=
  Sound before → Sound after ∧ Extends before after

instance : IsPreorder Builder Grows where
  refl builder sound := ⟨sound, .refl builder⟩
  trans _ _ _ first second sound := by
    obtain ⟨sound, extends_⟩ := first sound
    obtain ⟨sound, extends_'⟩ := second sound
    exact ⟨sound, extends_.trans extends_'⟩

theorem SameParts.grows {before after : Builder} (same : SameParts before after) :
    Grows before after := by
  obtain ⟨parts, waiting⟩ := same
  have found (number : Nat) : after.part? number = before.part? number := by
    rw [Builder.part?, parts, Builder.part?]
  have extends_ : Extends before after :=
    ⟨congrArg Array.size parts, fun number _ h _ ↦ (found number).trans h,
      fun number part h other ↦ ⟨part, (found number).trans h, other⟩⟩
  intro sound
  refine ⟨⟨fun number part h ↦ ?_, fun number entries h ↦ ?_, fun number mem ↦ ?_⟩, extends_⟩
  · rw [found] at h
    exact sound.scalars number part h
  · rw [found] at h
    exact (sound.dicts number entries h).mono extends_
  · rw [waiting] at mem
    exact (sound.waiting number mem).mono extends_

theorem Keeps.grows {act : Build α} (keeps : Keeps SameParts act) : Keeps Grows act :=
  fun _ _ _ ran ↦ (keeps _ _ _ ran).grows

/-! ### What a node becomes -/

section Becomes

variable {builder : Builder} {number : Nat} {part : Part}

theorem part?_becomes_self (inside : number < builder.parts.size) :
    (builder.becomes number part).part? number = some part := by
  simp [Builder.becomes, Builder.part?, inside]

theorem part?_becomes_of_ne {other : Nat} (ne : number ≠ other) :
    (builder.becomes number part).part? other = builder.part? other := by
  simp [Builder.becomes, Builder.part?, ne]

theorem lt_size_of_part? {found : Part} (h : builder.part? number = some found) :
    number < builder.parts.size := by
  rcases Nat.lt_or_ge number builder.parts.size with inside | outside
  · exact inside
  · rw [Builder.part?, Array.getElem?_eq_none outside] at h
    cases h

theorem eq_or_part?_of_becomes {other : Nat} {found : Part}
    (h : (builder.becomes number part).part? other = some found) :
    found = part ∨ builder.part? other = some found := by
  by_cases same : number = other
  · subst same
    have inside : number < builder.parts.size := by
      have inside := lt_size_of_part? h
      rwa [Builder.becomes, Array.size_setIfInBounds] at inside
    rw [part?_becomes_self inside] at h
    exact .inl (Option.some.inj h).symm
  · rw [part?_becomes_of_ne same] at h
    exact .inr h

/-- A node that has become nothing yet may become anything, and a collection another one. -/
theorem extends_becomes
    (free : ∀ old, builder.part? number = some old → old.isKey = false ∧ part.isKey = false) :
    Extends builder (builder.becomes number part) := by
  refine ⟨Array.size_setIfInBounds, fun other old found isKey ↦ ?_,
    fun other old found collection ↦ ?_⟩
  · by_cases same : number = other
    · subst same
      rw [(free old found).1] at isKey
      cases isKey
    · rwa [part?_becomes_of_ne same]
  · by_cases same : number = other
    · subst same
      exact ⟨part, part?_becomes_self (lt_size_of_part? found), (free old found).2⟩
    · exact ⟨old, (part?_becomes_of_ne same).trans found, collection⟩

theorem grows_becomes
    (free : ∀ old, builder.part? number = some old → old.isKey = false ∧ part.isKey = false)
    (scalar : part.isKey = true → IsScalar part)
    (dict : ∀ entries, part = .dict entries → Distinct builder (entries.map Prod.fst)) :
    Grows builder (builder.becomes number part) := by
  have extends_ := extends_becomes free
  intro sound
  refine ⟨⟨fun other found h isKey ↦ ?_, fun other entries h ↦ ?_, fun other mem ↦ ?_⟩, extends_⟩
  · rcases eq_or_part?_of_becomes h with rfl | before
    · exact scalar isKey
    · exact sound.scalars other found before isKey
  · rcases eq_or_part?_of_becomes h with same | before
    · exact (dict entries same.symm).mono extends_
    · exact (sound.dicts other entries before).mono extends_
  · exact (sound.waiting other mem).mono extends_

/-- A collection may get its members. -/
theorem grows_becomes_of_collects (collects : Collects builder number) (other : part.isKey = false)
    (dict : ∀ entries, part = .dict entries → Distinct builder (entries.map Prod.fst)) :
    Grows builder (builder.becomes number part) := by
  refine grows_becomes (fun old found ↦ ⟨?_, other⟩) (fun isKey ↦ ?_) dict
  · obtain ⟨part, found', collection⟩ := collects (lt_size_of_part? found)
    rw [found] at found'
    cases found'
    exact collection
  · rw [other] at isKey
    cases isKey

end Becomes

/-- Collections may be added to those that wait, or taken from them. -/
theorem grows_waiting {builder : Builder} {waiting : List Nat}
    (collects : ∀ number ∈ waiting, number ∈ builder.waiting ∨ Collects builder number) :
    Grows builder { builder with waiting } := by
  have extends_ : Extends builder { builder with waiting } :=
    ⟨rfl, fun _ _ found _ ↦ found, fun _ part found other ↦ ⟨part, found, other⟩⟩
  refine fun sound ↦ ⟨⟨sound.scalars, fun number entries found ↦ ?_, fun number mem ↦ ?_⟩, extends_⟩
  · exact (sound.dicts number entries found).mono extends_
  · rcases collects number mem with before | new
    · exact (sound.waiting number before).mono extends_
    · exact new.mono extends_

/-- A collection that is noted waits for its members. -/
theorem grows_of_note {before after : Builder} {number : Nat} {empty : Part}
    (nothing : before.part? number = none) (other : empty.isKey = false)
    (noEntries : ∀ entries, empty = .dict entries → entries = [])
    (ran : (note number empty).run before = .ok ((), after)) : Grows before after := by
  have noted : Collects (before.becomes number empty) number := by
    intro inside
    rw [Builder.becomes, Array.size_setIfInBounds] at inside
    exact ⟨empty, part?_becomes_self inside, other⟩
  have becomes : Grows before (before.becomes number empty) := by
    refine grows_becomes (fun old found ↦ ?_) (fun isKey ↦ ?_) fun entries dict ↦ ?_
    · rw [nothing] at found
      cases found
    · rw [other] at isKey
      cases isKey
    · rw [noEntries entries dict]
      exact ⟨nofun, .nil⟩
  cases ran
  refine trans_of Grows becomes (grows_waiting fun other mem ↦ ?_)
  rcases List.mem_append.1 mem with before | new
  · exact .inl before
  · exact .inr (List.mem_singleton.1 new ▸ noted)

/-- A scalar becomes its value at once. -/
theorem grows_of_scalar {before between : Builder} {number : Nat} {tag : Tag} {part : Part}
    (nothing : before.part? number = none)
    (made : (scalarPart tag number).run before = .ok (part, between)) :
    Grows before (between.becomes number part) := by
  have same := keeps_scalarPart _ _ _ _ _ made
  have scalar := isScalar_scalarPart _ _ _ _ made
  rw [Builder.part?, ← same.1] at nothing
  refine trans_of Grows same.grows (grows_becomes (fun old found ↦ ?_) (fun _ ↦ scalar) ?_)
  · rw [Builder.part?, nothing] at found
    cases found
  · rintro entries rfl
    cases scalar

theorem keeps_start (number : Nat) : Keeps Grows (start number) := by
  intro before after _ ran
  obtain ⟨found, between, looked, ran⟩ := exists_of_run_bind ran
  cases looked
  split at ran
  · next nothing =>
    have nothing : before.part? number = none := Option.isNone_iff_eq_none.1 nothing
    obtain ⟨tag, between, tagged, ran⟩ := exists_of_run_bind ran
    cases tagged
    -- Five tags are those of collections, three those of marks, and the others those of scalars.
    split at ran
    · exact grows_of_note nothing rfl (by simp) ran
    · exact grows_of_note nothing rfl (by simp) ran
    · exact grows_of_note nothing rfl (by simp) ran
    · exact grows_of_note nothing rfl (by simp) ran
    · exact grows_of_note nothing rfl (by simp) ran
    · cases ran
    · cases ran
    · cases ran
    · obtain ⟨part, between, made, ran⟩ := exists_of_run_bind ran
      cases ran
      exact grows_of_scalar nothing made
  · cases ran
    exact refl_of Grows _

/-! ### Collections -/

theorem map_fst_putEntry (parts : Array (Option Part)) (key value : Nat)
    (entries : List (Nat × Nat)) :
    (putEntry parts key value entries).map Prod.fst =
      if entries.any fun entry ↦ sameKey parts entry.1 key then entries.map Prod.fst
      else entries.map Prod.fst ++ [key] := by
  induction entries with
  | nil => rfl
  | cons entry rest ih =>
    rw [putEntry, List.any_cons]
    cases same : sameKey parts entry.1 key with
    | true => simp
    | false =>
      rw [if_neg Bool.false_ne_true, List.map_cons, ih, Bool.false_or]
      split <;> rfl

theorem Distinct.putEntry {builder : Builder} {entries : List (Nat × Nat)} {key : Nat} {part : Part}
    (distinct : Distinct builder (entries.map Prod.fst)) (found : builder.part? key = some part)
    (isKey : part.isKey = true) (value : Nat) :
    Distinct builder ((putEntry builder.parts key value entries).map Prod.fst) := by
  rw [map_fst_putEntry]
  split
  · exact distinct
  · next new =>
    rw [Bool.not_eq_true, List.any_eq_false] at new
    refine ⟨fun other mem ↦ ?_, List.pairwise_append.2
      ⟨distinct.differ, List.pairwise_singleton _ _, fun other mem last same ↦ ?_⟩⟩
    · rcases List.mem_append.1 mem with before | last
      · exact distinct.isKey other before
      · exact ⟨part, List.mem_singleton.1 last ▸ found, isKey⟩
    · obtain ⟨entry, inside, rfl⟩ := List.mem_map.1 mem
      rw [List.mem_singleton.1 same]
      exact Bool.not_eq_true _ ▸ new entry inside

/-- The entries of a dictionary are put together one by one, and no key comes twice. -/
theorem distinct_of_dictEntries {number : Nat} {before after : Builder} {entries : List (Nat × Nat)}
    (sound : Sound before) (ran : (dictEntries number).run before = .ok (entries, after)) :
    Sound after ∧ Extends before after ∧ Distinct after (entries.map Prod.fst) := by
  obtain ⟨_, between, looked, ran⟩ := exists_of_run_bind ran
  cases looked
  obtain ⟨_, flattened, flat, ran⟩ := exists_of_run_bind ran
  obtain ⟨pairs, between, listed, ran⟩ := exists_of_run_bind ran
  have same := trans_of SameParts (keeps_flatten _ _ _ _ _ _ flat) (keeps_entriesOf _ _ _ _ listed)
  obtain ⟨sound, extends_⟩ := same.grows sound
  have none_yet : Distinct between (([] : List (Nat × Nat)).map Prod.fst) := ⟨nofun, .nil⟩
  clear flat listed same
  generalize ([] : List (Nat × Nat)) = taken at ran none_yet
  induction pairs generalizing taken between with
  | nil =>
    cases ran
    exact ⟨sound, extends_, none_yet⟩
  | cons pair rest ih =>
    obtain ⟨key, value⟩ := pair
    rw [List.foldlM_cons] at ran
    obtain ⟨taken', stepped, step, ran⟩ := exists_of_run_bind ran
    obtain ⟨_, keyed, started, step⟩ := exists_of_run_bind step
    obtain ⟨found, _, looked, step⟩ := exists_of_run_bind step
    cases looked
    split at step
    · cases step
    · next isKey =>
      obtain ⟨_, valued, started', step⟩ := exists_of_run_bind step
      cases step
      obtain ⟨sound, extendsKey⟩ := keeps_start key _ _ _ started sound
      obtain ⟨sound, extendsValue⟩ := keeps_start value _ _ _ started' sound
      rw [Bool.not_eq_true, Bool.not_eq_false', Option.any_eq_true] at isKey
      obtain ⟨part, found, isKey⟩ := isKey
      have later := none_yet.mono (extendsKey.trans extendsValue)
      exact ih _ sound (extends_.trans (extendsKey.trans extendsValue)) _ ran
        (later.putEntry (extendsValue.key key part found isKey) isKey value)

theorem keeps_pairOf (number : Nat) : Keeps Grows (pairOf number) := by
  refine (keeps_entriesOf number).grows.bind fun entries ↦ ?_
  split
  · exact (keeps_start _).bind fun _ ↦ (keeps_start _).bind fun _ ↦ .pure _
  · exact .refuse

/-- A collection gets its members. -/
theorem grows_of_finish {number : Nat} {before after : Builder} (collects : Collects before number)
    (ran : (finish number).run before = .ok ((), after)) : Grows before after := by
  intro sound
  -- Whatever it takes to get the members, the node is still a collection then.
  have become_ {between : Builder} {part : Part} (grown : Sound between ∧ Extends before between)
      (other : part.isKey = false)
      (dict : ∀ entries, part = .dict entries → Distinct between (entries.map Prod.fst)) :
      Sound (between.becomes number part) ∧ Extends before (between.becomes number part) := by
    obtain ⟨sound, extends_⟩ := grown
    obtain ⟨sound, more⟩ :=
      grows_becomes_of_collects (collects.mono extends_) other dict sound
    exact ⟨sound, extends_.trans more⟩
  obtain ⟨tag, _, tagged, ran⟩ := exists_of_run_bind ran
  cases tagged
  split at ran
  · obtain ⟨items, _, listed, ran⟩ := exists_of_run_bind ran
    obtain ⟨_, _, starts, ran⟩ := exists_of_run_bind ran
    cases ran
    have grown := trans_of Grows ((keeps_itemsOf _).grows _ _ _ listed)
      ((Keeps.forM fun item _ ↦ keeps_start item) _ _ _ starts)
    exact become_ (grown sound) rfl nofun
  · obtain ⟨entries, _, made, ran⟩ := exists_of_run_bind ran
    cases ran
    obtain ⟨sound, extends_, distinct⟩ := distinct_of_dictEntries sound made
    refine become_ ⟨sound, extends_⟩ rfl ?_
    rintro _ ⟨⟩
    exact distinct
  · obtain ⟨entries, _, made, ran⟩ := exists_of_run_bind ran
    cases ran
    obtain ⟨sound, extends_, -⟩ := distinct_of_dictEntries sound made
    exact become_ ⟨sound, extends_⟩ rfl nofun
  · obtain ⟨items, _, listed, ran⟩ := exists_of_run_bind ran
    obtain ⟨pairs, _, paired, ran⟩ := exists_of_run_bind ran
    cases ran
    have grown := trans_of Grows ((keeps_itemsOf _).grows _ _ _ listed)
      ((Keeps.mapM fun item _ ↦ keeps_pairOf item) _ _ _ paired)
    exact become_ (grown sound) rfl nofun

/-- **All collections get their members**, and what is made of the nodes is sound. -/
theorem keeps_finishAll (fuel : Nat) : Keeps Grows (finishAll fuel) := by
  induction fuel with
  | zero => exact .pure _
  | succ fuel ih =>
    intro before after _ ran sound
    obtain ⟨_, _, looked, ran⟩ := exists_of_run_bind ran
    cases looked
    split at ran
    · cases ran
      exact ⟨sound, .refl _⟩
    · next number rest waits =>
      obtain ⟨_, _, taken, ran⟩ := exists_of_run_bind ran
      cases taken
      obtain ⟨_, finished, ran, ran'⟩ := exists_of_run_bind ran
      have fewer : Grows before { before with waiting := rest } :=
        grows_waiting fun other mem ↦ .inl (waits ▸ List.mem_cons_of_mem _ mem)
      have collects : Collects { before with waiting := rest } number :=
        sound.waiting number (waits ▸ List.mem_cons_self)
      have grown := trans_of Grows (grows_of_finish collects ran) (ih _ _ _ ran')
      exact trans_of Grows fewer grown sound

theorem keeps_build (number : Nat) : Keeps Grows (build number) :=
  (keeps_start number).bind fun _ ↦ Keeps.get.bind fun _ ↦ keeps_finishAll _

end Build

end Tabstave.Yaml
