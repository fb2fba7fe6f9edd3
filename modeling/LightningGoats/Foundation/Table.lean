import Mathlib.Data.List.Pairwise
import Mathlib.Data.List.Nodup
import Mathlib.Algebra.BigOperators.Group.List.Basic
import Mathlib.Algebra.Ring.Int.Defs

/-! # Tables with unique indexes

A table is the list of its rows in insertion order, each under the rowid it
was given. The unique indexes of a table are summarised by one relation
`clash`: two rows clash when some index maps both to the same key. A table
carries the proof that no two of its rows clash, so a duplicate row cannot be
built; an insertion has to show that the new row is fresh.
-/

namespace Relational

/-- Two rows agree on an index that both of them occupy. A row whose index
value is `none` (SQL `NULL`) agrees with nothing. -/
def SameKey {Row Key : Type} (index : Row → Option Key) (left right : Row) : Prop :=
  (index left).isSome = true ∧ index left = index right

instance {Row Key : Type} [DecidableEq Key] (index : Row → Option Key) :
    DecidableRel (SameKey index) :=
  fun left right => inferInstanceAs
    (Decidable ((index left).isSome = true ∧ index left = index right))

instance {Row Key : Type} (index : Row → Option Key) : Std.Symm (SameKey index) where
  symm _ _ same := ⟨same.2 ▸ same.1, same.2.symm⟩

theorem sameKey_iff {Row Key : Type} {index : Row → Option Key} {left right : Row} :
    SameKey index left right ↔ ∃ key, index left = some key ∧ index right = some key := by
  constructor
  · rintro ⟨occupied, equal⟩
    rcases Option.isSome_iff_exists.mp occupied with ⟨key, leftKey⟩
    exact ⟨key, leftKey, equal ▸ leftKey⟩
  · rintro ⟨key, leftKey, rightKey⟩
    exact ⟨by simp [leftKey], leftKey.trans rightKey.symm⟩

def EitherClash {Row : Type} (first second : Row → Row → Prop) (left right : Row) : Prop :=
  first left right ∨ second left right

instance {Row : Type} {first second : Row → Row → Prop} [DecidableRel first]
    [DecidableRel second] : DecidableRel (EitherClash first second) :=
  fun left right => inferInstanceAs (Decidable (first left right ∨ second left right))

instance {Row : Type} {first second : Row → Row → Prop} [Std.Symm first]
    [Std.Symm second] : Std.Symm (EitherClash first second) where
  symm _ _ clashes := clashes.imp (Std.Symm.symm _ _) (Std.Symm.symm _ _)

theorem SameKey.of_preserved {Row Key : Type} {index : Row → Option Key}
    {left right newLeft newRight : Row} (leftKey : index newLeft = index left)
    (rightKey : index newRight = index right) (same : SameKey index newLeft newRight) :
    SameKey index left right := by
  rw [SameKey, leftKey, rightKey] at same
  exact same

def NoClash {Row : Type} (_ _ : Row) : Prop :=
  False

instance {Row : Type} : DecidableRel (@NoClash Row) :=
  fun _ _ => inferInstanceAs (Decidable False)

/-- Rows with their rowids in insertion order, the largest rowid ever handed
out, and the proof that the unique indexes hold. -/
structure Table {Row : Type} (clash : Row → Row → Prop) where
  entries : List (Nat × Row)
  sequence : Nat
  ascending : entries.Pairwise fun left right => left.1 < right.1
  bounded : ∀ entry ∈ entries, entry.1 ≤ sequence
  distinct : entries.Pairwise fun left right => ¬ clash left.2 right.2

namespace Table

variable {Row : Type} {clash : Row → Row → Prop}

def empty : Table clash where
  entries := []
  sequence := 0
  ascending := .nil
  bounded := by simp
  distinct := .nil

def rows (table : Table clash) : List Row :=
  table.entries.map Prod.snd

/-- No stored row clashes with `row`. -/
def Fresh (table : Table clash) (row : Row) : Prop :=
  ∀ existing ∈ table.rows, ¬ clash existing row

instance [DecidableRel clash] (table : Table clash) (row : Row) :
    Decidable (table.Fresh row) :=
  inferInstanceAs (Decidable (∀ existing ∈ table.rows, ¬ clash existing row))

def nextRowid (table : Table clash) : Nat :=
  table.sequence + 1

def insert (table : Table clash) (row : Row) (fresh : table.Fresh row) : Table clash where
  entries := table.entries ++ [(table.nextRowid, row)]
  sequence := table.nextRowid
  ascending := by
    refine List.pairwise_append.mpr ⟨table.ascending, by simp, ?_⟩
    intro entry member added isAdded
    have below := table.bounded entry member
    simp only [List.mem_singleton] at isAdded
    subst isAdded
    exact Nat.lt_succ_of_le below
  bounded := by
    intro entry member
    rcases List.mem_append.mp member with old | added
    · exact Nat.le_succ_of_le (table.bounded entry old)
    · simp only [List.mem_singleton] at added
      subst added
      exact Nat.le_refl _
  distinct := by
    refine List.pairwise_append.mpr ⟨table.distinct, by simp, ?_⟩
    intro entry member added isAdded
    simp only [List.mem_singleton] at isAdded
    subst isAdded
    exact fresh entry.2 (List.mem_map_of_mem member)

/-- Rewrite every row, given its rowid. The change must not make two rows clash
that did not clash before. -/
def updateEntries (table : Table clash) (change : Nat → Row → Row)
    (keeps : ∀ leftId rightId left right,
      clash (change leftId left) (change rightId right) → clash left right) :
    Table clash where
  entries := table.entries.map fun entry => (entry.1, change entry.1 entry.2)
  sequence := table.sequence
  ascending := List.pairwise_map.mpr table.ascending
  bounded := by
    intro entry member
    rcases List.mem_map.mp member with ⟨source, sourceMember, rfl⟩
    exact table.bounded source sourceMember
  distinct := List.pairwise_map.mpr
    (table.distinct.imp fun notClash clashes => notClash (keeps _ _ _ _ clashes))

def update (table : Table clash) (change : Row → Row)
    (keeps : ∀ left right, clash (change left) (change right) → clash left right) :
    Table clash :=
  table.updateEntries (fun _ => change) fun _ _ => keeps

def delete (table : Table clash) (selected : Row → Bool) : Table clash where
  entries := table.entries.filter fun entry => !selected entry.2
  sequence := table.sequence
  ascending := table.ascending.filter _
  bounded := fun entry member => table.bounded entry (List.mem_filter.mp member).1
  distinct := table.distinct.filter _

def get? (table : Table clash) (rowid : Nat) : Option Row :=
  (table.entries.find? fun entry => entry.1 = rowid).map Prod.snd

theorem mem_rows {table : Table clash} {row : Row} :
    row ∈ table.rows ↔ ∃ rowid, (rowid, row) ∈ table.entries := by
  simp [rows]

theorem mem_rows_of_mem_entries {table : Table clash} {entry : Nat × Row}
    (member : entry ∈ table.entries) : entry.2 ∈ table.rows :=
  List.mem_map_of_mem member

@[simp] theorem entries_empty : (empty : Table clash).entries = [] := rfl

@[simp] theorem rows_empty : (empty : Table clash).rows = [] := rfl

@[simp] theorem entries_insert (table : Table clash) (row : Row) (fresh : table.Fresh row) :
    (table.insert row fresh).entries = table.entries ++ [(table.nextRowid, row)] := rfl

@[simp] theorem rows_insert (table : Table clash) (row : Row) (fresh : table.Fresh row) :
    (table.insert row fresh).rows = table.rows ++ [row] := by
  simp [rows]

theorem mem_rows_insert {table : Table clash} {added row : Row}
    (fresh : table.Fresh added) :
    row ∈ (table.insert added fresh).rows ↔ row ∈ table.rows ∨ row = added := by
  simp

theorem mem_entries_insert {table : Table clash} {added : Row} {entry : Nat × Row}
    (fresh : table.Fresh added) :
    entry ∈ (table.insert added fresh).entries ↔
      entry ∈ table.entries ∨ entry = (table.nextRowid, added) := by
  simp

theorem mem_rows_insert_old {table : Table clash} {added row : Row}
    (fresh : table.Fresh added) (member : row ∈ table.rows) :
    row ∈ (table.insert added fresh).rows :=
  (mem_rows_insert fresh).mpr (.inl member)

theorem mem_rows_insert_new {table : Table clash} {added : Row}
    (fresh : table.Fresh added) : added ∈ (table.insert added fresh).rows :=
  (mem_rows_insert fresh).mpr (.inr rfl)

theorem mem_entries_insert_old {table : Table clash} {added : Row} {entry : Nat × Row}
    (fresh : table.Fresh added) (member : entry ∈ table.entries) :
    entry ∈ (table.insert added fresh).entries :=
  (mem_entries_insert fresh).mpr (.inl member)

theorem mem_entries_insert_new {table : Table clash} {added : Row}
    (fresh : table.Fresh added) :
    (table.nextRowid, added) ∈ (table.insert added fresh).entries :=
  (mem_entries_insert fresh).mpr (.inr rfl)

@[simp] theorem entries_updateEntries (table : Table clash) (change : Nat → Row → Row)
    (keeps : ∀ leftId rightId left right,
      clash (change leftId left) (change rightId right) → clash left right) :
    (table.updateEntries change keeps).entries =
      table.entries.map fun entry => (entry.1, change entry.1 entry.2) := rfl

@[simp] theorem entries_update (table : Table clash) (change : Row → Row)
    (keeps : ∀ left right, clash (change left) (change right) → clash left right) :
    (table.update change keeps).entries =
      table.entries.map fun entry => (entry.1, change entry.2) := rfl

@[simp] theorem rows_update (table : Table clash) (change : Row → Row)
    (keeps : ∀ left right, clash (change left) (change right) → clash left right) :
    (table.update change keeps).rows = table.rows.map change := by
  simp [rows, Function.comp_def]

@[simp] theorem rows_delete (table : Table clash) (selected : Row → Bool) :
    (table.delete selected).rows = table.rows.filter fun row => !selected row := by
  simp [rows, delete, List.filter_map, Function.comp_def]

theorem update_eq_self (table : Table clash) {change : Row → Row}
    (keeps : ∀ left right, clash (change left) (change right) → clash left right)
    (unchanged : ∀ row ∈ table.rows, change row = row) : table.update change keeps = table := by
  have same : (table.update change keeps).entries = table.entries := by
    rw [entries_update]
    refine (List.map_congr_left fun entry member => ?_).trans (List.map_id _)
    rw [unchanged entry.2 (mem_rows_of_mem_entries member)]
    rfl
  rcases table with ⟨entries, sequence, ascending, bounded, distinct⟩
  simp only [update, updateEntries] at same ⊢
  congr 1

theorem find?_rows_insert (table : Table clash) {added : Row} (fresh : table.Fresh added)
    (selected : Row → Bool) :
    (table.insert added fresh).rows.find? selected =
      (table.rows.find? selected).or (if selected added then some added else none) := by
  rw [rows_insert, List.find?_append, List.find?_singleton]

@[simp] theorem nextRowid_update (table : Table clash) (change : Row → Row)
    (keeps : ∀ left right, clash (change left) (change right) → clash left right) :
    (table.update change keeps).nextRowid = table.nextRowid := rfl

theorem nextRowid_not_mem (table : Table clash) (row : Row) :
    (table.nextRowid, row) ∉ table.entries := by
  intro member
  have below := table.bounded _ member
  simp only [nextRowid] at below
  omega

theorem row_unique (table : Table clash) {rowid : Nat} {left right : Row}
    (leftMember : (rowid, left) ∈ table.entries)
    (rightMember : (rowid, right) ∈ table.entries) : left = right := by
  have rowids : (table.entries.map Prod.fst).Nodup :=
    List.pairwise_map.mpr (table.ascending.imp fun less => Nat.ne_of_lt less)
  exact congrArg Prod.snd
    (List.inj_on_of_nodup_map rowids leftMember rightMember rfl)

theorem entries_nodup (table : Table clash) : table.entries.Nodup :=
  List.nodup_iff_pairwise_ne.mpr (table.ascending.imp fun less equal =>
    Nat.ne_of_lt less (congrArg Prod.fst equal))

theorem get?_eq_some {table : Table clash} {rowid : Nat} {row : Row} :
    table.get? rowid = some row ↔ (rowid, row) ∈ table.entries := by
  constructor
  · intro found
    rcases Option.map_eq_some_iff.mp found with ⟨entry, isFound, rfl⟩
    have sameRowid : entry.1 = rowid := by simpa using List.find?_some isFound
    exact sameRowid ▸ List.mem_of_find?_eq_some isFound
  · intro member
    cases search : table.entries.find? fun entry => entry.1 = rowid with
    | none =>
        have absent := List.find?_eq_none.mp search _ member
        simp at absent
    | some entry =>
        have sameRowid : entry.1 = rowid := by simpa using List.find?_some search
        have found : (rowid, entry.2) ∈ table.entries :=
          sameRowid ▸ List.mem_of_find?_eq_some search
        simp [get?, search, table.row_unique found member]

theorem get?_insert_of_some {table : Table clash} {rowid : Nat} {row added : Row}
    (fresh : table.Fresh added) (found : table.get? rowid = some row) :
    (table.insert added fresh).get? rowid = some row := by
  rw [get?_eq_some] at found ⊢
  exact List.mem_append_left _ found

theorem get?_insert_self (table : Table clash) (row : Row) (fresh : table.Fresh row) :
    (table.insert row fresh).get? table.nextRowid = some row := by
  rw [get?_eq_some]
  simp

theorem get?_updateEntries (table : Table clash) (change : Nat → Row → Row)
    (keeps : ∀ leftId rightId left right,
      clash (change leftId left) (change rightId right) → clash left right) (rowid : Nat) :
    (table.updateEntries change keeps).get? rowid = (table.get? rowid).map (change rowid) := by
  simp only [get?, entries_updateEntries, List.find?_map, Function.comp_def, Option.map_map]
  cases search : table.entries.find? fun entry => entry.1 = rowid with
  | none => rfl
  | some entry =>
      have sameRowid : entry.1 = rowid := by simpa using List.find?_some search
      simp [sameRowid]

section Clash

variable [Std.Symm clash]

theorem entry_eq_of_clash (table : Table clash) {left right : Nat × Row}
    (leftMember : left ∈ table.entries) (rightMember : right ∈ table.entries)
    (clashes : clash left.2 right.2) : left = right := by
  by_contra different
  have symmetric : Std.Symm fun left right : Nat × Row => ¬ clash left.2 right.2 :=
    ⟨fun _ _ notClash clashes => notClash (Std.Symm.symm _ _ clashes)⟩
  exact table.distinct.forall leftMember rightMember different clashes

theorem row_eq_of_clash (table : Table clash) {left right : Row}
    (leftMember : left ∈ table.rows) (rightMember : right ∈ table.rows)
    (clashes : clash left right) : left = right := by
  rcases mem_rows.mp leftMember with ⟨leftId, leftEntry⟩
  rcases mem_rows.mp rightMember with ⟨rightId, rightEntry⟩
  exact congrArg Prod.snd (table.entry_eq_of_clash leftEntry rightEntry clashes)

theorem find?_eq_some_of_clash (table : Table clash) {row : Row}
    (selected : Row → Bool) (member : row ∈ table.rows) (isSelected : selected row = true)
    (decides : ∀ left right, selected left = true → selected right = true →
      clash left right) :
    table.rows.find? selected = some row := by
  cases search : table.rows.find? selected with
  | none =>
      have absent := List.find?_eq_none.mp search row member
      exact absurd isSelected absent
  | some found =>
      have foundSelected := List.find?_some search
      have foundMember := List.mem_of_find?_eq_some search
      rw [table.row_eq_of_clash foundMember member (decides _ _ foundSelected isSelected)]

end Clash

theorem find?_key_eq_some {Key : Type} [DecidableEq Key] {key : Row → Key}
    {table : Table (SameKey fun row => some (key row))} {value : Key} {row : Row} :
    (table.rows.find? fun row => key row = value) = some row ↔
      row ∈ table.rows ∧ key row = value := by
  constructor
  · intro found
    exact ⟨List.mem_of_find?_eq_some found, by simpa using List.find?_some found⟩
  · rintro ⟨member, sameKey⟩
    refine table.find?_eq_some_of_clash _ member (by simp [sameKey]) fun left right isLeft
      isRight => sameKey_iff.mpr ⟨value, ?_, ?_⟩
    · exact congrArg some (decide_eq_true_eq.mp isLeft)
    · exact congrArg some (decide_eq_true_eq.mp isRight)

theorem row_eq_of_key {Key : Type} {key : Row → Key}
    (table : Table (SameKey fun row => some (key row))) {left right : Row}
    (leftMember : left ∈ table.rows) (rightMember : right ∈ table.rows)
    (same : key left = key right) : left = right :=
  table.row_eq_of_clash leftMember rightMember
    (sameKey_iff.mpr ⟨key left, rfl, congrArg some same.symm⟩)

theorem fresh_of_key {Key : Type} {key : Row → Key}
    {table : Table (SameKey fun row => some (key row))} {row : Row}
    (absent : ∀ existing ∈ table.rows, key existing ≠ key row) : table.Fresh row := by
  intro existing member clashes
  rcases sameKey_iff.mp clashes with ⟨value, isExisting, isRow⟩
  exact absent existing member (Option.some.inj (isExisting.trans isRow.symm))

theorem keys_nodup {Key : Type} {key : Row → Key}
    (table : Table (SameKey fun row => some (key row))) : (table.rows.map key).Nodup :=
  List.pairwise_map.mpr (List.pairwise_map.mpr (table.distinct.imp
    fun {left _} notClash same =>
      notClash (sameKey_iff.mpr ⟨key left.2, rfl, congrArg some same.symm⟩)))

/-- The rows that were there are still there, unchanged and first, and later
rows have later rowids. -/
structure Extends (before after : Table clash) : Prop where
  kept : ∃ added, after.entries = before.entries ++ added
  later : ∀ entry ∈ after.entries, entry ∈ before.entries ∨ before.sequence < entry.1
  grows : before.sequence ≤ after.sequence

namespace Extends

theorem refl (table : Table clash) : Extends table table :=
  ⟨⟨[], by simp⟩, fun _ member => .inl member, Nat.le_refl _⟩

theorem insert (table : Table clash) (row : Row) (fresh : table.Fresh row) :
    Extends table (table.insert row fresh) := by
  refine ⟨⟨_, rfl⟩, fun entry member => ?_, Nat.le_succ _⟩
  rcases (mem_entries_insert fresh).mp member with old | rfl
  · exact .inl old
  · exact .inr (Nat.lt_succ_self _)

theorem added_later {before after : Table clash} (extended : Extends before after) :
    ∃ added, after.entries = before.entries ++ added ∧
      ∀ entry ∈ added, before.sequence < entry.1 := by
  rcases extended.kept with ⟨added, equal⟩
  refine ⟨added, equal, fun entry member => ?_⟩
  have inAfter : entry ∈ after.entries := by
    rw [equal]
    exact List.mem_append_right _ member
  cases extended.later entry inAfter with
  | inr later => exact later
  | inl old =>
      have ascending := after.ascending
      rw [equal] at ascending
      have less := (List.pairwise_append.mp ascending).2.2 entry old entry member
      exact absurd less (Nat.lt_irrefl _)

theorem trans {first second third : Table clash} (left : Extends first second)
    (right : Extends second third) : Extends first third := by
  refine ⟨?_, fun entry member => ?_, Nat.le_trans left.grows right.grows⟩
  · rcases left.kept with ⟨leftAdded, leftKept⟩
    rcases right.kept with ⟨rightAdded, rightKept⟩
    exact ⟨leftAdded ++ rightAdded, by rw [rightKept, leftKept, List.append_assoc]⟩
  · rcases right.later entry member with inSecond | after
    · exact left.later entry inSecond
    · exact .inr (Nat.lt_of_le_of_lt left.grows after)

variable {before after : Table clash}

theorem mem_entries (kept : Extends before after) {entry : Nat × Row}
    (member : entry ∈ before.entries) : entry ∈ after.entries := by
  rcases kept.kept with ⟨added, equal⟩
  rw [equal]
  exact List.mem_append_left _ member

theorem mem_rows (kept : Extends before after) {row : Row}
    (member : row ∈ before.rows) : row ∈ after.rows := by
  rcases Table.mem_rows.mp member with ⟨rowid, entry⟩
  exact Table.mem_rows.mpr ⟨rowid, kept.mem_entries entry⟩

/-- What was found under a rowid that had been handed out is still found, and nothing
else has taken its place. -/
theorem get?_eq (kept : Extends before after) {rowid : Nat} (below : rowid ≤ before.sequence) :
    after.get? rowid = before.get? rowid := by
  refine Option.ext fun row => ?_
  rw [get?_eq_some, get?_eq_some]
  constructor
  · intro member
    rcases kept.later _ member with old | later
    · exact old
    · exact absurd below (Nat.not_le.mpr later)
  · exact kept.mem_entries

/-- The rows up to a bound that no later rowid reaches are the earlier rows. -/
theorem filter_le (kept : Extends before after) {bound : Nat}
    (within : ∀ entry ∈ before.entries, entry.1 ≤ bound) (below : bound ≤ before.sequence) :
    (after.entries.filter fun entry => entry.1 ≤ bound) = before.entries := by
  rcases kept.kept with ⟨added, equal⟩
  have afterIds := after.ascending
  rw [equal] at afterIds ⊢
  have addedLater : ∀ entry ∈ added, bound < entry.1 := by
    intro entry member
    rcases kept.later entry (by rw [equal]; exact List.mem_append_right _ member) with old | later
    · have less := (List.pairwise_append.mp afterIds).2.2 entry old entry member
      omega
    · omega
  rw [List.filter_append, List.filter_eq_self.mpr (by simpa using within),
    List.filter_eq_nil_iff.mpr, List.append_nil]
  intro entry member
  have later := addedLater entry member
  simp only [decide_eq_true_eq]
  omega

end Extends

/-- Rows that clash with themselves, as the rows of a table with a primary
key do, are stored once. -/
theorem rows_nodup (table : Table clash) (reflexive : ∀ row, clash row row) :
    table.rows.Nodup :=
  List.pairwise_map.mpr (table.distinct.imp fun {left right} notClash equal =>
    notClash (by rw [equal]; exact reflexive right.2))

end Table

theorem filter_eq_singleton {Row : Type} {rows : List Row} (nodup : rows.Nodup)
    {selected : Row → Bool} {row : Row} (member : row ∈ rows)
    (isSelected : selected row = true)
    (only : ∀ other ∈ rows, selected other = true → other = row) :
    rows.filter selected = [row] := by
  refine List.perm_singleton.mp ((List.perm_ext_iff_of_nodup (nodup.filter _)
    (List.nodup_singleton _)).mpr fun other => ?_)
  rw [List.mem_filter, List.mem_singleton]
  constructor
  · rintro ⟨otherMember, otherSelected⟩
    exact only other otherMember otherSelected
  · rintro rfl
    exact ⟨member, isSelected⟩

theorem eq_singleton_of_length {Row : Type} {rows : List Row} (atMostOne : rows.length ≤ 1)
    {row : Row} (member : row ∈ rows) : rows = [row] := by
  cases rows with
  | nil => cases member
  | cons head tail =>
      have tailNil : tail = [] := List.length_eq_zero_iff.mp (by
        simp only [List.length_cons] at atMostOne
        omega)
      subst tailNil
      rw [List.mem_singleton.mp member]

theorem filter_length_le_one {Row : Type} {rows : List Row} (nodup : rows.Nodup)
    {selected : Row → Bool} (unique : ∀ left ∈ rows, ∀ right ∈ rows,
      selected left = true → selected right = true → left = right) :
    (rows.filter selected).length ≤ 1 := by
  cases found : rows.filter selected with
  | nil => exact Nat.zero_le 1
  | cons row others =>
      have isFirst : row ∈ rows.filter selected := by
        rw [found]
        exact List.mem_cons_self
      rcases List.mem_filter.mp isFirst with ⟨member, isSelected⟩
      rw [← found, filter_eq_singleton nodup member isSelected fun other otherMember same =>
        unique other otherMember row member same isSelected]
      exact Nat.le_refl 1

theorem sum_filter_map {Row : Type} (rows : List Row) (selected : Row → Bool)
    (measure : Row → Int) :
    ((rows.filter selected).map measure).sum =
      (rows.map fun row => if selected row then measure row else 0).sum := by
  induction rows with
  | nil => rfl
  | cons head tail induction =>
      cases isSelected : selected head <;> simp [isSelected, induction]

/-- An update that leaves every row but one unmeasured changes a sum by the
change at that row. -/
theorem sum_map_update {Row : Type} {rows : List Row} (nodup : rows.Nodup)
    {row : Row} (member : row ∈ rows) (before after : Row → Int)
    (others : ∀ other ∈ rows, other ≠ row → after other = before other) :
    (rows.map after).sum = (rows.map before).sum + (after row - before row) := by
  induction rows with
  | nil => cases member
  | cons head tail induction =>
      have parts := List.nodup_cons.mp nodup
      simp only [List.map_cons, List.sum_cons]
      rcases List.mem_cons.mp member with equal | inTail
      · subst equal
        have same : tail.map after = tail.map before :=
          List.map_congr_left fun other otherMember =>
            others other (List.mem_cons_of_mem _ otherMember)
              fun equal => parts.1 (equal ▸ otherMember)
        rw [same]
        omega
      · have headSame := others head List.mem_cons_self
          fun equal => parts.1 (equal ▸ inTail)
        rw [headSame, induction parts.2 inTail fun other otherMember =>
          others other (List.mem_cons_of_mem _ otherMember)]
        omega

end Relational
