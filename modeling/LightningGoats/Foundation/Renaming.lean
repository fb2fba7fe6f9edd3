import LightningGoats.Foundation.Table

/-! # Renaming the rows of a table

A renaming of rows that keeps exactly the clashes of a table carries it to a
table with the same rowids. Insertions, searches and updates commute with it.
-/

namespace Relational

structure RowRenaming {Row : Type} (clash : Row → Row → Prop) where
  apply : Row → Row
  clashes : ∀ left right, clash (apply left) (apply right) ↔ clash left right

namespace Table

variable {Row : Type} {clash : Row → Row → Prop}

theorem ext_entries {left right : Table clash} (entries : left.entries = right.entries)
    (sequence : left.sequence = right.sequence) : left = right := by
  cases left
  cases right
  cases entries
  cases sequence
  rfl

def rename (relabelling : RowRenaming clash) (table : Table clash) : Table clash :=
  table.update relabelling.apply fun left right => (relabelling.clashes left right).mp

variable {relabelling : RowRenaming clash} {table : Table clash}

@[simp] theorem entries_rename :
    (table.rename relabelling).entries =
      table.entries.map fun entry => (entry.1, relabelling.apply entry.2) := rfl

@[simp] theorem rows_rename : (table.rename relabelling).rows = table.rows.map relabelling.apply :=
  rows_update _ _ _

@[simp] theorem nextRowid_rename : (table.rename relabelling).nextRowid = table.nextRowid := rfl

@[simp] theorem rename_empty : (empty : Table clash).rename relabelling = empty := rfl

theorem fresh_rename {row : Row} :
    (table.rename relabelling).Fresh (relabelling.apply row) ↔ table.Fresh row := by
  simp only [Fresh, rows_rename, List.forall_mem_map, relabelling.clashes]

theorem rename_insert {row : Row} (fresh : table.Fresh row) :
    (table.insert row fresh).rename relabelling =
      (table.rename relabelling).insert (relabelling.apply row) (fresh_rename.mpr fresh) :=
  ext_entries (by simp) rfl

theorem rename_insert_or_ignore [DecidableRel clash] (row : Row) :
    (if fresh : table.Fresh row then table.insert row fresh else table).rename relabelling =
      if fresh : (table.rename relabelling).Fresh (relabelling.apply row) then
        (table.rename relabelling).insert (relabelling.apply row) fresh
      else table.rename relabelling := by
  by_cases fresh : table.Fresh row
  · rw [dif_pos fresh, dif_pos (fresh_rename.mpr fresh), rename_insert fresh]
  · rw [dif_neg fresh, dif_neg fun other => fresh (fresh_rename.mp other)]

theorem rename_updateEntries {change : Nat → Row → Row}
    {keeps : ∀ leftId rightId left right,
      clash (change leftId left) (change rightId right) → clash left right}
    (commutes : ∀ rowid row,
      relabelling.apply (change rowid row) = change rowid (relabelling.apply row)) :
    (table.updateEntries change keeps).rename relabelling =
      (table.rename relabelling).updateEntries change keeps :=
  ext_entries (by simp [Function.comp_def, commutes]) rfl

theorem rename_update {change renamed : Row → Row}
    {keeps : ∀ left right, clash (change left) (change right) → clash left right}
    {keepsRenamed : ∀ left right, clash (renamed left) (renamed right) → clash left right}
    (commutes : ∀ row, relabelling.apply (change row) = renamed (relabelling.apply row)) :
    (table.update change keeps).rename relabelling =
      (table.rename relabelling).update renamed keepsRenamed :=
  ext_entries (by simp [Function.comp_def, commutes]) rfl

theorem get?_rename {rowid : Nat} :
    (table.rename relabelling).get? rowid = (table.get? rowid).map relabelling.apply :=
  get?_updateEntries _ _ _ _

theorem find?_rename {selected renamed : Row → Bool}
    (respects : ∀ row, renamed (relabelling.apply row) = selected row) :
    (table.rename relabelling).rows.find? renamed =
      (table.rows.find? selected).map relabelling.apply := by
  rw [rows_rename, List.find?_map]
  simp only [Function.comp_def, respects]

end Table

end Relational
