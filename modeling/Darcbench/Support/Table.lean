import Mathlib.Data.List.Induction
import Mathlib.Data.List.Nodup

/-!
# Tables with a primary key

The rows of a table in the order of their row numbers.  A row that replaces
another one is numbered anew, so it comes last.
-/

namespace Darcbench

/-- Rows of which no two have the same key. -/
structure Table {α κ : Type} (key : α → κ) where
  rows : List α
  nodup : (rows.map key).Nodup

namespace Table

variable {α κ : Type} [DecidableEq κ] {key : α → κ}

def empty : Table key where
  rows := []
  nodup := List.nodup_nil

/-- The row with a given key. -/
def find? (table : Table key) (k : κ) : Option α :=
  table.rows.find? fun row => decide (key row = k)

/-- The table without the row with a given key. -/
def delete (table : Table key) (k : κ) : Table key where
  rows := table.rows.filter fun row => key row ≠ k
  nodup := table.nodup.sublist (List.filter_sublist.map key)

theorem mem_delete_iff {table : Table key} {k : κ} {row : α} :
    row ∈ (table.delete k).rows ↔ row ∈ table.rows ∧ key row ≠ k := by
  rw [← decide_eq_true_eq (p := key row ≠ k)]
  exact List.mem_filter

theorem notMem_keys_delete (table : Table key) (k : κ) :
    k ∉ (table.delete k).rows.map key := by
  intro h
  obtain ⟨row, hrow, hkey⟩ := List.mem_map.mp h
  exact (mem_delete_iff.mp hrow).2 hkey

/-- Inserts a row and removes the one whose key it has. -/
def insertOrReplace (table : Table key) (row : α) : Table key where
  rows := (table.delete (key row)).rows ++ [row]
  nodup := by
    rw [List.map_append, List.map_singleton]
    refine (table.delete (key row)).nodup.append (List.nodup_singleton _) ?_
    rw [List.disjoint_singleton]
    exact table.notMem_keys_delete (key row)

/-- The table that results from inserting rows one after the other. -/
def ofRows (rows : List α) : Table key :=
  rows.foldl insertOrReplace empty

/-! ## Rows and keys -/

theorem find?_eq_some_iff {table : Table key} {k : κ} {row : α} :
    table.find? k = some row ↔ row ∈ table.rows ∧ key row = k := by
  rw [find?]
  constructor
  · intro h
    have hkey := List.find?_some h
    exact ⟨List.mem_of_find?_eq_some h, of_decide_eq_true hkey⟩
  · rintro ⟨hrow, rfl⟩
    cases hfind : table.rows.find? fun other => decide (key other = key row) with
    | none =>
        have hne := List.find?_eq_none.mp hfind row hrow
        exact absurd (decide_eq_true rfl) hne
    | some other =>
        have hother := List.find?_some hfind
        rw [List.inj_on_of_nodup_map table.nodup
          (List.mem_of_find?_eq_some hfind) hrow (of_decide_eq_true hother)]

theorem key_of_find? {table : Table key} {k : κ} {row : α}
    (h : table.find? k = some row) : key row = k :=
  (find?_eq_some_iff.mp h).2

theorem find?_of_mem {table : Table key} {row : α} (h : row ∈ table.rows) :
    table.find? (key row) = some row :=
  find?_eq_some_iff.mpr ⟨h, rfl⟩

@[simp] theorem find?_empty (k : κ) : (empty : Table key).find? k = none :=
  rfl

@[simp] theorem find?_delete_self (table : Table key) (k : κ) :
    (table.delete k).find? k = none := by
  rw [Option.eq_none_iff_forall_ne_some]
  intro row hfind
  obtain ⟨hrow, hkey⟩ := find?_eq_some_iff.mp hfind
  exact (mem_delete_iff.mp hrow).2 hkey

theorem find?_delete_of_ne (table : Table key) {k other : κ}
    (h : other ≠ k) : (table.delete k).find? other = table.find? other := by
  ext row
  rw [find?_eq_some_iff, find?_eq_some_iff, mem_delete_iff]
  constructor
  · rintro ⟨⟨hrow, -⟩, hkey⟩
    exact ⟨hrow, hkey⟩
  · rintro ⟨hrow, hkey⟩
    exact ⟨⟨hrow, hkey ▸ h⟩, hkey⟩

/-- The table without the rows with some keys. -/
def deleteAll (table : Table key) (keys : List κ) : Table key :=
  keys.foldl delete table

theorem deleteAll_concat (table : Table key) (keys : List κ) (k : κ) :
    table.deleteAll (keys ++ [k]) = (table.deleteAll keys).delete k := by
  rw [deleteAll, List.foldl_append]
  rfl

theorem mem_deleteAll_iff {table : Table key} {keys : List κ} {row : α} :
    row ∈ (table.deleteAll keys).rows ↔
      row ∈ table.rows ∧ key row ∉ keys := by
  induction keys using List.reverseRecOn with
  | nil => exact ⟨fun h => ⟨h, List.not_mem_nil⟩, And.left⟩
  | append_singleton keys k ih =>
      rw [deleteAll_concat, mem_delete_iff, ih, List.mem_append,
        List.mem_singleton, not_or, and_assoc]

theorem find?_deleteAll {table : Table key} {keys : List κ} {k : κ}
    (h : k ∉ keys) : (table.deleteAll keys).find? k = table.find? k := by
  ext row
  rw [find?_eq_some_iff, find?_eq_some_iff, mem_deleteAll_iff]
  refine and_congr_left fun hkey => and_iff_left ?_
  rwa [hkey]

theorem mem_insertOrReplace_iff {table : Table key} {row other : α} :
    other ∈ (table.insertOrReplace row).rows ↔
      other = row ∨ other ∈ table.rows ∧ key other ≠ key row := by
  rw [← mem_delete_iff, or_comm, ← List.mem_singleton]
  exact List.mem_append

@[simp] theorem find?_insertOrReplace_self (table : Table key) (row : α) :
    (table.insertOrReplace row).find? (key row) = some row :=
  find?_of_mem (mem_insertOrReplace_iff.mpr (.inl rfl))

theorem find?_insertOrReplace_of_ne (table : Table key) {row : α} {k : κ}
    (h : k ≠ key row) :
    (table.insertOrReplace row).find? k = table.find? k := by
  ext other
  rw [find?_eq_some_iff, find?_eq_some_iff, mem_insertOrReplace_iff]
  constructor
  · rintro ⟨rfl | ⟨hother, -⟩, hkey⟩
    · exact absurd hkey.symm h
    · exact ⟨hother, hkey⟩
  · rintro ⟨hother, rfl⟩
    exact ⟨.inr ⟨hother, h⟩, rfl⟩

theorem ofRows_concat (rows : List α) (row : α) :
    (ofRows (rows ++ [row]) : Table key) = (ofRows rows).insertOrReplace row := by
  rw [ofRows, List.foldl_append, List.foldl_cons, List.foldl_nil, ofRows]

/-- A key leads to the row that was inserted last under it. -/
theorem find?_ofRows (rows : List α) (k : κ) :
    (ofRows rows : Table key).find? k =
      rows.reverse.find? fun row => decide (key row = k) := by
  induction rows using List.reverseRecOn with
  | nil => rfl
  | append_singleton rows row ih =>
      rw [ofRows_concat, List.reverse_append, List.reverse_singleton,
        List.singleton_append, List.find?_cons]
      by_cases hkey : key row = k
      · subst hkey
        rw [find?_insertOrReplace_self, decide_eq_true rfl]
      · rw [find?_insertOrReplace_of_ne _ (Ne.symm hkey), ih,
          decide_eq_false hkey]

/-- A row of a table was among those inserted. -/
theorem mem_of_mem_ofRows {rows : List α} {row : α}
    (h : row ∈ (ofRows rows : Table key).rows) : row ∈ rows := by
  have hfold : ∀ (rest : List α) (table : Table key),
      row ∈ (rest.foldl insertOrReplace table).rows →
        row ∈ rest ∨ row ∈ table.rows := by
    intro rest
    induction rest with
    | nil =>
        intro table hrow
        exact .inr hrow
    | cons first rest ih =>
        intro table hrow
        rcases ih _ hrow with hrest | htable
        · exact .inl (List.mem_cons_of_mem first hrest)
        · rcases mem_insertOrReplace_iff.mp htable with rfl | ⟨hmem, -⟩
          · exact .inl List.mem_cons_self
          · exact .inr hmem
  rcases hfold rows empty h with hrows | hempty
  · exact hrows
  · exact absurd hempty List.not_mem_nil

end Table

end Darcbench
