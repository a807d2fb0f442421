import FolderIndex.Database
import Mathlib.Data.List.Nodup

namespace FolderIndex

/-! What a change of the tables does to their rows: one lemma for each change, which says all
that it can do when it succeeds. -/

section ByKey

variable {α : Type} (key : α → String) {row other : α} {rows : List α}

/-- A row put among others stands beside those with another key, and instead of those with its
own. -/
private theorem mem_put_by_key :
    other ∈ (if rows.any (fun old => decide (key old = key row)) then
        rows.map fun old => if key old = key row then row else old
      else rows ++ [row]) ↔
      other = row ∨ other ∈ rows ∧ key other ≠ key row := by
  split
  · rename_i present
    obtain ⟨twin, twinMember, twinKey⟩ : ∃ twin ∈ rows, key twin = key row := by
      simpa using present
    constructor
    · intro member
      obtain ⟨old, oldMember, result⟩ := List.mem_map.mp member
      split at result
      · exact .inl result.symm
      · rename_i apart
        subst result
        exact .inr ⟨oldMember, apart⟩
    · rintro (rfl | ⟨member, apart⟩)
      · exact List.mem_map.mpr ⟨twin, twinMember, by simp [twinKey]⟩
      · exact List.mem_map.mpr ⟨other, member, by simp [apart]⟩
  · rename_i absent
    have apart : ∀ old ∈ rows, key old ≠ key row := by simpa using absent
    simp only [List.mem_append, List.mem_singleton]
    constructor
    · rintro (member | rfl)
      · exact .inr ⟨member, apart other member⟩
      · exact .inl rfl
    · rintro (rfl | ⟨member, _⟩)
      · exact .inr rfl
      · exact .inl member

private theorem keys_put_by_key (present : rows.any (fun old => decide (key old = key row)) = true) :
    (if rows.any (fun old => decide (key old = key row)) then
        rows.map fun old => if key old = key row then row else old
      else rows ++ [row]).map key = rows.map key := by
  rw [if_pos present, List.map_map]
  apply List.map_congr_left
  intro old _
  by_cases same : key old = key row <;> simp [same]

private theorem nodup_put_by_key (distinct : (rows.map key).Nodup) :
    ((if rows.any (fun old => decide (key old = key row)) then
        rows.map fun old => if key old = key row then row else old
      else rows ++ [row]).map key).Nodup := by
  by_cases present : rows.any (fun old => decide (key old = key row)) = true
  · rw [keys_put_by_key key present]
    exact distinct
  · rw [if_neg present]
    have apart : ∀ old ∈ rows, key old ≠ key row := by simpa using present
    rw [List.map_append, List.nodup_append]
    refine ⟨distinct, by simp, ?_⟩
    intro oldKey oldMember newKey newMember
    obtain ⟨old, oldRow, rfl⟩ := List.mem_map.mp oldMember
    have new : newKey = key row := by simpa using newMember
    rw [new]
    exact apart old oldRow

end ByKey

namespace EntryTable

variable {table after : EntryTable} {row other : Entry} {rows : List Entry} {draft : Draft}
  {path : String} {replace removed : Bool}

theorem mem_putRow :
    other ∈ putRow row rows ↔ other = row ∨ other ∈ rows ∧ other.path ≠ row.path :=
  mem_put_by_key Entry.path

theorem nodup_paths_putRow (distinct : (rows.map (·.path)).Nodup) :
    ((putRow row rows).map (·.path)).Nodup :=
  nodup_put_by_key Entry.path distinct

theorem of_find?_eq_some (found : table.find? path = some row) :
    row ∈ table.rows ∧ row.path = path :=
  ⟨List.mem_of_find?_eq_some found, by simpa using List.find?_some found⟩

theorem find?_eq_none_iff : table.find? path = none ↔ ∀ row ∈ table.rows, row.path ≠ path := by
  simp [find?]

/-- An insertion that succeeds was passed over by a trigger, or puts the row of its draft. -/
theorem insert_cases (inserted : table.insert replace draft = .ok after) :
    (table.firing? .insert draft.path = some .ignore ∧ after = table) ∨
      ∃ row, table.firing? .insert draft.path = none ∧ Entry.ofDraft draft = .ok row ∧
        after = { table with rows := putRow row table.rows } := by
  unfold insert at inserted
  split at inserted
  · contradiction
  · rename_i ignored
    cases inserted
    exact .inl ⟨ignored, rfl⟩
  · rename_i quiet
    cases made : Entry.ofDraft draft with
    | error fault =>
        rw [made] at inserted
        contradiction
    | ok row =>
        simp only [made, bind, Except.bind] at inserted
        split at inserted
        · contradiction
        · cases inserted
          exact .inr ⟨row, quiet, rfl, rfl⟩

/-- A removal that succeeds finds no row, was passed over by a trigger, or leaves out the rows
of its path. -/
theorem delete_cases (deleted : table.delete path = .ok (removed, after)) :
    (removed = false ∧ after = table ∧
        (table.find? path = none ∨ table.firing? .delete path = some .ignore)) ∨
      (removed = true ∧ (table.find? path).isSome ∧
        after = { table with rows := table.rows.filter (·.path ≠ path) }) := by
  unfold delete at deleted
  split at deleted
  · rename_i absent
    cases deleted
    exact .inl ⟨rfl, rfl, .inl (by simpa using absent)⟩
  · rename_i present
    split at deleted
    · contradiction
    · rename_i ignored
      cases deleted
      exact .inl ⟨rfl, rfl, .inr ignored⟩
    · cases deleted
      exact .inr ⟨rfl, by simpa [Option.isSome_iff_ne_none] using present, rfl⟩

end EntryTable

namespace RootScan

theorem mem_put {row other : RootScan} {rows : List RootScan} :
    other ∈ row.put rows ↔ other = row ∨ other ∈ rows ∧ other.path ≠ row.path :=
  mem_put_by_key RootScan.path

theorem nodup_paths_put {row : RootScan} {rows : List RootScan}
    (distinct : (rows.map (·.path)).Nodup) : ((row.put rows).map (·.path)).Nodup :=
  nodup_put_by_key RootScan.path distinct

/-- The time of a root that was recorded before takes the place of the earlier one. -/
theorem map_path_put {row : RootScan} {rows : List RootScan}
    (present : ∃ old ∈ rows, old.path = row.path) :
    (row.put rows).map (·.path) = rows.map (·.path) :=
  keys_put_by_key RootScan.path (by simpa using present)

end RootScan

namespace Tables

variable {tables after : Tables} {draft : Draft} {path : String} {replace removed : Bool}

theorem rows_of_entries {table : EntryTable} (entries : tables.entries? = some table) :
    tables.rows = table.rows := by
  simp [rows, entries]

theorem entries_eq_ok {table : EntryTable} :
    tables.entries = .ok table ↔ tables.entries? = some table := by
  unfold entries
  cases tables.entries? <;> simp

theorem insert_cases (inserted : tables.insert replace draft = .ok ((), after)) :
    ∃ table, tables.entries? = some table ∧
      ((table.firing? .insert draft.path = some .ignore ∧ after = tables) ∨
        ∃ row, table.firing? .insert draft.path = none ∧ Entry.ofDraft draft = .ok row ∧
          after = { tables with
            entries? := some { table with rows := EntryTable.putRow row table.rows } }) := by
  cases found : tables.entries? with
  | none =>
      simp only [insert, entries, found] at inserted
      contradiction
  | some table =>
      refine ⟨table, rfl, ?_⟩
      simp only [insert, entries, found, bind, Except.bind] at inserted
      cases made : table.insert replace draft with
      | error fault => simp [made] at inserted
      | ok changed =>
          simp only [made] at inserted
          cases inserted
          rcases EntryTable.insert_cases made with ⟨ignored, rfl⟩ | ⟨row, quiet, drafted, rfl⟩
          · refine .inl ⟨ignored, ?_⟩
            rw [← found]
          · exact .inr ⟨row, quiet, drafted, rfl⟩

theorem delete_cases (deleted : tables.delete path = .ok (removed, after)) :
    ∃ table, tables.entries? = some table ∧
      ((removed = false ∧ after = tables ∧
          (table.find? path = none ∨ table.firing? .delete path = some .ignore)) ∨
        (removed = true ∧ (table.find? path).isSome ∧
          after = { tables with
            entries? := some { table with rows := table.rows.filter (·.path ≠ path) } })) := by
  cases found : tables.entries? with
  | none =>
      simp only [delete, entries, found] at deleted
      contradiction
  | some table =>
      refine ⟨table, rfl, ?_⟩
      simp only [delete, entries, found, bind, Except.bind] at deleted
      cases made : table.delete path with
      | error fault => simp [made] at deleted
      | ok changed =>
          obtain ⟨gone, left⟩ := changed
          simp only [made] at deleted
          cases deleted
          rcases EntryTable.delete_cases made with ⟨none, rfl, why⟩ | ⟨one, present, rfl⟩
          · refine .inl ⟨none, ?_, why⟩
            rw [← found]
          · exact .inr ⟨one, present, rfl⟩

theorem recordRoot_cases {row : RootScan} (recorded : tables.recordRoot row = .ok ((), after)) :
    ∃ rows, tables.roots? = some rows ∧
      after = { tables with roots? := some (row.put rows) } := by
  cases found : tables.roots? with
  | none =>
      simp only [recordRoot, roots, found] at recorded
      contradiction
  | some rows =>
      simp only [recordRoot, roots, found] at recorded
      cases recorded
      exact ⟨rows, rfl, rfl⟩

theorem mem_of_paths {stored : List String} (listed : tables.paths = .ok stored) :
    path ∈ stored ↔ ∃ row ∈ tables.rows, row.path = path := by
  unfold paths at listed
  cases found : tables.entries? with
  | none =>
      simp only [entries, found] at listed
      contradiction
  | some table =>
      rw [entries_eq_ok.mpr found] at listed
      cases listed
      rw [rows_of_entries found, List.mem_mergeSort, List.mem_map]

end Tables

end FolderIndex
