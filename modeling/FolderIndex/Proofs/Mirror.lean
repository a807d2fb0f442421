import FolderIndex.Proofs.Provenance
import Mathlib.Data.List.Perm.Basic

namespace FolderIndex

/-! Rows that are an exact image of files. There is only one such image, but for the order of the
rows and the times of their updates. -/

/-- A row without the time of its update. -/
def Entry.shape (row : Entry) : String × String × String × String :=
  (row.path, row.content, row.tokens, row.hash)

/-- Rows that are an exact image of the files at some paths: one for each, which shows the file as
it is. -/
structure Tables.Mirrors (files : FileTree) (paths : List String) (tables : Tables) : Prop where
  distinct : (tables.rows.map (·.path)).Nodup
  shown : ∀ row ∈ tables.rows, row.path ∈ paths ∧ ∃ octets,
    files.read (Location.ofString row.path) = .ok octets ∧ row.Shows ⟨row.path, octets⟩
  complete : ∀ path ∈ paths, ∃ row ∈ tables.rows, row.path = path

/-- Tables where no trigger leaves a change undone in silence. -/
def Tables.Heeds (tables : Tables) : Prop :=
  ∀ trigger ∈ (tables.entries?.map (·.triggers)).getD [], trigger.action ≠ .ignore

namespace Tables

variable {files : FileTree} {paths others : List String} {tables after : Tables}

theorem Mirrors.congr (mirrors : tables.Mirrors files paths)
    (same : ∀ path, path ∈ paths ↔ path ∈ others) : tables.Mirrors files others := by
  refine ⟨mirrors.distinct, ?_, fun path member => mirrors.complete path ((same path).mpr member)⟩
  intro row member
  obtain ⟨found, shown⟩ := mirrors.shown row member
  exact ⟨(same row.path).mp found, shown⟩

theorem Mirrors.shape_mem (mirrors : tables.Mirrors files paths)
    (mirrored : after.Mirrors files others) (same : ∀ path, path ∈ paths ↔ path ∈ others)
    {shape : String × String × String × String} (member : shape ∈ tables.rows.map Entry.shape) :
    shape ∈ after.rows.map Entry.shape := by
  obtain ⟨row, rowMember, rfl⟩ := List.mem_map.mp member
  obtain ⟨found, octets, read, shows⟩ := mirrors.shown row rowMember
  obtain ⟨twin, twinMember, samePath⟩ := mirrored.complete row.path ((same _).mp found)
  obtain ⟨_, twinOctets, twinRead, twinShows⟩ := mirrored.shown twin twinMember
  rw [samePath, read] at twinRead
  cases twinRead
  have content : twin.content = row.content := twinShows.content.trans shows.content.symm
  have tokens : twin.tokens = row.tokens := by rw [twinShows.tokens, content, ← shows.tokens]
  have hash : twin.hash = row.hash := twinShows.hash.trans shows.hash.symm
  refine List.mem_map.mpr ⟨twin, twinMember, ?_⟩
  simp only [Entry.shape, samePath, content, tokens, hash]

theorem Mirrors.nodup_shapes (mirrors : tables.Mirrors files paths) :
    (tables.rows.map Entry.shape).Nodup := by
  apply List.Nodup.of_map Prod.fst
  rw [List.map_map]
  exact mirrors.distinct

/-- The rows of an exact image are determined by the files, but for their order and times. -/
theorem Mirrors.perm_shapes (mirrors : tables.Mirrors files paths)
    (mirrored : after.Mirrors files others) (same : ∀ path, path ∈ paths ↔ path ∈ others) :
    (tables.rows.map Entry.shape).Perm (after.rows.map Entry.shape) := by
  rw [List.perm_ext_iff_of_nodup mirrors.nodup_shapes mirrored.nodup_shapes]
  intro shape
  exact ⟨mirrors.shape_mem mirrored same, mirrored.shape_mem mirrors fun path => (same path).symm⟩

theorem heeds_iff {table : EntryTable} (entries : tables.entries? = some table) :
    tables.Heeds ↔ ∀ trigger ∈ table.triggers, trigger.action ≠ .ignore := by
  simp [Heeds, entries]

theorem Heeds.firing?_ne (heeds : tables.Heeds) {table : EntryTable}
    (entries : tables.entries? = some table) (change : RowChange) (path : String) :
    table.firing? change path ≠ some .ignore := by
  intro ignored
  obtain ⟨trigger, found, action⟩ := Option.map_eq_some_iff.mp ignored
  exact (heeds_iff entries).mp heeds trigger (List.mem_of_find?_eq_some found) action

/-- An insertion that succeeds puts its row, if no trigger passes it over. -/
theorem Heeds.insert_cases (heeds : tables.Heeds) {draft : Draft} {replace : Bool}
    (inserted : tables.insert replace draft = .ok ((), after)) :
    after.Heeds ∧ ∃ row, Entry.ofDraft draft = .ok row ∧
      after.rows = EntryTable.putRow row tables.rows := by
  obtain ⟨table, entries, ⟨ignored, _⟩ | ⟨row, _, drafted, rfl⟩⟩ := Tables.insert_cases inserted
  · exact absurd ignored (heeds.firing?_ne entries _ _)
  · refine ⟨(heeds_iff entries).mp heeds, row, drafted, ?_⟩
    rw [rows_of_entries entries]
    rfl

/-- A removal that succeeds leaves no row of its path, if no trigger passes it over. -/
theorem Heeds.delete_cases (heeds : tables.Heeds) {path : String} {removed : Bool}
    (deleted : tables.delete path = .ok (removed, after)) :
    after.Heeds ∧ after.rows = tables.rows.filter fun row => row.path ≠ path := by
  obtain ⟨table, entries, ⟨_, rfl, why⟩ | ⟨_, _, rfl⟩⟩ := Tables.delete_cases deleted
  · refine ⟨heeds, ?_⟩
    rcases why with absent | ignored
    · rw [rows_of_entries entries]
      symm
      apply List.filter_eq_self.mpr
      intro row member
      simpa using EntryTable.find?_eq_none_iff.mp absent row member
    · exact absurd ignored (heeds.firing?_ne entries _ _)
  · refine ⟨(heeds_iff entries).mp heeds, ?_⟩
    rw [rows_of_entries entries]
    rfl

end Tables

end FolderIndex
