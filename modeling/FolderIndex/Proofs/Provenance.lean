import FolderIndex.Scheduler
import FolderIndex.Proofs.Holdings
import FolderIndex.Proofs.Rows
import FolderIndex.Proofs.Text.Words
import FolderIndex.Proofs.WalkPaths

namespace FolderIndex

/-! Where the rows of an index come from. Whatever is done to files and databases, and wherever
scans are cut off, each row shows one version of its file, as one scan found it. -/

/-- A file that a scan came to, and the octets that it held then. -/
structure Visit where
  path : String
  octets : List UInt8
deriving DecidableEq, Repr

/-- The visits of some paths; a file that cannot be read is not visited. -/
def FileTree.visits (files : FileTree) (paths : List String) : List Visit :=
  paths.filterMap fun path =>
    match files.read (Location.ofString path) with
    | .ok octets => some ⟨path, octets⟩
    | .error _ => none

/-- A row that shows the file of a visit, with nothing of another version in it. -/
structure Entry.Shows (row : Entry) (visit : Visit) : Prop where
  path : row.path = visit.path
  content : row.content = Text.decodeUtf8 visit.octets
  tokens : row.tokens = Text.joinWords (Text.tokenize row.content)
  hash : row.hash = digest visit.octets

structure Tables.Reflect (visits : List Visit) (tables : Tables) : Prop where
  distinct : (tables.rows.map (·.path)).Nodup
  shown : ∀ row ∈ tables.rows, ∃ visit ∈ visits, row.Shows visit

theorem FileTree.mem_visits {files : FileTree} {paths : List String} {visit : Visit} :
    visit ∈ files.visits paths ↔
      visit.path ∈ paths ∧ files.read (Location.ofString visit.path) = .ok visit.octets := by
  simp only [visits, List.mem_filterMap]
  constructor
  · rintro ⟨path, member, read⟩
    split at read
    · rename_i octets found
      cases read
      exact ⟨member, found⟩
    · contradiction
  · rintro ⟨member, found⟩
    exact ⟨visit.path, member, by rw [found]⟩

namespace Tables

variable {visits more : List Visit} {tables after : Tables}

theorem reflect_of_no_rows (none : tables.rows = []) : tables.Reflect visits :=
  ⟨by simp [none], by simp [none]⟩

theorem Reflect.mono (reflect : tables.Reflect visits) (known : ∀ visit ∈ visits, visit ∈ more) :
    tables.Reflect more := by
  refine ⟨reflect.distinct, ?_⟩
  intro row member
  obtain ⟨visit, visitMember, shows⟩ := reflect.shown row member
  exact ⟨visit, known visit visitMember, shows⟩

theorem Reflect.of_sublist (reflect : tables.Reflect visits)
    (fewer : after.rows.Sublist tables.rows) : after.Reflect visits :=
  ⟨reflect.distinct.sublist (fewer.map _),
    fun row member => reflect.shown row (fewer.subset member)⟩

theorem Reflect.of_rows_eq (reflect : tables.Reflect visits) (same : after.rows = tables.rows) :
    after.Reflect visits :=
  reflect.of_sublist (same ▸ List.Sublist.refl _)

theorem Reflect.ensure (reflect : tables.Reflect visits) : tables.ensure.Reflect visits := by
  apply reflect.of_rows_eq
  cases entries : tables.entries? <;> simp [Tables.ensure, rows, entries, EntryTable.empty]

theorem reflect_keeps_insert {visit : Visit} {draft : Draft} (known : visit ∈ visits)
    (shows : ∀ row, Entry.ofDraft draft = .ok row → row.Shows visit) :
    Keeps (Reflect visits) (·.insert true draft) := by
  intro tables _ after reflect inserted
  obtain ⟨table, entries, ⟨_, rfl⟩ | ⟨row, _, drafted, rfl⟩⟩ := insert_cases inserted
  · exact reflect
  · have distinct : (table.rows.map (·.path)).Nodup := rows_of_entries entries ▸ reflect.distinct
    refine ⟨EntryTable.nodup_paths_putRow distinct, ?_⟩
    intro other member
    rcases EntryTable.mem_putRow.mp member with rfl | ⟨old, _⟩
    · exact ⟨visit, known, shows _ drafted⟩
    · exact reflect.shown other (by rwa [rows_of_entries entries])

theorem reflect_keeps_upsert {visit : Visit} (known : visit ∈ visits) (time : String) :
    Keeps (Reflect visits) (·.insert true ⟨visit.path, some (Text.decodeUtf8 visit.octets),
      Text.joinWords (Text.tokenize (Text.decodeUtf8 visit.octets)), some (digest visit.octets),
      time⟩) := by
  apply reflect_keeps_insert known
  intro row made
  cases made
  exact ⟨rfl, rfl, rfl, rfl⟩

theorem reflect_keeps_delete (path : String) : Keeps (Reflect visits) (·.delete path) := by
  intro tables _ after reflect deleted
  obtain ⟨table, entries, ⟨_, rfl, _⟩ | ⟨_, _, rfl⟩⟩ := delete_cases deleted
  · exact reflect
  · apply reflect.of_sublist
    rw [rows_of_entries entries]
    exact List.filter_sublist

theorem reflect_keeps_recordRoot (row : RootScan) :
    Keeps (Reflect visits) (·.recordRoot row) := by
  intro tables _ after reflect recorded
  obtain ⟨rows, _, rfl⟩ := recordRoot_cases recorded
  exact reflect.of_rows_eq rfl

theorem reflect_keeps_drop (name : TableName) : Keeps (Reflect visits) (·.drop name) := by
  intro tables _ after reflect dropped
  cases name with
  | entries =>
      simp only [drop, bind, Except.bind] at dropped
      split at dropped
      · contradiction
      · cases dropped
        exact reflect_of_no_rows rfl
  | roots =>
      simp only [drop, bind, Except.bind] at dropped
      split at dropped
      · contradiction
      · cases dropped
        exact reflect.of_rows_eq rfl

theorem reflect_keeps_addTrigger (trigger : Trigger) :
    Keeps (Reflect visits) (·.addTrigger trigger) := by
  intro tables _ after reflect added
  unfold addTrigger at added
  dsimp only at added
  split at added
  · rename_i table entries
    cases added
    exact reflect.of_rows_eq (by simp [rows, entries])
  · contradiction

end Tables

theorem Archive.Holds.markRoot {held : Tables → Prop} {archive : Archive}
    (holds : archive.Holds held) (blank : held .blank) (files : FileTree) (store : Nat)
    (root : String) (keeps : ∀ time, Tables.Keeps held (·.recordRoot ⟨root, time⟩)) :
    (archive.markRoot files store root).2.Holds held := by
  unfold Archive.markRoot
  split
  · exact holds.recordRoot blank store root keeps
  · have stamped : archive.stamp.2.Holds held := holds
    exact stamped.undo blank store

namespace Progress

variable {earlier : List Visit} {files : FileTree} {store thread : Nat} {progress : Progress}

/-- All rows of all databases show what was visited before a scan or in it so far. -/
def Grounded (earlier : List Visit) (files : FileTree) (progress : Progress) : Prop :=
  progress.archive.Holds (Tables.Reflect (earlier ++ files.visits progress.seen))

private theorem blank_reflects {visits : List Visit} : Tables.blank.Reflect visits :=
  Tables.reflect_of_no_rows rfl

theorem Grounded.indexOctets (grounded : progress.Grounded earlier files) {path : String}
    {octets : List UInt8} (known : ⟨path, octets⟩ ∈ files.visits progress.seen) :
    (progress.indexOctets files store thread path octets).1.Grounded earlier files := by
  have looked : (progress.archive.lookUp files store thread path).2.Holds
      (Tables.Reflect (earlier ++ files.visits progress.seen)) := by
    rw [Archive.lookUp_snd]
    exact grounded.getHash blank_reflects store thread path
  unfold Progress.indexOctets
  dsimp only
  cases found : progress.archive.lookUp files store thread path with
  | mk result archive =>
      rw [found] at looked
      cases result with
      | error failure => exact looked
      | ok previous =>
          dsimp only
          split
          · exact looked
          · have written := looked.upsert blank_reflects store
              (Tables.reflect_keeps_upsert (List.mem_append_right earlier known))
            split
            · rename_i outcome
              rw [outcome] at written
              exact written
            · rename_i outcome
              rw [outcome] at written
              exact written

theorem Grounded.visit (grounded : progress.Grounded earlier files) (path : String) :
    (progress.visit files store thread path).1.Grounded earlier files := by
  have entered : ({ progress with seen := progress.seen ++ [path] } : Progress).Grounded
      earlier files := by
    refine Archive.Holds.mono grounded fun tables reflect => reflect.mono ?_
    intro visit member
    simp only [FileTree.visits, List.filterMap_append, List.mem_append] at member ⊢
    rcases member with old | here
    · exact .inl old
    · exact .inr (.inl here)
  unfold Progress.visit
  cases read : files.read (Location.ofString path) with
  | error failure => exact entered
  | ok octets =>
      dsimp only
      have known : ⟨path, octets⟩ ∈ files.visits (progress.seen ++ [path]) :=
        FileTree.mem_visits.mpr ⟨by simp, read⟩
      exact entered.indexOctets known

theorem Grounded.act (grounded : progress.Grounded earlier files) (action : ScanAction) :
    (progress.act files store thread action).1.Grounded earlier files := by
  cases action with
  | poll =>
      simp only [Progress.act, Progress.poll]
      split <;> exact grounded
  | visit path => exact grounded.visit path
  | fail failure => exact grounded
  | remove path =>
      have deleted := grounded.delete blank_reflects store path
        (Tables.reflect_keeps_delete path)
      simp only [Progress.act, Progress.remove]
      cases outcome : progress.archive.delete store path with
      | mk result archive =>
          rw [outcome] at deleted
          cases result with
          | error failure => exact deleted
          | ok removed => cases removed <;> exact deleted
  | recordRoot root =>
      have recorded := grounded.markRoot blank_reflects files store root
        (fun time => Tables.reflect_keeps_recordRoot ⟨root, time⟩)
      simp only [Progress.act, Progress.recordRoot]
      cases outcome : progress.archive.markRoot files store root with
      | mk result archive =>
          rw [outcome] at recorded
          cases result <;> exact recorded

end Progress

end FolderIndex
