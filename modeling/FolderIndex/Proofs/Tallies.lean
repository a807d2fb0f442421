import FolderIndex.Proofs.AuditTrails
import Mathlib.Data.Finset.Card

namespace FolderIndex

/-! How the counts of a scan follow from the paths that are stored before it and those that its
walks find, however often they find them. -/

/-- The digest of the octets of a file, if they can be read. -/
def FileTree.digestAt? (files : FileTree) (path : String) : Option String :=
  (files.read (Location.ofString path)).toOption.map digest

namespace Tables

variable {tables : Tables} {files : FileTree} {path : String}

/-- The paths that have a row. -/
def stored (tables : Tables) : Finset String :=
  (tables.rows.map (·.path)).toFinset

/-- Whether what is stored for a path is another hash than that of its file, or none. -/
def isStale (tables : Tables) (files : FileTree) (path : String) : Bool :=
  (tables.hashOf path).toOption ≠ some (files.digestAt? path)

theorem mem_stored : path ∈ tables.stored ↔ ∃ row ∈ tables.rows, row.path = path := by
  rw [stored, List.mem_toFinset, List.mem_map]

theorem mem_stored_iff_rowsAt : path ∈ tables.stored ↔ tables.rowsAt path ≠ [] := by
  rw [mem_stored, rowsAt, ne_eq, List.filter_eq_nil_iff]
  simp

theorem Orderly.card_stored (orderly : tables.Orderly) :
    tables.stored.card = tables.rows.length := by
  rw [stored, List.toFinset_card_of_nodup orderly.keyed, List.length_map]

theorem isStale_of_read {octets : List UInt8}
    (read : files.read (Location.ofString path) = .ok octets) :
    tables.isStale files path = !Visit.isCurrent ⟨path, octets⟩ tables := by
  have found : files.digestAt? path = some (digest octets) := by
    simp [FileTree.digestAt?, read, Except.toOption]
  simp [isStale, found, Visit.isCurrent]

theorem mem_stored_of_isCurrent {visit : Visit} (current : visit.isCurrent tables = true) :
    visit.path ∈ tables.stored := by
  rw [mem_stored_iff_rowsAt]
  intro none
  rw [Visit.isCurrent_iff, none] at current
  cases current

/-- Of some files that can be read, those that are stale are those that have no row, and some that
have one. -/
theorem card_stale (tables : Tables) (seen : Finset String) (files : FileTree)
    (readable : ∀ path ∈ seen, ∃ octets, files.read (Location.ofString path) = .ok octets) :
    (seen.filter fun path => tables.isStale files path = true).card =
      ((seen ∩ tables.stored).filter fun path => tables.isStale files path = true).card +
        (seen \ tables.stored).card := by
  have unstored : (seen.filter fun path => tables.isStale files path = true) \ tables.stored =
      seen \ tables.stored := by
    ext path
    rw [Finset.mem_sdiff, Finset.mem_filter, Finset.mem_sdiff]
    refine ⟨fun ⟨⟨found, _⟩, new⟩ => ⟨found, new⟩, fun ⟨found, new⟩ => ⟨⟨found, ?_⟩, new⟩⟩
    obtain ⟨octets, read⟩ := readable path found
    rw [isStale_of_read read, Bool.not_eq_true', Bool.eq_false_iff]
    exact fun current => new (mem_stored_of_isCurrent current)
  rw [← Finset.filter_inter, ← unstored, Finset.card_inter_add_card_sdiff]

end Tables

theorem Event.count_indexedPath (events : List Event) (path : String) :
    (events.filterMap indexedPath?).count path = events.count (.indexed path) := by
  induction events with
  | nil => rfl
  | cons event rest ih =>
      cases event <;> simp [List.filterMap_cons, List.count_cons, ih]

theorem Event.length_visitedPath {events : List Event} :
    (events.filterMap visitedPath?).length =
      (events.filterMap indexedPath?).length + (events.filterMap unchangedPath?).length := by
  induction events with
  | nil => rfl
  | cons event rest ih =>
      cases event <;>
        simp [visitedPath?, List.filterMap_cons, ih] <;> omega

namespace Progress

variable {files : FileTree} {store thread : Nat} {before after : Progress} {paths : List String}

theorem Passes.stored (passes : Passes files store thread before after paths) :
    (after.archive.committed store).stored =
      (before.archive.committed store).stored ∪ paths.toFinset := by
  ext path
  rw [Finset.mem_union, List.mem_toFinset]
  by_cases visited : path ∈ paths
  · obtain ⟨_, octets, read⟩ := passes.read path visited
    refine iff_of_true ?_ (.inr visited)
    cases current : Visit.isCurrent ⟨path, octets⟩ (before.archive.committed store) with
    | true =>
        obtain ⟨rows, _⟩ := passes.kept_of_isCurrent read current
        exact Tables.mem_stored_of_isCurrent ((Visit.isCurrent_congr rows).trans current)
    | false =>
        obtain ⟨⟨row, written⟩, _⟩ := passes.written ⟨path, octets⟩ visited read current
        obtain ⟨member, own⟩ := Tables.mem_rowsAt.mp written.stored
        exact Tables.mem_stored.mpr ⟨row, member, own⟩
  · obtain ⟨rows, _⟩ := passes.kept_of_unvisited visited
    rw [Tables.mem_stored_iff_rowsAt, rows, ← Tables.mem_stored_iff_rowsAt]
    simp [visited]

/-- The files that the visits write are those for which another hash is stored, or none, and each
of them is written once. -/
theorem Passes.count_indexed (passes : Passes files store thread before after paths)
    (silent : before.events = []) :
    (after.events.filterMap Event.indexedPath?).length =
      (paths.toFinset.filter fun path =>
        (before.archive.committed store).isStale files path = true).card := by
  -- A second visit finds current what the first one wrote, so no path is told of twice.
  have once : ∀ path, (after.events.filterMap Event.indexedPath?).count path =
      if path ∈ paths ∧ (before.archive.committed store).isStale files path = true then 1
      else 0 := by
    intro path
    rw [Event.count_indexedPath]
    by_cases visited : path ∈ paths
    · obtain ⟨_, octets, read⟩ := passes.read path visited
      rw [Tables.isStale_of_read read]
      cases current : Visit.isCurrent ⟨path, octets⟩ (before.archive.committed store) with
      | true =>
          obtain ⟨_, count⟩ := passes.kept_of_isCurrent read current
          simp [count, silent]
      | false =>
          obtain ⟨_, count⟩ := passes.written ⟨path, octets⟩ visited read current
          simp [count, silent, visited]
    · obtain ⟨_, count⟩ := passes.kept_of_unvisited visited
      simp [count, silent, visited]
  have distinct : (after.events.filterMap Event.indexedPath?).Nodup := by
    rw [List.nodup_iff_count_le_one]
    intro path
    rw [once]
    split <;> omega
  rw [← List.toFinset_card_of_nodup distinct]
  congr 1
  ext path
  rw [List.mem_toFinset, Finset.mem_filter, List.mem_toFinset, ← List.count_pos_iff, once]
  split <;> simp_all

end Progress

namespace Indexer

variable {indexer : Indexer} {files : FileTree} {thread : Nat} {archive : Archive}
  {patience : Patience} {tally : Tally} {before after : Progress}

/-- What the visits of a scan add to the paths that are stored, and what they count, if all of
them succeed. -/
theorem counts_of_visits (orderly : (before.archive.committed indexer.store).Orderly)
    (dependable : before.archive.Dependable indexer.store thread)
    (passes : Progress.Passes files indexer.store thread before after (indexer.found files))
    (silent : before.events = []) (zero : before.tally = .zero)
    (ended : before.run files indexer.store thread (indexer.visitActions files) = (after, none)) :
    let stored := (before.archive.committed indexer.store).stored
    let seen := (indexer.found files).toFinset
    (after.archive.committed indexer.store).stored = stored ∪ seen ∧
      (after.archive.committed indexer.store).Orderly ∧
      after.tally.inserted = (seen \ stored).card ∧
      after.tally.inserted + after.tally.updated = (seen.filter fun path =>
        (before.archive.committed indexer.store).isStale files path = true).card ∧
      after.tally.inserted + after.tally.updated + after.tally.skipped =
        (indexer.found files).length ∧
      after.tally.removed = 0 := by
  intro stored seen
  have recounts := recounts_visits files orderly dependable
  obtain ⟨told, logs⟩ :=
    Progress.logs_run files indexer.store thread before (indexer.visitActions files)
  rw [ended] at recounts logs
  obtain ⟨visits, _⟩ := indexer.visitedBy_visitActions files
  have events : after.events = told := by
    rw [logs.events, silent, List.nil_append]
  have indexed : (after.events.filterMap Event.indexedPath?).length = (seen.filter fun path =>
      (before.archive.committed indexer.store).isStale files path = true).card :=
    passes.count_indexed silent
  have total : (told.filterMap Event.visitedPath?).length = (indexer.found files).length := by
    rw [logs.complete rfl, visits]
  have rowsBefore : stored.card = (before.archive.committed indexer.store).rows.length :=
    orderly.card_stored
  have rowsAfter : (after.archive.committed indexer.store).rows.length = (stored ∪ seen).card := by
    rw [← recounts.orderly.card_stored, passes.stored]
  have gained : (seen \ stored).card + stored.card = (stored ∪ seen).card := by
    rw [Finset.card_sdiff_add_card, Finset.union_comm]
  -- The visits remove nothing, so the balance leaves what they inserted as the gain in rows.
  have balanced := recounts.balanced
  have writes := logs.writes
  have skips := logs.skips
  have removals := (Parts.of_visits logs).removals
  rw [Event.length_visitedPath] at total
  rw [events] at indexed
  simp only [Progress.balance, zero, Tally.zero, List.filterMap_nil, List.length_nil]
    at balanced writes skips removals
  refine ⟨passes.stored, recounts.orderly, ?_, ?_, ?_, ?_⟩ <;> omega

/-- What the end of a scan leaves of the paths that are stored, and what it counts. -/
theorem counts_of_reconcile (orderly : (before.archive.committed indexer.store).Orderly)
    (dependable : before.archive.Dependable indexer.store thread)
    (reconciles : indexer.Reconciles files thread before after)
    (ended : indexer.reconcile files thread before = (after, none)) :
    let stored := (before.archive.committed indexer.store).stored
    (after.archive.committed indexer.store).stored = stored ∩ before.seen.toFinset ∧
      (after.archive.committed indexer.store).Orderly ∧
      after.tally = { before.tally with
        removed := before.tally.removed + (stored \ before.seen.toFinset).card } := by
  intro stored
  have recounts : Progress.Recounts (·.Linked indexer.store thread) indexer.store before
      (indexer.closingPassages files thread before) (indexer.reconcile files thread before) :=
    recounts_reconcile orderly dependable
  rw [ended] at recounts
  obtain ⟨_, archive, _, closes, _⟩ := closes_of_reconcile dependable ended
  obtain ⟨removed, _, _, tally⟩ := closes.log
  have left : (after.archive.committed indexer.store).stored = stored ∩ before.seen.toFinset := by
    ext path
    rw [Finset.mem_inter, List.mem_toFinset, Tables.mem_stored, Tables.mem_stored, reconciles.rows]
    constructor
    · rintro ⟨row, member, rfl⟩
      obtain ⟨old, seen⟩ := List.mem_filter.mp member
      exact ⟨⟨row, old, rfl⟩, of_decide_eq_true seen⟩
    · rintro ⟨⟨row, old, rfl⟩, seen⟩
      exact ⟨row, List.mem_filter.mpr ⟨old, decide_eq_true seen⟩, rfl⟩
  have rowsBefore : stored.card = (before.archive.committed indexer.store).rows.length :=
    orderly.card_stored
  have rowsAfter : (after.archive.committed indexer.store).rows.length =
      (stored ∩ before.seen.toFinset).card := by
    rw [← recounts.orderly.card_stored, left]
  have parted := Finset.card_sdiff_add_card_inter stored before.seen.toFinset
  -- Nothing is inserted any more, so the balance leaves what was removed as the loss of rows.
  have balanced := recounts.balanced
  simp only [Progress.balance, tally] at balanced
  refine ⟨left, recounts.orderly, ?_⟩
  rw [tally]
  simp only [Tally.mk.injEq, true_and]
  omega

/-- The counts of a scan that succeeds are exact, also if its walks find a file more than once: as
many files are inserted as are found and had no row, as many updated as are found and had a row
with another hash than that of their octets, as many removed as had a row and are not found, and
each time that a file is found it is counted once. So the number of rows is changed by what is
inserted and removed, and becomes that of the files that are found. -/
theorem scan_counts_are_exact (dependable : archive.Dependable indexer.store thread)
    (heeds : (archive.committed indexer.store).Heeds)
    (keyed : ((archive.committed indexer.store).rows.map (·.path)).Nodup)
    (watched : indexer.roots ≠ [])
    (ended : (indexer.scan archive thread patience).outcome = .ok tally) :
    let files := archive.files
    let before := archive.committed indexer.store
    let after := (indexer.scan archive thread patience).archive.committed indexer.store
    let visits := indexer.found files
    let seen := visits.toFinset
    tally.inserted = (seen \ before.stored).card ∧
      tally.updated =
        ((seen ∩ before.stored).filter fun path => before.isStale files path = true).card ∧
      tally.removed = (before.stored \ seen).card ∧
      tally.inserted + tally.updated + tally.skipped = visits.length ∧
      (∀ path ∈ visits, ∃ octets, files.read (Location.ofString path) = .ok octets) ∧
      after.rows.length = before.rows.length + tally.inserted - tally.removed ∧
      after.rows.length = seen.card := by
  intro files before after visits seen
  obtain ⟨visited, final, visiting, reconciled, counts, same, _⟩ := runs_of_scan watched ended
  obtain ⟨passes, _⟩ := passes_of_visits dependable heeds visiting
  have orderly : before.Orderly := heeds.orderly keyed
  have usable : Archive.Dependable (Progress.start archive patience).archive indexer.store thread :=
    dependable
  have opening := counts_of_visits orderly usable passes rfl rfl visiting
  obtain ⟨storedVisited, orderlyVisited, inserted, written, total, unremoved⟩ :
      (visited.archive.committed indexer.store).stored = before.stored ∪ seen ∧
      (visited.archive.committed indexer.store).Orderly ∧
      visited.tally.inserted = (seen \ before.stored).card ∧
      visited.tally.inserted + visited.tally.updated =
        (seen.filter fun path => before.isStale files path = true).card ∧
      visited.tally.inserted + visited.tally.updated + visited.tally.skipped = visits.length ∧
      visited.tally.removed = 0 := opening
  have reconciles := reconciles_of_ok (passes.dependable usable) passes.heeds reconciled
  obtain ⟨left, orderlyFinal, closing⟩ :=
    counts_of_reconcile orderlyVisited (passes.dependable usable) reconciles reconciled
  have visitedSeen : visited.seen = visits := passes.seen
  rw [storedVisited, visitedSeen] at left closing
  have readable : ∀ path ∈ visits, ∃ octets, files.read (Location.ofString path) = .ok octets :=
    fun path member => (passes.read path member).2
  have divided := before.card_stale seen files fun path member =>
    readable path (List.mem_toFinset.mp member)
  have tables : after = final.archive.committed indexer.store := by
    dsimp only [after]
    rw [same]
  have rowsAfter : after.rows.length = seen.card := by
    rw [tables, ← orderlyFinal.card_stored, left]
    congr 1
    exact Finset.inter_eq_right.mpr Finset.subset_union_right
  have gone : (before.stored ∪ seen) \ seen = before.stored \ seen :=
    Finset.union_sdiff_right _ _
  have added : (seen \ before.stored).card + before.stored.card =
      seen.card + (before.stored \ seen).card := by
    rw [Finset.card_sdiff_add_card, add_comm, Finset.card_sdiff_add_card, Finset.union_comm]
  have rowsBefore : before.stored.card = before.rows.length := orderly.card_stored
  have tallied : tally = { visited.tally with removed := (before.stored \ seen).card } := by
    rw [← counts, closing, unremoved]
    simp only [Tally.mk.injEq, true_and]
    rw [gone, Int.zero_add]
  rw [tallied]
  refine ⟨inserted, ?_, rfl, total, readable, ?_, rowsAfter⟩
  · dsimp only
    omega
  · dsimp only
    omega

/-- The root of `exampleRescan`, watched twice. -/
def exampleOverlap : Indexer := ⟨0, [⟨.root, ["a"]⟩, ⟨.root, ["a"]⟩], [".txt"], .caller⟩

theorem exampleOverlap_ends :
    (exampleOverlap.scan exampleChangedMoment.archive 1 none).outcome = .ok ⟨0, 1, 1, 0⟩ := by
  decide +kernel

theorem overlapping_roots_counted :
    let archive := exampleChangedMoment.archive
    let files := archive.files
    let before := archive.committed exampleOverlap.store
    let after := (exampleOverlap.scan archive 1 none).archive.committed exampleOverlap.store
    let visits := exampleOverlap.found files
    let seen := visits.toFinset
    archive.Dependable exampleOverlap.store 1 ∧ before.Heeds ∧
    (before.rows.map (·.path)).Nodup ∧ exampleOverlap.roots ≠ [] ∧
    (exampleOverlap.scan archive 1 none).outcome = .ok ⟨0, 1, 1, 0⟩ ∧
    visits = ["/a/x.txt", "/a/x.txt"] ∧
    (0 : Int) = (seen \ before.stored).card ∧
    (1 : Int) =
      ((seen ∩ before.stored).filter fun path => before.isStale files path = true).card ∧
    (0 : Int) = (before.stored \ seen).card ∧ (0 : Int) + 1 + 1 = visits.length ∧
    (∀ path ∈ visits, ∃ octets, files.read (Location.ofString path) = .ok octets) ∧
    (after.rows.length : Int) = before.rows.length + 0 - 0 ∧ after.rows.length = seen.card := by
  intro archive files before after visits seen
  have keyed : (before.rows.map (·.path)).Nodup := by decide +kernel
  have watched : exampleOverlap.roots ≠ [] := by simp [exampleOverlap]
  have counted := @scan_counts_are_exact exampleOverlap 1 archive none ⟨0, 1, 1, 0⟩
    exampleChangedMoment_dependable exampleChangedMoment_heeds keyed watched exampleOverlap_ends
  exact ⟨exampleChangedMoment_dependable, exampleChangedMoment_heeds, keyed, watched,
    exampleOverlap_ends, by decide +kernel, counted⟩

end Indexer

end FolderIndex
