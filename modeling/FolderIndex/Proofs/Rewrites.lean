import FolderIndex.Proofs.Readiness
import FolderIndex.Proofs.SuccessfulScans

namespace FolderIndex

/-! Which rows the visits of a scan write. What becomes of the rows of a path depends on the hash
that is stored for it alone: they stay as they are, or they are written, and then only once. -/

namespace Tables

/-- The rows of a path: one or none, where paths are distinct. -/
def rowsAt (tables : Tables) (path : String) : List Entry :=
  tables.rows.filter (·.path = path)

theorem mem_rowsAt {tables : Tables} {path : String} {row : Entry} :
    row ∈ tables.rowsAt path ↔ row ∈ tables.rows ∧ row.path = path := by
  simp [rowsAt]

end Tables

/-- A row that is put in its place leaves the rows of other paths as they are. -/
theorem EntryTable.filter_putRow {row : Entry} {rows : List Entry} {path : String}
    (apart : path ≠ row.path) :
    (putRow row rows).filter (fun other => decide (other.path = path)) =
      rows.filter fun other => decide (other.path = path) := by
  have unlike : ¬ row.path = path := fun same => apart same.symm
  unfold putRow
  split
  · have keys : ((fun other : Entry => decide (other.path = path)) ∘
        fun old => if old.path = row.path then row else old) =
        fun other => decide (other.path = path) := by
      funext old
      by_cases same : old.path = row.path <;> simp [same]
    have stays : ∀ old ∈ rows.filter (fun other => decide (other.path = path)),
        (if old.path = row.path then row else old) = id old := by
      intro old member
      have own : old.path = path := by simpa using (List.mem_filter.mp member).2
      simp [own, apart]
    rw [List.filter_map, keys, List.map_congr_left stays, List.map_id]
  · simp [unlike]

theorem Tables.hashOf_eq_ok {tables : Tables} {path : String} {hash? : Option String}
    (hashed : tables.hashOf path = .ok hash?) :
    hash? = (tables.rowsAt path).head?.map (·.hash) := by
  unfold hashOf at hashed
  cases entries : tables.entries with
  | error fault => simp [entries, bind, Except.bind] at hashed
  | ok table =>
      simp only [entries, bind, Except.bind, pure, Except.pure, Except.ok.injEq] at hashed
      rw [rowsAt, rows_of_entries (entries_eq_ok.mp entries), List.head?_filter, ← hashed]
      rfl

namespace Visit

variable {visit : Visit} {tables others : Tables}

theorem isCurrent_iff :
    visit.isCurrent tables = true ↔
      (tables.rowsAt visit.path).head?.map (·.hash) = some (digest visit.octets) := by
  unfold isCurrent Tables.hashOf Tables.rowsAt
  cases entries : tables.entries? with
  | none => simp [Tables.entries, entries, Tables.rows, bind, Except.bind, Except.toOption]
  | some table =>
      rw [Tables.entries_eq_ok.mpr entries, Tables.rows_of_entries entries, List.head?_filter]
      simp [bind, Except.bind, pure, Except.pure, Except.toOption, EntryTable.find?]

theorem isCurrent_congr (same : tables.rowsAt visit.path = others.rowsAt visit.path) :
    visit.isCurrent tables = visit.isCurrent others := by
  rw [Bool.eq_iff_iff, isCurrent_iff, isCurrent_iff, same]

/-- The only row of a path, which shows what was visited there and when it was written. -/
structure Written (visit : Visit) (clock : Clock) (tables : Tables) (row : Entry) : Prop where
  stored : row ∈ tables.rowsAt visit.path
  alone : ∀ other ∈ tables.rowsAt visit.path, other = row
  shows : row.Shows visit
  timed : ∃ reads, row.updatedAt = (clock.later reads).read.1.toText

theorem Written.isCurrent {clock : Clock} {row : Entry}
    (written : visit.Written clock tables row) : visit.isCurrent tables = true := by
  rw [isCurrent_iff]
  cases rows : tables.rowsAt visit.path with
  | nil =>
      have stored := written.stored
      simp [rows] at stored
  | cons first rest =>
      have same : first = row := written.alone first (by simp [rows])
      rw [List.head?_cons, Option.map_some, same, written.shows.hash]

theorem Written.congr {clock : Clock} {row : Entry} (written : visit.Written clock tables row)
    (same : others.rowsAt visit.path = tables.rowsAt visit.path) :
    visit.Written clock others row :=
  ⟨same ▸ written.stored, same ▸ written.alone, written.shows, written.timed⟩

end Visit

/-- A path that a store can be asked for: it is not blank, and it can be encoded. -/
def FileTree.Spells (files : FileTree) (path : String) : Prop :=
  Text.isBlankText path = false ∧ files.encodingFault? path = none

/-- Whether an event tells that a file was written to the index. -/
def Event.isIndexed : Event → Bool
  | indexed _ => true
  | _ => false

namespace Progress

variable {files : FileTree} {store thread : Nat} {progress before between after : Progress}
  {path : String} {paths others : List String}

theorem andThen_eq_none {outcome : Progress × Option Failure}
    {next : Progress → Progress × Option Failure} :
    andThen outcome next = (after, none) ↔
      ∃ between, outcome = (between, none) ∧ next between = (after, none) := by
  obtain ⟨reached, failure?⟩ := outcome
  cases failure? with
  | none => simp [andThen]
  | some failure => simp [andThen]

/-- What becomes of a file that is visited: it is passed over if what is stored is current, or
written, and the log tells which. -/
inductive Settles (store : Nat) (before : Progress) (visit : Visit) (after : Progress) : Prop where
  | skipped (current : visit.isCurrent (before.archive.committed store) = true)
      (tables : after.archive.committed store = before.archive.committed store)
      (clock : after.archive.clock = before.archive.clock)
      (events : after.events = before.events ++ [.unchanged visit.path])
      (tally : after.tally = before.tally.count .skipped)
  | written (stale : visit.isCurrent (before.archive.committed store) = false)
      (inserted : (before.archive.committed store).insert true
        (visit.draft before.archive.clock.read.1.toText) = .ok ((), after.archive.committed store))
      (clock : after.archive.clock = before.archive.clock.read.2)
      (events : after.events = before.events ++ [.indexed visit.path])
      (tally : after.tally = before.tally.count
        (if (before.archive.committed store).rowsAt visit.path = [] then .inserted else .updated))

theorem indexOctets_of_ok (dependable : progress.archive.Dependable store thread)
    {octets : List UInt8}
    (ended : progress.indexOctets files store thread path octets = (after, none)) :
    files.Spells path ∧ after.seen = progress.seen ∧
      after.archive.Linked store thread ∧ progress.Settles store ⟨path, octets⟩ after := by
  have looked := Archive.lookUp_performs dependable files path
  have solid : ∀ {previous archive},
      progress.archive.lookUp files store thread path = (.ok previous, archive) →
        files.Spells path := by
    intro previous archive found
    obtain ⟨encoded, asked⟩ := Archive.lookUp_eq_ok.mp found
    unfold Archive.getHash at asked
    split at asked
    · cases asked
    · rename_i solid
      exact ⟨by simpa using solid, encoded⟩
  unfold indexOctets at ended
  dsimp only at ended
  cases found : progress.archive.lookUp files store thread path with
  | mk result archive =>
      rw [found] at looked ended
      cases looked with
      | failed own kept => cases ended
      | @done previous _ answered linked timed =>
          obtain ⟨hashed, sameTables⟩ := Archive.asking_eq_ok.mp answered
          have current : Visit.isCurrent ⟨path, octets⟩ (progress.archive.committed store) =
              decide (previous = some (digest octets)) := by
            unfold Visit.isCurrent
            rw [hashed]
            simp [Except.toOption]
          dsimp only at ended
          split at ended
          · rename_i same
            cases ended
            refine ⟨solid found, rfl, linked, .skipped ?_ sameTables timed rfl rfl⟩
            rw [current, decide_eq_true same]
          · rename_i unlike
            have written := Archive.upsert_performs linked path (Text.decodeUtf8 octets)
              (digest octets) (Text.tokenize (Text.decodeUtf8 octets))
            cases outcome : archive.upsert store path (some (Text.decodeUtf8 octets))
                (Text.tokenize (Text.decodeUtf8 octets)) (some (digest octets)) with
            | mk result final =>
                rw [outcome] at written ended
                cases written with
                | failed own kept => cases ended
                | done changed linkedAfter timedAfter =>
                    cases ended
                    rw [sameTables, timed] at changed
                    refine ⟨solid found, rfl, linkedAfter, .written ?_ changed ?_ rfl ?_⟩
                    · rw [current, decide_eq_false unlike]
                    · exact timedAfter.trans (by rw [timed])
                    · rw [Tables.hashOf_eq_ok hashed]
                      cases (progress.archive.committed store).rowsAt path <;> rfl

theorem visit_of_ok (dependable : progress.archive.Dependable store thread)
    (ended : progress.visit files store thread path = (after, none)) :
    ∃ octets, files.read (Location.ofString path) = .ok octets ∧
      files.Spells path ∧ after.seen = progress.seen ++ [path] ∧
      after.archive.Linked store thread ∧ progress.Settles store ⟨path, octets⟩ after := by
  unfold visit at ended
  dsimp only at ended
  cases read : files.read (Location.ofString path) with
  | error failure =>
      rw [read] at ended
      cases ended
  | ok octets =>
      rw [read] at ended
      let entered : Progress := { progress with seen := progress.seen ++ [path] }
      have usable : entered.archive.Dependable store thread := dependable
      obtain ⟨solid, seen, linked, settles⟩ := indexOctets_of_ok usable ended
      refine ⟨octets, rfl, solid, seen, linked, ?_⟩
      cases settles with
      | skipped current tables clock events tally =>
          exact .skipped current tables clock events tally
      | written stale inserted clock events tally =>
          exact .written stale inserted clock events tally

/-- What the visits of some paths do, one after the other: the rows of a path stay as they are if
it is not among them or what is stored is current; else they are written, and only once. -/
structure Passes (files : FileTree) (store thread : Nat) (before after : Progress)
    (paths : List String) : Prop where
  seen : after.seen = before.seen ++ paths
  read : ∀ path ∈ paths, files.Spells path ∧
    ∃ octets, files.read (Location.ofString path) = .ok octets
  bond : paths = [] ∧ after.archive = before.archive ∨ after.archive.Linked store thread
  heeds : (after.archive.committed store).Heeds
  kept : ∀ path,
    (path ∈ paths → ∀ octets, files.read (Location.ofString path) = .ok octets →
      Visit.isCurrent ⟨path, octets⟩ (before.archive.committed store) = true) →
    (after.archive.committed store).rowsAt path = (before.archive.committed store).rowsAt path ∧
      after.events.count (.indexed path) = before.events.count (.indexed path)
  written : ∀ visit : Visit, visit.path ∈ paths →
    files.read (Location.ofString visit.path) = .ok visit.octets →
    visit.isCurrent (before.archive.committed store) = false →
    (∃ row, visit.Written before.archive.clock (after.archive.committed store) row) ∧
      after.events.count (.indexed visit.path) = before.events.count (.indexed visit.path) + 1
  clock : ∃ writes, after.archive.clock = before.archive.clock.later writes ∧
    after.events.countP Event.isIndexed = before.events.countP Event.isIndexed + writes
  quiet : (∀ path ∈ paths, ∀ octets, files.read (Location.ofString path) = .ok octets →
      Visit.isCurrent ⟨path, octets⟩ (before.archive.committed store) = true) →
    after.archive.committed store = before.archive.committed store ∧
      after.tally = { before.tally with skipped := before.tally.skipped + paths.length }

/-- A file that is found current is passed over, at each of its visits. -/
theorem Passes.kept_of_isCurrent (passes : Passes files store thread before after paths)
    {octets : List UInt8} (read : files.read (Location.ofString path) = .ok octets)
    (current : Visit.isCurrent ⟨path, octets⟩ (before.archive.committed store) = true) :
    (after.archive.committed store).rowsAt path = (before.archive.committed store).rowsAt path ∧
      after.events.count (.indexed path) = before.events.count (.indexed path) := by
  refine passes.kept path fun _ others again => ?_
  rw [read] at again
  cases again
  exact current

theorem Passes.kept_of_unvisited (passes : Passes files store thread before after paths)
    (unvisited : path ∉ paths) :
    (after.archive.committed store).rowsAt path = (before.archive.committed store).rowsAt path ∧
      after.events.count (.indexed path) = before.events.count (.indexed path) :=
  passes.kept path fun member => absurd member unvisited

theorem Passes.nil (heeds : (before.archive.committed store).Heeds)
    (archive : after.archive = before.archive) (events : after.events = before.events)
    (seen : after.seen = before.seen) (tally : after.tally = before.tally) :
    Passes files store thread before after [] where
  seen := by rw [seen, List.append_nil]
  read := by simp
  bond := .inl ⟨rfl, archive⟩
  heeds := archive ▸ heeds
  kept _ _ := ⟨by rw [archive], by rw [events]⟩
  written _ member := absurd member List.not_mem_nil
  clock := ⟨0, by rw [archive, Clock.later_zero], by rw [events, Nat.add_zero]⟩
  quiet _ := ⟨by rw [archive], by simp [tally]⟩

theorem Passes.visited (dependable : before.archive.Dependable store thread)
    (heeds : (before.archive.committed store).Heeds)
    (ended : before.visit files store thread path = (after, none)) :
    Passes files store thread before after [path] := by
  obtain ⟨octets, read, solid, seen, linked, settles⟩ := visit_of_ok dependable ended
  have readAll : ∀ other ∈ [path], files.Spells other ∧
      ∃ octets, files.read (Location.ofString other) = .ok octets := by
    intro other member
    rw [List.mem_singleton.mp member]
    exact ⟨solid, octets, read⟩
  have own : ∀ visit : Visit, visit.path ∈ [path] →
      files.read (Location.ofString visit.path) = .ok visit.octets → visit = ⟨path, octets⟩ := by
    rintro ⟨other, held⟩ member visited
    have same : other = path := List.mem_singleton.mp member
    subst same
    rw [read] at visited
    cases visited
    rfl
  cases settles with
  | skipped current tables clock events tally =>
      refine ⟨seen, readAll, .inr linked, tables ▸ heeds, ?_, ?_, ⟨0, ?_, ?_⟩, ?_⟩
      · intro other _
        exact ⟨by rw [tables], by simp [events]⟩
      · intro visit member visited stale
        rw [own visit member visited, current] at stale
        contradiction
      · rw [clock, Clock.later_zero]
      · simp [events, Event.isIndexed]
      · intro _
        exact ⟨tables, by simp [tally, Tally.count]⟩
  | written stale inserted clock events _ =>
      obtain ⟨heedsAfter, row, drafted, rows⟩ := heeds.insert_cases inserted
      have shown : row.Shows ⟨path, octets⟩ := by
        cases drafted
        exact ⟨rfl, rfl, rfl, rfl⟩
      have timed : row.updatedAt = (before.archive.clock.later 0).read.1.toText := by
        cases drafted
        rw [Clock.later_zero]
        rfl
      have elsewhere : ∀ other, other ≠ path → (after.archive.committed store).rowsAt other =
          (before.archive.committed store).rowsAt other := by
        intro other apart
        rw [Tables.rowsAt, rows]
        exact EntryTable.filter_putRow (by rw [shown.path]; exact apart)
      have here : ∀ other, other ∈ (after.archive.committed store).rowsAt path ↔ other = row := by
        intro other
        rw [Tables.mem_rowsAt, rows, EntryTable.mem_putRow, shown.path]
        constructor
        · rintro ⟨same | ⟨_, apart⟩, samePath⟩
          · exact same
          · exact absurd samePath apart
        · rintro rfl
          exact ⟨.inl rfl, shown.path⟩
      have refused : ¬ ∀ octets, files.read (Location.ofString path) = .ok octets →
          Visit.isCurrent ⟨path, octets⟩ (before.archive.committed store) = true := by
        intro current
        rw [current octets read] at stale
        contradiction
      refine ⟨seen, readAll, .inr linked, heedsAfter, ?_, ?_, ⟨1, ?_, ?_⟩, ?_⟩
      · intro other current
        have apart : other ≠ path := by
          rintro rfl
          exact refused (current List.mem_cons_self)
        refine ⟨elsewhere other apart, ?_⟩
        simp [events, apart.symm]
      · intro visit member visited _
        rw [own visit member visited]
        refine ⟨⟨row, (here row).mpr rfl, fun other => (here other).mp, shown, 0, timed⟩, ?_⟩
        simp [events]
      · rw [clock, Clock.later_one]
      · simp [events, Event.isIndexed]
      · intro current
        exact absurd (current path List.mem_cons_self) refused

theorem Passes.trans (first : Passes files store thread before between paths)
    (second : Passes files store thread between after others) :
    Passes files store thread before after (paths ++ others) := by
  have currentBetween : ∀ {path octets},
      (between.archive.committed store).rowsAt path = (before.archive.committed store).rowsAt path →
      (Visit.mk path octets).isCurrent (between.archive.committed store) =
        (Visit.mk path octets).isCurrent (before.archive.committed store) :=
    fun same => Visit.isCurrent_congr same
  refine ⟨?_, ?_, ?_, second.heeds, ?_, ?_, ?_, ?_⟩
  · rw [second.seen, first.seen, List.append_assoc]
  · intro path member
    exact (List.mem_append.mp member).elim (first.read path) (second.read path)
  · rcases second.bond with ⟨rfl, same⟩ | linked
    · rcases first.bond with ⟨rfl, also⟩ | linked
      · exact .inl ⟨rfl, same.trans also⟩
      · exact .inr (same ▸ linked)
    · exact .inr linked
  · intro path current
    obtain ⟨rows, count⟩ :=
      first.kept path fun member => current (List.mem_append_left _ member)
    obtain ⟨rowsAfter, countAfter⟩ := second.kept path fun member octets read =>
      (currentBetween rows).trans (current (List.mem_append_right _ member) octets read)
    exact ⟨rowsAfter.trans rows, countAfter.trans count⟩
  · intro visit member read stale
    by_cases early : visit.path ∈ paths
    · obtain ⟨⟨row, written⟩, count⟩ := first.written visit early read stale
      -- Once it is written, what is stored is current, so no later visit writes it again.
      obtain ⟨rows, countAfter⟩ := second.kept_of_isCurrent read written.isCurrent
      exact ⟨⟨row, written.congr rows⟩, by rw [countAfter, count]⟩
    · have late : visit.path ∈ others := (List.mem_append.mp member).resolve_left early
      obtain ⟨rows, count⟩ := first.kept_of_unvisited early
      obtain ⟨⟨row, written⟩, countAfter⟩ := second.written visit late read
        ((Visit.isCurrent_congr rows).trans stale)
      obtain ⟨writes, clock, _⟩ := first.clock
      obtain ⟨reads, timed⟩ := written.timed
      refine ⟨⟨row, written.stored, written.alone, written.shows, writes + reads, ?_⟩, ?_⟩
      · rw [timed, clock, Clock.later_later]
      · rw [countAfter, count]
  · obtain ⟨writes, clock, count⟩ := first.clock
    obtain ⟨more, clockAfter, countAfter⟩ := second.clock
    refine ⟨writes + more, ?_, ?_⟩
    · rw [clockAfter, clock, Clock.later_later]
    · rw [countAfter, count, Nat.add_assoc]
  · intro current
    obtain ⟨tables, tally⟩ :=
      first.quiet fun path member => current path (List.mem_append_left _ member)
    obtain ⟨tablesAfter, tallyAfter⟩ := second.quiet fun path member octets read => by
      rw [tables]
      exact current path (List.mem_append_right _ member) octets read
    refine ⟨tablesAfter.trans tables, ?_⟩
    rw [tallyAfter, tally, List.length_append]
    simp only [Tally.mk.injEq, and_true, true_and]
    omega

theorem Passes.dependable (passes : Passes files store thread before after paths)
    (dependable : before.archive.Dependable store thread) :
    after.archive.Dependable store thread := by
  rcases passes.bond with ⟨_, same⟩ | linked
  · exact same ▸ dependable
  · exact .inr linked.readsOwnWrites

theorem Passes.polled (heeds : (before.archive.committed store).Heeds)
    (ended : before.poll = (after, none)) : Passes files store thread before after [] := by
  unfold poll at ended
  split at ended <;> cases ended <;> exact .nil heeds rfl rfl rfl rfl

/-- A scan that does all its visits passes all the files that it fetches. -/
theorem passes_of_run {fetches : List (Except Failure String)}
    (dependable : before.archive.Dependable store thread)
    (heeds : (before.archive.committed store).Heeds)
    (ended : before.run files store thread (fetches.flatMap ScanAction.ofFetch ++ [.poll]) =
      (after, none)) :
    ∃ paths : List String, fetches = paths.map .ok ∧
      Passes files store thread before after paths := by
  induction fetches generalizing before with
  | nil =>
      rw [List.flatMap_nil, List.nil_append, run_singleton] at ended
      exact ⟨[], rfl, .polled heeds ended⟩
  | cons next rest ih =>
      cases next with
      | error failure => cases ended
      | ok path =>
          rw [List.flatMap_cons, List.append_assoc] at ended
          simp only [ScanAction.ofFetch, List.cons_append, List.nil_append, run_cons] at ended
          obtain ⟨polled, poll, ended⟩ := andThen_eq_none.mp ended
          obtain ⟨visited, visit, ended⟩ := andThen_eq_none.mp ended
          have polls : Passes files store thread before polled [] := .polled heeds poll
          have visits : Passes files store thread polled visited [path] :=
            .visited (polls.dependable dependable) polls.heeds visit
          have both := polls.trans visits
          obtain ⟨paths, same, more⟩ := ih (both.dependable dependable) both.heeds ended
          exact ⟨path :: paths, by rw [same, List.map_cons], both.trans more⟩

end Progress

end FolderIndex
