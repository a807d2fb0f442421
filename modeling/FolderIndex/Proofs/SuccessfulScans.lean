import FolderIndex.Proofs.FailedScans
import FolderIndex.Proofs.Mirror

namespace FolderIndex

/-! A scan that succeeds leaves an exact image of the files, whatever the scans before it left. -/

/-- The clock when it has been read some times more. -/
def Clock.later (clock : Clock) (reads : Nat) : Clock :=
  { clock with now := clock.now + reads * clock.step }

theorem Clock.later_later (clock : Clock) (first second : Nat) :
    (clock.later first).later second = clock.later (first + second) := by
  simp only [later, Clock.mk.injEq, and_true]
  push_cast
  rw [Int.add_mul, Int.add_assoc]

theorem Clock.later_zero (clock : Clock) : clock.later 0 = clock := by
  simp [later]

theorem Clock.later_one (clock : Clock) : clock.later 1 = clock.read.2 := by
  simp [later, read]

namespace ScanState

variable {files : FileTree} {known : List Visit} {state reached final : ScanState}

theorem after?_cons {step : ScanStep} {rest : List ScanStep} :
    state.after? files (step :: rest) = some final ↔
      ∃ reached, state.step? files step = some reached ∧
        reached.after? files rest = some final := by
  rw [after?, Option.bind_eq_some_iff]

theorem after?_follow {steps : List ScanStep} {more : ScanState → List ScanStep} :
    state.after? files (state.follow files steps more) = some final ↔
      ∃ reached, state.after? files steps = some reached ∧
        reached.after? files (more reached) = some final := by
  unfold follow
  rw [after?_append, Option.bind_eq_some_iff]
  constructor
  · rintro ⟨reached, performed, onward⟩
    rw [performed] at onward
    exact ⟨reached, performed, onward⟩
  · rintro ⟨reached, performed, onward⟩
    refine ⟨reached, performed, ?_⟩
    rw [performed]
    exact onward

/-- A step reads the clock at most once. -/
theorem clock_of_step? {step : ScanStep} (performed : state.step? files step = some reached) :
    ∃ reads, reached.clock = state.clock.later reads := by
  have still : reached.clock = state.clock → ∃ reads, reached.clock = state.clock.later reads :=
    fun same => ⟨0, by rw [same, Clock.later_zero]⟩
  cases step with
  | fetch next =>
      cases next with
      | ok path =>
          cases performed
          exact still rfl
      | error failure => contradiction
  | poll => exact still (of_step?_poll performed).2.1
  | read path =>
      obtain ⟨_, _, rfl⟩ := step?_read.mp performed
      exact still rfl
  | lookUp path =>
      obtain ⟨_, _, _, rfl⟩ := step?_lookUp.mp performed
      exact still rfl
  | write visit =>
      obtain ⟨_, _, _, rfl⟩ := step?_write.mp performed
      exact ⟨1, (Clock.later_one _).symm⟩
  | list =>
      obtain ⟨_, _, rfl⟩ := changed?_asking.mp performed
      exact still rfl
  | remove path =>
      obtain ⟨_, _, _, rfl⟩ := step?_remove.mp performed
      exact still rfl
  | recordRoot root =>
      obtain ⟨_, _, _, rfl⟩ := step?_recordRoot.mp performed
      exact ⟨1, (Clock.later_one _).symm⟩

theorem clock_of_after? {steps : List ScanStep}
    (performed : state.after? files steps = some reached) :
    ∃ reads, reached.clock = state.clock.later reads := by
  induction steps generalizing state with
  | nil =>
      cases performed
      exact ⟨0, (Clock.later_zero _).symm⟩
  | cons step rest ih =>
      obtain ⟨middle, first, onward⟩ := after?_cons.mp performed
      obtain ⟨before, middleClock⟩ := clock_of_step? first
      obtain ⟨after, reachedClock⟩ := ih onward
      exact ⟨before + after, by rw [reachedClock, middleClock, Clock.later_later]⟩

/-- A scan in the middle of its visits: each file that it came to is stored as it is, and all
other rows show a version that some scan found. -/
structure Abreast (files : FileTree) (known : List Visit) (state : ScanState) : Prop where
  reflect : state.tables.Reflect known
  heeds : state.tables.Heeds
  current : ∀ visit ∈ state.visits, ∃ row ∈ state.tables.rows, row.Shows visit
  read : ∀ visit ∈ state.visits, files.read (Location.ofString visit.path) = .ok visit.octets

/-- Whether the hash tells all versions of files apart that were ever visited. -/
def TellsApart (known : List Visit) : Prop :=
  ∀ left ∈ known, ∀ right ∈ known, digest left.octets = digest right.octets →
    left.octets = right.octets

theorem row_of_isCurrent {visit : Visit} {tables : Tables}
    (current : visit.isCurrent tables = true) :
    ∃ row ∈ tables.rows, row.path = visit.path ∧ row.hash = digest visit.octets := by
  have hashed : (tables.hashOf visit.path).toOption = some (some (digest visit.octets)) :=
    of_decide_eq_true current
  unfold Tables.hashOf at hashed
  cases entries : tables.entries? with
  | none =>
      simp only [Tables.entries, entries] at hashed
      contradiction
  | some table =>
      rw [Tables.entries_eq_ok.mpr entries] at hashed
      have found : (table.find? visit.path).map (·.hash) = some (digest visit.octets) :=
        Option.some.inj hashed
      obtain ⟨row, rowFound, hash⟩ := Option.map_eq_some_iff.mp found
      obtain ⟨member, path⟩ := EntryTable.of_find?_eq_some rowFound
      exact ⟨row, by rwa [Tables.rows_of_entries entries], path, hash⟩

theorem Abreast.skipped (abreast : state.Abreast files known) (apart : TellsApart known)
    {visit : Visit} (visited : visit ∈ known) (current : visit.isCurrent state.tables = true) :
    ∃ row ∈ state.tables.rows, row.Shows visit := by
  obtain ⟨row, member, path, hash⟩ := row_of_isCurrent current
  -- The row may be left from any earlier scan: that it shows this version is known by its hash.
  obtain ⟨shown, shownKnown, shows⟩ := abreast.reflect.shown row member
  have octets : shown.octets = visit.octets :=
    apart shown shownKnown visit visited (shows.hash.symm.trans hash)
  exact ⟨row, member, path, by rw [← octets]; exact shows.content, shows.tokens, hash⟩

theorem Abreast.written (abreast : state.Abreast files known) {visit : Visit}
    (visited : visit ∈ known) {tables : Tables} {time : String}
    (inserted : state.tables.insert true (visit.draft time) = .ok ((), tables)) :
    tables.Reflect known ∧ tables.Heeds ∧ (∃ row ∈ tables.rows, row.Shows visit) ∧
      ∀ other ∈ state.visits, other.path ≠ visit.path → ∃ row ∈ tables.rows, row.Shows other := by
  obtain ⟨heeds, row, drafted, rows⟩ := abreast.heeds.insert_cases inserted
  have shown : row.Shows visit := by
    cases drafted
    exact ⟨rfl, rfl, rfl, rfl⟩
  refine ⟨Tables.reflect_keeps_upsert visited time abreast.reflect inserted, heeds, ?_, ?_⟩
  · refine ⟨row, ?_, shown⟩
    rw [rows]
    exact EntryTable.mem_putRow.mpr (.inl rfl)
  · intro other member unlike
    obtain ⟨kept, keptMember, shows⟩ := abreast.current other member
    refine ⟨kept, ?_, shows⟩
    rw [rows]
    refine EntryTable.mem_putRow.mpr (.inr ⟨keptMember, ?_⟩)
    rw [shows.path, shown.path]
    exact unlike

theorem Abreast.indexed (abreast : state.Abreast files known) (apart : TellsApart known)
    {visit : Visit} (visited : visit ∈ known)
    (read : files.read (Location.ofString visit.path) = .ok visit.octets)
    (performed : ({ state with visits := state.visits ++ [visit] } : ScanState).after? files
      (indexSteps state.tables visit) = some reached) :
    reached.Abreast files known ∧ reached.visits = state.visits ++ [visit] := by
  have allRead : ∀ other ∈ state.visits ++ [visit],
      files.read (Location.ofString other.path) = .ok other.octets := by
    intro other member
    rcases List.mem_append.mp member with old | new
    · exact abreast.read other old
    · rw [List.mem_singleton.mp new]
      exact read
  unfold indexSteps at performed
  obtain ⟨_, looked, onward⟩ := after?_cons.mp performed
  obtain ⟨_, _, _, rfl⟩ := step?_lookUp.mp looked
  split at onward
  · rename_i current
    cases onward
    refine ⟨⟨abreast.reflect, abreast.heeds, ?_, allRead⟩, rfl⟩
    intro other member
    rcases List.mem_append.mp member with old | new
    · exact abreast.current other old
    · rw [List.mem_singleton.mp new]
      exact abreast.skipped apart visited current
  · rw [after?_singleton] at onward
    obtain ⟨_, tables, inserted, rfl⟩ := step?_write.mp onward
    obtain ⟨reflect, heeds, shown, others⟩ := abreast.written visited inserted
    refine ⟨⟨reflect, heeds, ?_, allRead⟩, rfl⟩
    intro other member
    -- A file that two roots have in common is visited twice, and read the same both times.
    by_cases samePath : other.path = visit.path
    · have same : other = visit := by
        have octets := allRead other member
        rw [samePath, read] at octets
        cases other
        cases visit
        cases samePath
        cases octets
        rfl
      rw [same]
      exact shown
    · refine others other ?_ samePath
      rcases List.mem_append.mp member with old | new
      · exact old
      · exact absurd (congrArg Visit.path (List.mem_singleton.mp new)) samePath

theorem Abreast.of_same_tables (abreast : state.Abreast files known)
    (tables : reached.tables = state.tables) (visits : reached.visits = state.visits) :
    reached.Abreast files known := by
  refine ⟨tables ▸ abreast.reflect, tables ▸ abreast.heeds, ?_, visits ▸ abreast.read⟩
  rw [tables, visits]
  exact abreast.current

theorem Abreast.fetched (abreast : state.Abreast files known) (apart : TellsApart known)
    {next : Except Failure String}
    (visited : ∀ visit : Visit, next = .ok visit.path →
      files.read (Location.ofString visit.path) = .ok visit.octets → visit ∈ known)
    (performed : state.after? files (state.stepsOf files next) = some reached) :
    reached.Abreast files known ∧
      ∃ visit : Visit, next = .ok visit.path ∧ reached.visits = state.visits ++ [visit] := by
  cases next with
  | error failure => contradiction
  | ok path =>
      obtain ⟨_, fetch, polling⟩ := after?_cons.mp performed
      cases fetch
      obtain ⟨middle, polled, reading⟩ := after?_cons.mp polling
      obtain ⟨tables, _, visits⟩ := of_step?_poll polled
      have between : middle.Abreast files known := abreast.of_same_tables tables visits
      obtain ⟨_, readStep, indexing⟩ := after?_cons.mp reading
      obtain ⟨octets, read, rfl⟩ := step?_read.mp readStep
      rw [read, ← tables] at indexing
      have found : Visit.mk path octets ∈ known := visited ⟨path, octets⟩ rfl read
      obtain ⟨kept, grown⟩ := between.indexed apart found read indexing
      exact ⟨kept, ⟨path, octets⟩, rfl, by rw [grown, visits]⟩

/-- A scan that does all its visits is abreast of its files when it closes. -/
theorem Abreast.planned {indexer : Indexer} {fetches : List (Except Failure String)}
    (abreast : state.Abreast files known) (apart : TellsApart known)
    (visited : ∀ visit : Visit, .ok visit.path ∈ fetches →
      files.read (Location.ofString visit.path) = .ok visit.octets → visit ∈ known)
    (performed : state.after? files (indexer.planFrom files fetches state) = some final) :
    ∃ last : ScanState, last.Abreast files known ∧
      last.visits.map (fun visit => .ok visit.path) =
        state.visits.map (fun visit => .ok visit.path) ++ fetches ∧
      (∃ reads, last.clock = state.clock.later reads) ∧
      last.after? files (indexer.closingSteps last) = some final := by
  induction fetches generalizing state with
  | nil =>
      obtain ⟨last, polled, closing⟩ := after?_follow.mp performed
      have clock := clock_of_after? polled
      rw [after?_singleton] at polled
      obtain ⟨tables, _, visits⟩ := of_step?_poll polled
      exact ⟨last, abreast.of_same_tables tables visits, by simp [visits], clock, closing⟩
  | cons next rest ih =>
      obtain ⟨middle, first, onward⟩ := after?_follow.mp performed
      obtain ⟨before, middleClock⟩ := clock_of_after? first
      obtain ⟨between, visit, fetch, visits⟩ := abreast.fetched apart
        (fun visit same => visited visit (by simp [same])) first
      obtain ⟨last, kept, all, ⟨after, clock⟩, closing⟩ :=
        ih between (fun visit member => visited visit (by simp [member])) onward
      refine ⟨last, kept, ?_, ⟨before + after, ?_⟩, closing⟩
      · rw [all, visits, fetch]
        simp
      · rw [clock, middleClock, Clock.later_later]

theorem rows_after_removals {paths : List String} (heeds : state.tables.Heeds)
    (performed : state.after? files (paths.map .remove) = some reached) :
    reached.tables.rows = state.tables.rows.filter fun row => row.path ∉ paths := by
  induction paths generalizing state with
  | nil =>
      cases performed
      simp
  | cons path rest ih =>
      obtain ⟨middle, first, onward⟩ := after?_cons.mp performed
      obtain ⟨removed, tables, deleted, rfl⟩ := step?_remove.mp first
      obtain ⟨heedsAfter, rows⟩ := heeds.delete_cases deleted
      rw [ih heedsAfter onward, rows, List.filter_filter]
      congr 1
      funext row
      simp [Bool.and_comm]

theorem rows_after_records {roots : List String}
    (performed : state.after? files (roots.map .recordRoot) = some reached) :
    reached.tables.rows = state.tables.rows ∧
      (∀ row ∈ state.tables.rootRows, row.path ∉ roots → row ∈ reached.tables.rootRows) ∧
      ∀ root ∈ roots, ∃ read total, read < total ∧ reached.clock = state.clock.later total ∧
        ⟨root, (state.clock.later read).read.1.toText⟩ ∈ reached.tables.rootRows := by
  induction roots generalizing state with
  | nil =>
      cases performed
      exact ⟨rfl, fun _ member _ => member, by simp⟩
  | cons root rest ih =>
      obtain ⟨middle, first, onward⟩ := after?_cons.mp performed
      obtain ⟨_, tables, recorded, rfl⟩ := step?_recordRoot.mp first
      obtain ⟨stored, roots, rfl⟩ := Tables.recordRoot_cases recorded
      obtain ⟨rows, kept, times⟩ := ih onward
      have earlier : state.tables.rootRows = stored := by simp [Tables.rootRows, roots]
      refine ⟨rows, ?_, ?_⟩
      · intro row member unlisted
        refine kept row ?_ fun later => unlisted (List.mem_cons_of_mem _ later)
        refine RootScan.mem_put.mpr (.inr ⟨earlier ▸ member, ?_⟩)
        intro same
        exact unlisted (same ▸ List.mem_cons_self)
      · intro other member
        by_cases later : other ∈ rest
        · obtain ⟨read, total, fewer, clock, recorded⟩ := times other later
          rw [← Clock.later_one, Clock.later_later] at clock recorded
          exact ⟨1 + read, 1 + total, by omega, clock, recorded⟩
        -- The same root may be recorded again; the time that stays is then the later one.
        · have same : other = root := (List.mem_cons.mp member).resolve_right later
          obtain ⟨reads, clock⟩ := clock_of_after? onward
          rw [← Clock.later_one, Clock.later_later] at clock
          refine ⟨0, 1 + reads, by omega, clock, kept _ ?_ later⟩
          refine RootScan.mem_put.mpr (.inl ?_)
          rw [same, Clock.later_zero]
          rfl

/-- The steps that close a scan: what was not visited goes, and the roots are recorded. -/
theorem after?_closing {indexer : Indexer}
    (performed : state.after? files (indexer.closingSteps state) = some final) :
    ∃ stored cleared, state.tables.paths = .ok stored ∧
      state.after? files
        ((stored.filter fun path => !(state.visits.map (·.path)).contains path).map .remove) =
          some cleared ∧
      cleared.after? files ((indexer.roots.map (·.toString)).map .recordRoot) = some final := by
  unfold Indexer.closingSteps at performed
  obtain ⟨unchanged, listing, onward⟩ := after?_cons.mp performed
  obtain ⟨stored, listed, same⟩ := changed?_asking.mp listing
  rw [same, listed] at onward
  dsimp only at onward
  rw [after?_append, Option.bind_eq_some_iff] at onward
  obtain ⟨cleared, removals, records⟩ := onward
  have toTexts : indexer.roots.map (fun root => ScanStep.recordRoot root.toString) =
      (indexer.roots.map (·.toString)).map .recordRoot := by
    rw [List.map_map]
    rfl
  exact ⟨stored, cleared, listed, removals, toTexts ▸ records⟩

/-- Of the rows only those stay whose files were visited. -/
theorem rows_after_closing {indexer : Indexer} (heeds : state.tables.Heeds)
    (performed : state.after? files (indexer.closingSteps state) = some final) :
    final.tables.rows =
      state.tables.rows.filter fun row => decide (row.path ∈ state.visits.map (·.path)) := by
  obtain ⟨stored, cleared, listed, removals, records⟩ := after?_closing performed
  rw [(rows_after_records records).1, rows_after_removals heeds removals]
  apply List.filter_congr
  intro row member
  have known : row.path ∈ stored := (Tables.mem_of_paths listed).mpr ⟨row, member, rfl⟩
  simp [known]

theorem Abreast.closed {indexer : Indexer} (abreast : state.Abreast files known)
    (performed : state.after? files (indexer.closingSteps state) = some final) :
    final.tables.Mirrors files (state.visits.map (·.path)) ∧
      ∀ root ∈ indexer.roots, ∃ read total, read < total ∧
        final.clock = state.clock.later total ∧
        ⟨root.toString, (state.clock.later read).read.1.toText⟩ ∈ final.tables.rootRows := by
  have rowsFinal := rows_after_closing abreast.heeds performed
  obtain ⟨_, cleared, _, removals, records⟩ := after?_closing performed
  obtain ⟨before, clockCleared⟩ := clock_of_after? removals
  obtain ⟨_, _, times⟩ := rows_after_records records
  have rows : ∀ row, row ∈ final.tables.rows ↔
      row ∈ state.tables.rows ∧ row.path ∈ state.visits.map (·.path) := by
    intro row
    rw [rowsFinal, List.mem_filter, decide_eq_true_eq]
  refine ⟨⟨?_, ?_, ?_⟩, ?_⟩
  · rw [rowsFinal]
    exact abreast.reflect.distinct.sublist (List.filter_sublist.map _)
  · intro row member
    obtain ⟨stays, seen⟩ := (rows row).mp member
    obtain ⟨visit, visited, path⟩ := List.mem_map.mp seen
    obtain ⟨twin, twinMember, shows⟩ := abreast.current visit visited
    have same : twin = row :=
      List.inj_on_of_nodup_map abreast.reflect.distinct twinMember stays (shows.path.trans path)
    rw [same] at shows
    refine ⟨seen, visit.octets, ?_, rfl, shows.content, shows.tokens, shows.hash⟩
    rw [shows.path]
    exact abreast.read visit visited
  · intro path seen
    obtain ⟨visit, visited, samePath⟩ := List.mem_map.mp seen
    obtain ⟨row, member, shows⟩ := abreast.current visit visited
    have rowPath : row.path = path := shows.path.trans samePath
    exact ⟨row, (rows row).mpr ⟨member, rowPath ▸ seen⟩, rowPath⟩
  · intro root watched
    obtain ⟨read, total, fewer, clock, recorded⟩ :=
      times root.toString (List.mem_map.mpr ⟨root, watched, rfl⟩)
    rw [clockCleared, Clock.later_later] at clock recorded
    exact ⟨before + read, before + total, by omega, clock, recorded⟩

end ScanState

namespace Indexer

variable {indexer : Indexer} {files : FileTree} {archive : Archive} {thread : Nat}
  {patience : Patience}

theorem mem_fetches {path : String} :
    .ok path ∈ indexer.fetches files ↔ path ∈ indexer.found files := by
  simp [fetches, found, Walk.fetches]

theorem scan_of_ok {tally : Tally} (watched : indexer.roots ≠ [])
    (ended : (indexer.scan archive thread patience).outcome = .ok tally) :
    ∃ progress, indexer.pass archive.files thread (.start archive patience) = (progress, none) ∧
      (indexer.scan archive thread patience).archive = progress.archive := by
  have some : ¬ indexer.roots.isEmpty = true := by simpa using watched
  unfold scan at ended ⊢
  rw [if_neg some] at ended ⊢
  cases passed : indexer.pass archive.files thread (.start archive patience) with
  | mk progress failure? =>
      rw [passed] at ended
      cases failure? with
      | none => exact ⟨progress, rfl, rfl⟩
      | some cause => contradiction

/-- A scan that succeeds leaves one row for each file that its walks find, which shows the file
as it is, and no others, whatever was left by the scans before it, and records the time of each
root. Nothing but the times of the rows depends on more than the files and which of them are
found. -/
theorem successful_scan_mirrors_files {start : Archive} {before : Moment}
    (reached : Reached start before) (empty : start.Holds fun tables => tables.rows = [])
    (dependable : before.archive.Dependable indexer.store thread)
    (heeds : (before.archive.committed indexer.store).Heeds)
    (apart : ScanState.TellsApart
      (before.visits ++ before.archive.files.visits (indexer.found before.archive.files)))
    (watched : indexer.roots ≠ []) {tally : Tally}
    (ended : (indexer.scan before.archive thread patience).outcome = .ok tally) :
    let files := before.archive.files
    let after := (indexer.scan before.archive thread patience).archive
    let tables := after.committed indexer.store
    tables.Mirrors files (indexer.found files) ∧
    (∀ row ∈ tables.rows, row.toDocument.tokens = Text.tokenize row.content) ∧
    (∀ root ∈ indexer.roots, ∃ read total, read < total ∧
      after.clock = before.archive.clock.later total ∧
      ⟨root.toString, (before.archive.clock.later read).read.1.toText⟩ ∈ tables.rootRows) ∧
    ∀ (other : Indexer) (others : Tables), others.Mirrors files (other.found files) →
      (∀ path, path ∈ indexer.found files ↔ path ∈ other.found files) →
        (tables.rows.map Entry.shape).Perm (others.rows.map Entry.shape) := by
  intro files after tables
  obtain ⟨progress, passed, same⟩ := scan_of_ok watched ended
  let state : ScanState :=
    ⟨before.archive.committed indexer.store, before.archive.clock, [], patience⟩
  have matched : Progress.Matches (.start before.archive patience) indexer.store state :=
    ⟨rfl, rfl, rfl, rfl⟩
  have follows := pass_follows files matched dependable
  rw [passed] at follows
  have blank : Tables.blank.Reflect before.visits := Tables.reflect_of_no_rows rfl
  have reflect : (before.archive.committed indexer.store).Reflect before.visits :=
    ((reached.reflects empty).database blank _).committed
  have abreast : state.Abreast files (before.visits ++ files.visits (indexer.found files)) := by
    refine ⟨reflect.mono fun _ member => List.mem_append_left _ member, heeds, ?_, ?_⟩
    · simp [state]
    · simp [state]
  cases follows with
  | @through _ final performed matched _ =>
      have visited : ∀ visit : Visit, .ok visit.path ∈ indexer.fetches files →
          files.read (Location.ofString visit.path) = .ok visit.octets →
            visit ∈ before.visits ++ files.visits (indexer.found files) := by
        intro visit member read
        exact List.mem_append_right _ (FileTree.mem_visits.mpr ⟨mem_fetches.mp member, read⟩)
      obtain ⟨last, kept, all, ⟨reads, clock⟩, closing⟩ := abreast.planned apart visited performed
      obtain ⟨mirrors, times⟩ := kept.closed closing
      have found : ∀ path, path ∈ last.visits.map (·.path) ↔ path ∈ indexer.found files := by
        intro path
        rw [← mem_fetches, ← List.nil_append (indexer.fetches files)]
        change _ ↔ _ ∈ state.visits.map (fun visit => .ok visit.path) ++ indexer.fetches files
        rw [← all]
        simp
      have tablesFinal : tables = final.tables := by
        rw [← matched.tables, ← same]
      have clockFinal : after.clock = final.clock := by
        rw [← matched.clock, ← same]
      have exact : tables.Mirrors files (indexer.found files) := by
        rw [tablesFinal]
        exact mirrors.congr found
      refine ⟨exact, ?_, ?_, fun other others mirrored samePaths =>
        exact.perm_shapes mirrored samePaths⟩
      · intro row member
        obtain ⟨_, _, _, shows⟩ := exact.shown row member
        change Text.words row.tokens = _
        rw [shows.tokens]
        exact Text.words_joinWords_tokenize row.content
      · intro root watchedRoot
        obtain ⟨read, total, fewer, clockAfter, recorded⟩ := times root watchedRoot
        rw [clock, Clock.later_later] at clockAfter recorded
        rw [tablesFinal]
        exact ⟨reads + read, reads + total, by omega, clockFinal.trans clockAfter, recorded⟩

/-! After a scan of two roots was cancelled, the file of the first is changed, and that root alone
is scanned by another thread. -/

def exampleChange : FileTree :=
  exampleMoment.archive.files.putAt ["a", "x.txt"] (.file [66, 121, 101])

def exampleRescan : Indexer := ⟨0, [⟨.root, ["a"]⟩], [".txt"], .caller⟩

def exampleChangedMoment : Moment :=
  ⟨(Deed.changeFiles exampleChange).perform exampleMoment.archive, exampleMoment.visits⟩

theorem exampleChangedMoment_reached : Reached exampleStart exampleChangedMoment :=
  exampleMoment_reached.deed (.changeFiles exampleChange)

theorem exampleChangedMoment_dependable : exampleChangedMoment.archive.Dependable 0 1 := by
  have address : (exampleChangedMoment.archive.handle 0).address =
      .file (.ofString "/h/index.db") .create false := by decide +kernel
  have leads : exampleChangedMoment.archive.files.place? (.ofString "/h/index.db") =
      some ["h", "index.db"] := by decide +kernel
  have unread : (exampleChangedMoment.archive.handle 0).readers.lookup 1 = none := by
    decide +kernel
  refine .inr (Archive.readsOwnWrites_of_inPlace ?_ ?_ address leads ?_ ?_)
  · decide +kernel
  · decide +kernel
  · decide +kernel
  · simp [unread]

theorem exampleChangedMoment_heeds : (exampleChangedMoment.archive.committed 0).Heeds := by
  unfold Tables.Heeds
  decide +kernel

theorem exampleVisits_tellApart :
    ScanState.TellsApart (exampleChangedMoment.visits ++
      exampleChangedMoment.archive.files.visits
        (exampleRescan.found exampleChangedMoment.archive.files)) := by
  unfold ScanState.TellsApart
  decide +kernel

theorem exampleRescan_ends :
    (exampleRescan.scan exampleChangedMoment.archive 1 none).outcome = .ok ⟨0, 1, 0, 0⟩ := by
  decide +kernel

theorem rescan_mirrors_changed_file :
    let archive := exampleChangedMoment.archive
    let files := archive.files
    let after := (exampleRescan.scan archive 1 none).archive
    let tables := after.committed 0
    Reached exampleStart exampleChangedMoment ∧
    (exampleStart.Holds fun tables => tables.rows = []) ∧ archive.Dependable 0 1 ∧
    (archive.committed 0).Heeds ∧
    ScanState.TellsApart
      (exampleChangedMoment.visits ++ files.visits (exampleRescan.found files)) ∧
    exampleRescan.roots ≠ [] ∧
    (exampleRescan.scan archive 1 none).outcome = .ok ⟨0, 1, 0, 0⟩ ∧
    tables.Mirrors files (exampleRescan.found files) ∧
    (∀ row ∈ tables.rows, row.toDocument.tokens = Text.tokenize row.content) ∧
    (∀ root ∈ exampleRescan.roots, ∃ read total, read < total ∧
      after.clock = archive.clock.later total ∧
      ⟨root.toString, (archive.clock.later read).read.1.toText⟩ ∈ tables.rootRows) ∧
    ∀ (other : Indexer) (others : Tables), others.Mirrors files (other.found files) →
      (∀ path, path ∈ exampleRescan.found files ↔ path ∈ other.found files) →
        (tables.rows.map Entry.shape).Perm (others.rows.map Entry.shape) :=
  ⟨exampleChangedMoment_reached, exampleStart_empty, exampleChangedMoment_dependable,
    exampleChangedMoment_heeds, exampleVisits_tellApart, by simp [exampleRescan],
    exampleRescan_ends,
    successful_scan_mirrors_files exampleChangedMoment_reached exampleStart_empty
      exampleChangedMoment_dependable exampleChangedMoment_heeds exampleVisits_tellApart
      (by simp [exampleRescan]) exampleRescan_ends⟩

end Indexer

end FolderIndex
