import FolderIndex.Proofs.Rewrites

namespace FolderIndex

/-! Scans write only what changed, and a scan of files that did not change since the last one
writes nothing but the times of its roots. -/

namespace ScanState

variable {files : FileTree} {state final : ScanState} {paths roots : List String}

theorem after_removals (performed : state.after? files (paths.map .remove) = some final) :
    final.clock = state.clock ∧ final.tables.roots? = state.tables.roots? ∧
      (state.tables.entries?.isSome → final.tables.entries?.isSome) ∧
      (state.tables.Heeds → final.tables.Heeds) := by
  induction paths generalizing state with
  | nil =>
      cases performed
      exact ⟨rfl, rfl, id, id⟩
  | cons path rest ih =>
      obtain ⟨middle, first, onward⟩ := after?_cons.mp performed
      obtain ⟨removed, tables, deleted, rfl⟩ := step?_remove.mp first
      obtain ⟨clock, rootRows, entries, heeds⟩ := ih onward
      have heedsBetween : state.tables.Heeds → tables.Heeds :=
        fun before => (before.delete_cases deleted).1
      obtain ⟨table, stored, ⟨_, rfl, _⟩ | ⟨_, _, rfl⟩⟩ := Tables.delete_cases deleted
      · exact ⟨clock, rootRows, entries, heeds⟩
      · exact ⟨clock, rootRows, fun _ => entries rfl, fun before => heeds (heedsBetween before)⟩

/-- The recording of roots reads the clock once for each, and changes nothing but their times. -/
theorem after_records (performed : state.after? files (roots.map .recordRoot) = some final) :
    final.clock = state.clock.later roots.length ∧
      final.tables.entries? = state.tables.entries? ∧
      (roots ≠ [] → final.tables.roots?.isSome) ∧
      (∀ row, row.path ∉ roots → (row ∈ final.tables.rootRows ↔ row ∈ state.tables.rootRows)) ∧
      ((∀ root ∈ roots, root ∈ state.tables.rootRows.map (·.path)) →
        final.tables.rootRows.map (·.path) = state.tables.rootRows.map (·.path)) := by
  induction roots generalizing state with
  | nil =>
      cases performed
      exact ⟨(Clock.later_zero _).symm, rfl, by simp, fun _ _ => Iff.rfl, fun _ => rfl⟩
  | cons root rest ih =>
      obtain ⟨middle, first, onward⟩ := after?_cons.mp performed
      obtain ⟨_, tables, recorded, rfl⟩ := step?_recordRoot.mp first
      obtain ⟨stored, before, rfl⟩ := Tables.recordRoot_cases recorded
      obtain ⟨clock, entries, present, others, paths⟩ := ih onward
      have earlier : state.tables.rootRows = stored := by simp [Tables.rootRows, before]
      refine ⟨?_, entries, ?_, ?_, ?_⟩
      · rw [clock, ← Clock.later_one, Clock.later_later, List.length_cons, Nat.add_comm]
      · intro _
        cases rest with
        | nil =>
            cases onward
            rfl
        | cons next more => exact present (by simp)
      · intro row unlisted
        rw [others row fun later => unlisted (List.mem_cons_of_mem _ later), earlier]
        refine RootScan.mem_put.trans ⟨?_, fun member => .inr ⟨member, ?_⟩⟩
        · rintro (rfl | ⟨member, _⟩)
          · exact absurd List.mem_cons_self unlisted
          · exact member
        · intro same
          exact unlisted (same ▸ List.mem_cons_self)
      · intro known
        have put : (RootScan.put ⟨root, state.time⟩ stored).map (·.path) = stored.map (·.path) := by
          apply RootScan.map_path_put
          have member := known root List.mem_cons_self
          rw [earlier] at member
          exact List.mem_map.mp member
        rw [paths, earlier]
        · exact put
        · intro other member
          change other ∈ (RootScan.put ⟨root, state.time⟩ stored).map (·.path)
          rw [put, ← earlier]
          exact known other (List.mem_cons_of_mem _ member)

end ScanState

/-- Whether an action is one that closes a scan. -/
def ScanAction.isClosing : ScanAction → Bool
  | remove _ | recordRoot _ => true
  | _ => false

namespace Progress

variable {files : FileTree} {store thread : Nat} {before after : Progress}
  {actions : List ScanAction}

/-- What the actions do that close a scan, besides what they store. -/
structure Closes (files : FileTree) (store thread : Nat) (before after : Progress)
    (actions : List ScanAction) : Prop where
  ready : before.archive.Met store thread → actions ≠ [] → after.archive.Ready store thread
  spelled : ∀ root, .recordRoot root ∈ actions → files.Spells root
  log : ∃ removed : List String, (∀ path ∈ removed, .remove path ∈ actions) ∧
    after.events = before.events ++ removed.map .removed ∧
    after.tally = { before.tally with removed := before.tally.removed + removed.length }

theorem closes_of_act {action : ScanAction}
    (closing : action.isClosing = true)
    (ended : before.act files store thread action = (after, none)) :
    Closes files store thread before after [action] := by
  cases action with
  | remove path =>
      simp only [act, remove] at ended
      split at ended
      · cases ended
      · rename_i deleted
        cases ended
        exact ⟨fun met _ => met.of_delete deleted, by simp, [], by simp, by simp, by simp⟩
      · rename_i deleted
        cases ended
        exact ⟨fun met _ => met.of_delete deleted, by simp, [path], by simp, rfl, rfl⟩
  | recordRoot root =>
      simp only [act, recordRoot] at ended
      split at ended
      · cases ended
      · rename_i recorded
        cases ended
        obtain ⟨encoded, recorded⟩ := Archive.markRoot_eq_ok.mp recorded
        refine ⟨fun met _ => met.of_recordRoot recorded, ?_, [], by simp, by simp, by simp⟩
        intro other member
        cases List.mem_singleton.mp member
        exact ⟨Archive.solid_of_recordRoot recorded, encoded⟩
  | poll => contradiction
  | visit path => contradiction
  | fail failure => contradiction

theorem closes_of_run
    (closing : ∀ action ∈ actions, action.isClosing = true)
    (ended : before.run files store thread actions = (after, none)) :
    Closes files store thread before after actions := by
  induction actions generalizing before with
  | nil =>
      cases ended
      exact ⟨fun _ some => absurd rfl some, by simp, [], by simp, by simp, by simp⟩
  | cons action rest ih =>
      rw [run_cons, andThen_eq_none] at ended
      obtain ⟨between, acted, onward⟩ := ended
      have first := closes_of_act (closing action List.mem_cons_self) acted
      have second := ih (fun other member => closing other (List.mem_cons_of_mem _ member)) onward
      obtain ⟨removed, among, events, tally⟩ := first.log
      obtain ⟨more, amongRest, eventsAfter, tallyAfter⟩ := second.log
      refine ⟨fun met _ => ?_, ?_, removed ++ more, ?_, ?_, ?_⟩
      · have ready : between.archive.Ready store thread := first.ready met (by simp)
        cases rest with
        | nil =>
            cases onward
            exact ready
        | cons next later => exact second.ready ready.met (by simp)
      · intro root member
        rcases List.mem_cons.mp member with rfl | later
        · exact first.spelled root List.mem_cons_self
        · exact second.spelled root later
      · intro path member
        rcases List.mem_append.mp member with early | late
        · exact List.mem_cons.mpr (.inl (List.mem_singleton.mp (among path early)))
        · exact List.mem_cons_of_mem _ (amongRest path late)
      · rw [eventsAfter, events, List.map_append, List.append_assoc]
      · rw [tallyAfter, tally, List.length_append]
        simp only [Tally.mk.injEq, true_and]
        omega

end Progress

namespace Indexer

variable {indexer : Indexer} {files : FileTree} {thread : Nat} {before after : Progress}

/-- What the end of a scan does, once all files are visited. -/
structure Reconciles (indexer : Indexer) (files : FileTree) (thread : Nat)
    (before after : Progress) : Prop where
  rows : (after.archive.committed indexer.store).rows =
    (before.archive.committed indexer.store).rows.filter fun row => decide (row.path ∈ before.seen)
  clock : after.archive.clock = before.archive.clock.later indexer.roots.length
  heeds : (after.archive.committed indexer.store).Heeds
  complete : indexer.roots ≠ [] → (after.archive.committed indexer.store).isComplete = true
  recorded : ∀ root ∈ indexer.roots, root.toString ∈
    (after.archive.committed indexer.store).rootRows.map (·.path)
  others : ∀ row : RootScan, row.path ∉ indexer.roots.map (·.toString) →
    (row ∈ (after.archive.committed indexer.store).rootRows ↔
      row ∈ (before.archive.committed indexer.store).rootRows)
  paths : (∀ root ∈ indexer.roots, root.toString ∈
      (before.archive.committed indexer.store).rootRows.map (·.path)) →
    (after.archive.committed indexer.store).rootRows.map (·.path) =
      (before.archive.committed indexer.store).rootRows.map (·.path)
  spelled : ∀ root ∈ indexer.roots, files.Spells root.toString
  log : ∃ removed : List String, after.events = before.events ++ removed.map .removed
  quiet : (∀ row ∈ (before.archive.committed indexer.store).rows, row.path ∈ before.seen) →
    (after.archive.committed indexer.store).entries? =
        (before.archive.committed indexer.store).entries? ∧
      after.tally = before.tally
  ready : indexer.roots ≠ [] →
    ((before.archive.handle indexer.store).address ≠ .memory →
      (before.archive.handle indexer.store).readers.lookup thread = none →
        before.archive.KeepsCommonApart) → after.archive.Ready indexer.store thread

theorem closes_of_reconcile (dependable : before.archive.Dependable indexer.store thread)
    (ended : indexer.reconcile files thread before = (after, none)) :
    ∃ stored archive, (before.archive.committed indexer.store).paths = .ok stored ∧
      Progress.Closes files indexer.store thread { before with archive := archive } after
        (indexer.closingActions stored before.seen) ∧
      (((before.archive.handle indexer.store).address ≠ .memory →
        (before.archive.handle indexer.store).readers.lookup thread = none →
          before.archive.KeepsCommonApart) → archive.Met indexer.store thread) := by
  have performs := Archive.listPaths_performs dependable
  unfold reconcile at ended
  cases listing : before.archive.listPaths indexer.store thread with
  | mk result archive =>
      rw [listing] at performs ended
      cases performs with
      | failed own kept => cases ended
      | @done stored _ answered linked timed =>
          obtain ⟨listed, _⟩ := Archive.asking_eq_ok.mp answered
          have closing : ∀ action ∈ indexer.closingActions stored before.seen,
              action.isClosing = true := by
            intro action member
            rcases List.mem_append.mp member with removal | record
            · obtain ⟨_, _, rfl⟩ := List.mem_map.mp removal
              rfl
            · obtain ⟨_, _, rfl⟩ := List.mem_map.mp record
              rfl
          refine ⟨stored, archive, listed, Progress.closes_of_run closing ended, fun apart => ?_⟩
          obtain ⟨tables, read, _⟩ := Archive.reading_of_query listing
          exact Archive.met_of_reading dependable apart read linked

/-- Where all that is stored was seen, nothing is removed. -/
theorem closingActions_of_seen {stored seen : List String} (all : ∀ path ∈ stored, path ∈ seen) :
    indexer.closingActions stored seen =
      indexer.roots.map fun root => .recordRoot root.toString := by
  have none : (stored.filter fun path => !seen.contains path) = [] := by
    rw [List.filter_eq_nil_iff]
    intro path member
    simpa using all path member
  rw [closingActions, none, List.map_nil, List.nil_append]

theorem reconciles_of_ok (dependable : before.archive.Dependable indexer.store thread)
    (heeds : (before.archive.committed indexer.store).Heeds)
    (ended : indexer.reconcile files thread before = (after, none)) :
    indexer.Reconciles files thread before after := by
  obtain ⟨listing, archive, listedBy, closes, met⟩ := closes_of_reconcile dependable ended
  -- The plan looks at the paths of the visits only, so it is no matter what they read.
  let state : ScanState :=
    ⟨before.archive.committed indexer.store, before.archive.clock,
      before.seen.map fun path => ⟨path, []⟩, before.patience⟩
  have seen : state.visits.map (·.path) = before.seen := by simp [state, Function.comp_def]
  have matched : before.Matches indexer.store state := ⟨rfl, rfl, seen.symm, rfl⟩
  have follows : Follows files _ _ state _ (indexer.reconcile files thread before) :=
    reconcile_follows matched dependable
  rw [ended] at follows
  cases follows with
  | @through _ final performed matchedAfter _ =>
      have rows := ScanState.rows_after_closing heeds performed
      obtain ⟨stored, cleared, listed, removals, records⟩ := ScanState.after?_closing performed
      obtain ⟨clockCleared, rootsCleared, entriesCleared, heedsCleared⟩ :=
        ScanState.after_removals removals
      obtain ⟨clock, entries, present, others, paths⟩ := ScanState.after_records records
      obtain ⟨_, _, times⟩ := ScanState.rows_after_records records
      obtain ⟨removed, among, events, tally⟩ := closes.log
      have rootRows : cleared.tables.rootRows = state.tables.rootRows := by
        simp only [Tables.rootRows, rootsCleared]
      have same : stored = listing := Except.ok.inj (listed.symm.trans listedBy)
      have stands : state.tables.entries?.isSome := by
        cases held : state.tables.entries? with
        | none => simp [Tables.paths, Tables.entries, held, bind, Except.bind] at listed
        | some table => rfl
      rw [rootRows] at others paths
      refine ⟨?_, ?_, ?_, ?_, ?_, ?_, ?_, ?_, ⟨removed, events⟩, ?_, ?_⟩
      · rw [matchedAfter.tables, rows, seen]
      · rw [matchedAfter.clock, clock, clockCleared, List.length_map]
      · rw [matchedAfter.tables, Tables.Heeds, entries]
        exact heedsCleared heeds
      · intro watched
        rw [matchedAfter.tables, Tables.isComplete, entries, entriesCleared stands,
          present (by simpa using watched)]
        rfl
      · intro root watched
        obtain ⟨_, _, _, _, recorded⟩ := times root.toString (List.mem_map_of_mem watched)
        rw [matchedAfter.tables]
        exact List.mem_map.mpr ⟨_, recorded, rfl⟩
      · intro row unlisted
        rw [matchedAfter.tables]
        exact others row unlisted
      · intro known
        rw [matchedAfter.tables]
        refine paths ?_
        simpa using known
      · intro root watched
        exact closes.spelled root.toString
          (List.mem_append_right _ (List.mem_map.mpr ⟨root, watched, rfl⟩))
      · intro all
        have stays : ∀ path ∈ stored, path ∈ before.seen := by
          intro path member
          obtain ⟨row, rowMember, rfl⟩ := (Tables.mem_of_paths listed).mp member
          exact all row rowMember
        have none : (stored.filter fun path => !(state.visits.map (·.path)).contains path) = [] := by
          rw [List.filter_eq_nil_iff, seen]
          intro path member
          simpa using stays path member
        rw [none] at removals
        cases removals
        refine ⟨by rw [matchedAfter.tables, entries], ?_⟩
        have nothing : removed = [] := by
          rw [List.eq_nil_iff_forall_not_mem]
          intro path member
          have removal := among path member
          rw [closingActions_of_seen (same ▸ stays)] at removal
          simp at removal
        rw [tally, nothing]
        simp
      · intro watched apart
        refine closes.ready (met apart) ?_
        simp [closingActions, watched]

theorem Reconciles.rowsAt (reconciles : indexer.Reconciles files thread before after)
    {path : String} (seen : path ∈ before.seen) :
    (after.archive.committed indexer.store).rowsAt path =
      (before.archive.committed indexer.store).rowsAt path := by
  rw [Tables.rowsAt, reconciles.rows, List.filter_filter]
  apply List.filter_congr
  intro row _
  by_cases same : row.path = path
  · simp [same, seen]
  · simp [same]

theorem Reconciles.count_indexed (reconciles : indexer.Reconciles files thread before after)
    (path : String) : after.events.count (.indexed path) = before.events.count (.indexed path) := by
  obtain ⟨removed, events⟩ := reconciles.log
  have none : (removed.map Event.removed).count (.indexed path) = 0 := by
    simp [List.count_eq_zero]
  rw [events, List.count_append, none, Nat.add_zero]

theorem Reconciles.countP_isIndexed (reconciles : indexer.Reconciles files thread before after) :
    after.events.countP Event.isIndexed = before.events.countP Event.isIndexed := by
  obtain ⟨removed, events⟩ := reconciles.log
  have none : (removed.map Event.removed).countP Event.isIndexed = 0 := by
    simp [List.countP_eq_zero, Event.isIndexed]
  rw [events, List.countP_append, none, Nat.add_zero]

theorem filterMap_fetches :
    (indexer.fetches files).filterMap Except.toOption = indexer.found files := by
  unfold fetches found
  rw [List.filterMap_flatMap]
  congr
  funext root
  have none : ((files.walk indexer.extensions root).failure?.map Except.error).toList.filterMap
      (Except.toOption (α := String)) = [] := by
    cases (files.walk indexer.extensions root).failure? <;> rfl
  rw [Walk.fetches, List.filterMap_append, none, List.append_nil, List.filterMap_map]
  exact List.filterMap_some

theorem unbroken_of_fetches {paths : List String}
    (fetched : indexer.fetches files = paths.map .ok) :
    ∀ root ∈ indexer.roots, (files.walk indexer.extensions root).failure? = none := by
  intro root watched
  cases broken : (files.walk indexer.extensions root).failure? with
  | none => rfl
  | some failure =>
      have member : .error failure ∈ indexer.fetches files :=
        List.mem_flatMap.mpr ⟨root, watched, by simp [Walk.fetches, broken]⟩
      simp [fetched] at member

variable {archive : Archive} {patience : Patience} {tally : Tally}

/-- A scan that succeeds does all its visits and all that follows them. -/
theorem runs_of_scan (watched : indexer.roots ≠ [])
    (ended : (indexer.scan archive thread patience).outcome = .ok tally) :
    ∃ visited final : Progress,
      (Progress.start archive patience).run archive.files indexer.store thread
        (indexer.visitActions archive.files) = (visited, none) ∧
      indexer.reconcile archive.files thread visited = (final, none) ∧ final.tally = tally ∧
      (indexer.scan archive thread patience).archive = final.archive ∧
      (indexer.scan archive thread patience).notices.map (·.event) =
        final.events ++ [.scanComplete tally] := by
  have some : ¬ indexer.roots.isEmpty = true := by simpa using watched
  unfold scan at ended ⊢
  rw [if_neg some] at ended ⊢
  cases passed : indexer.pass archive.files thread (.start archive patience) with
  | mk final failure? =>
      rw [passed] at ended
      cases failure? with
      | some cause => cases ended
      | none =>
          have counts : final.tally = tally := Except.ok.inj ended
          rw [pass_eq_andThen] at passed
          obtain ⟨visited, visiting, reconciled⟩ := Progress.andThen_eq_none.mp passed
          refine ⟨visited, final, visiting, reconciled, counts, rfl, ?_⟩
          simp [Notice.all, counts, Function.comp_def]

/-- Visits that all succeed are those of the files that the walks find. -/
theorem passes_of_visits {visited : Progress} (dependable : archive.Dependable indexer.store thread)
    (heeds : (archive.committed indexer.store).Heeds)
    (visiting : (Progress.start archive patience).run archive.files indexer.store thread
      (indexer.visitActions archive.files) = (visited, none)) :
    Progress.Passes archive.files indexer.store thread (.start archive patience) visited
        (indexer.found archive.files) ∧
      ∀ root ∈ indexer.roots, (archive.files.walk indexer.extensions root).failure? = none := by
  have usable : Archive.Dependable (Progress.start archive patience).archive indexer.store thread :=
    dependable
  rw [visitActions_eq] at visiting
  obtain ⟨paths, fetched, passes⟩ := Progress.passes_of_run usable heeds visiting
  have found : indexer.found archive.files = paths := by
    rw [← filterMap_fetches, fetched, List.filterMap_map]
    exact List.filterMap_some
  rw [found]
  exact ⟨passes, unbroken_of_fetches fetched⟩

/-- A scan that succeeds passes all files that its walks find, and reconciles what is stored. -/
theorem stages_of_scan (dependable : archive.Dependable indexer.store thread)
    (heeds : (archive.committed indexer.store).Heeds) (watched : indexer.roots ≠ [])
    (ended : (indexer.scan archive thread patience).outcome = .ok tally) :
    ∃ visited final : Progress,
      Progress.Passes archive.files indexer.store thread (.start archive patience) visited
        (indexer.found archive.files) ∧
      indexer.Reconciles archive.files thread visited final ∧ final.tally = tally ∧
      (∀ root ∈ indexer.roots,
        (archive.files.walk indexer.extensions root).failure? = none) ∧
      (indexer.scan archive thread patience).archive = final.archive ∧
      (indexer.scan archive thread patience).notices.map (·.event) =
        final.events ++ [.scanComplete tally] := by
  obtain ⟨visited, final, visiting, reconciled, counts, same, told⟩ := runs_of_scan watched ended
  obtain ⟨passes, unbroken⟩ := passes_of_visits dependable heeds visiting
  exact ⟨visited, final, passes,
    reconciles_of_ok (passes.dependable dependable) passes.heeds reconciled, counts, unbroken, same,
    told⟩

end Indexer

/-! A scan that finds all that is stored current goes through. -/

namespace Progress

variable {files : FileTree} {store thread : Nat} {before : Progress}

theorem visit_of_ready (ready : before.archive.Ready store thread) {path : String}
    {octets : List UInt8} (spelled : files.Spells path)
    (read : files.read (Location.ofString path) = .ok octets)
    (current : Visit.isCurrent ⟨path, octets⟩ (before.archive.committed store) = true) :
    ∃ after, before.visit files store thread path = (after, none) ∧
      after.archive = before.archive ∧ after.patience = before.patience ∧
      after.seen = before.seen ++ [path] := by
  have hashed : ((before.archive.committed store).hashOf path).toOption =
      some (some (digest octets)) := of_decide_eq_true current
  have found : before.archive.getHash store thread path =
      (.ok (some (digest octets)), before.archive) := by
    unfold Archive.getHash
    rw [if_neg (by simp [spelled.1]), Archive.query_of_ready ready]
    cases answer : (before.archive.committed store).hashOf path with
    | error fault => simp [answer, Except.toOption] at hashed
    | ok hash? =>
        rw [answer] at hashed
        cases hashed
        rfl
  unfold visit
  rw [read]
  unfold indexOctets
  dsimp only
  rw [Archive.lookUp_eq_ok.mpr ⟨spelled.2, found⟩]
  dsimp only
  rw [if_pos rfl]
  exact ⟨_, rfl, rfl, rfl, rfl⟩

theorem run_visits_of_ready {paths : List String} (ready : before.archive.Ready store thread)
    (patient : before.patience = none)
    (current : ∀ path ∈ paths, files.Spells path ∧ ∃ octets,
      files.read (Location.ofString path) = .ok octets ∧
        Visit.isCurrent ⟨path, octets⟩ (before.archive.committed store) = true) :
    ∃ after, before.run files store thread
        ((paths.map .ok).flatMap ScanAction.ofFetch ++ [.poll]) = (after, none) ∧
      after.archive = before.archive ∧ after.seen = before.seen ++ paths := by
  have polled : ∀ {progress : Progress}, progress.patience = none →
      progress.act files store thread .poll = (progress, none) := by
    intro progress patient
    simp [act, poll, patient]
  induction paths generalizing before with
  | nil =>
      refine ⟨before, ?_, rfl, (List.append_nil _).symm⟩
      rw [List.map_nil, List.flatMap_nil, List.nil_append, run_singleton, polled patient]
  | cons path rest ih =>
      obtain ⟨spelled, octets, read, fresh⟩ := current path List.mem_cons_self
      obtain ⟨visited, visiting, archive, patience, seen⟩ :=
        visit_of_ready ready spelled read fresh
      have readyAfter : visited.archive.Ready store thread := archive ▸ ready
      obtain ⟨after, ran, sameArchive, allSeen⟩ :=
        ih readyAfter (patience.trans patient) fun other member => by
          rw [archive]
          exact current other (List.mem_cons_of_mem _ member)
      refine ⟨after, ?_, sameArchive.trans archive, ?_⟩
      · rw [List.map_cons, List.flatMap_cons, List.append_assoc]
        simp only [ScanAction.ofFetch, List.cons_append, List.nil_append, run_cons,
          polled patient]
        change andThen (before.visit files store thread path) _ = _
        rw [visiting]
        exact ran
      · rw [allSeen, seen, List.append_assoc]
        rfl

theorem run_records_of_ready {roots : List String} (ready : before.archive.Ready store thread)
    (complete : (before.archive.committed store).isComplete = true)
    (spelled : ∀ root ∈ roots, files.Spells root) :
    ∃ after, before.run files store thread (roots.map .recordRoot) = (after, none) := by
  induction roots generalizing before with
  | nil => exact ⟨before, rfl⟩
  | cons root rest ih =>
      obtain ⟨solid, encoded⟩ := spelled root List.mem_cons_self
      have stamped : before.archive.stamp.2.Ready store thread := ready.stamp
      simp only [Tables.isComplete, Bool.and_eq_true, Option.isSome_iff_exists] at complete
      obtain ⟨⟨table, entries⟩, ⟨rows, stored⟩⟩ := complete
      let tables : Tables := ⟨some table, some (RootScan.put ⟨root, before.archive.stamp.1⟩ rows)⟩
      have recorded : before.archive.recordRoot store root =
          (.ok (), before.archive.stamp.2.storing store tables) := by
        unfold Archive.recordRoot
        rw [if_neg (by simp [solid])]
        dsimp only
        rw [Archive.transact_of_writable stamped.toWritable]
        have changed : (before.archive.stamp.2.committed store).recordRoot
            ⟨root, before.archive.stamp.1⟩ = .ok ((), tables) := by
          change (before.archive.committed store).recordRoot _ = _
          simp [Tables.recordRoot, Tables.roots, stored, entries, tables, bind, Except.bind, pure,
            Except.pure]
        rw [changed]
        rfl
      let next : Progress :=
        { before with archive := before.archive.stamp.2.storing store tables }
      have acted : before.recordRoot files store root = (next, none) := by
        unfold recordRoot
        rw [Archive.markRoot_eq_ok.mpr ⟨encoded, recorded⟩]
      have readyNext : next.archive.Ready store thread := stamped.storing _
      have completeNext : (next.archive.committed store).isComplete = true := by
        dsimp only [next]
        rw [Archive.committed_storing stamped.toWritable]
        rfl
      obtain ⟨after, ran⟩ :=
        ih readyNext completeNext fun other member => spelled other (List.mem_cons_of_mem _ member)
      refine ⟨after, ?_⟩
      rw [List.map_cons, run_cons]
      change andThen (before.recordRoot files store root) _ = _
      rw [acted]
      exact ran

end Progress

namespace Indexer

variable {indexer : Indexer} {archive : Archive} {thread : Nat}

theorem scan_of_ready (ready : archive.Ready indexer.store thread)
    (complete : (archive.committed indexer.store).isComplete = true)
    (unbroken : ∀ root ∈ indexer.roots,
      (archive.files.walk indexer.extensions root).failure? = none)
    (current : ∀ path ∈ indexer.found archive.files, archive.files.Spells path ∧ ∃ octets,
      archive.files.read (Location.ofString path) = .ok octets ∧
        Visit.isCurrent ⟨path, octets⟩ (archive.committed indexer.store) = true)
    (all : ∀ row ∈ (archive.committed indexer.store).rows,
      row.path ∈ indexer.found archive.files)
    (spelled : ∀ root ∈ indexer.roots, archive.files.Spells root.toString) :
    ∃ tally, (indexer.scan archive thread none).outcome = .ok tally := by
  have fetched : indexer.fetches archive.files = (indexer.found archive.files).map .ok := by
    unfold fetches found
    rw [List.map_flatMap]
    apply List.flatMap_congr
    intro root watched
    simp [Walk.fetches, unbroken root watched]
  have readyStart : (Progress.start archive none).archive.Ready indexer.store thread := ready
  obtain ⟨visited, visiting, same, seen⟩ :=
    Progress.run_visits_of_ready readyStart rfl current
  have archives : visited.archive = archive := same
  have seenAll : visited.seen = indexer.found archive.files := seen
  have readyAfter : visited.archive.Ready indexer.store thread := archives ▸ ready
  obtain ⟨table, entries⟩ : ∃ table,
      (archive.committed indexer.store).entries? = some table := by
    simp only [Tables.isComplete, Bool.and_eq_true, Option.isSome_iff_exists] at complete
    exact complete.1
  obtain ⟨stored, listed⟩ : ∃ stored, (archive.committed indexer.store).paths = .ok stored := by
    simp [Tables.paths, Tables.entries, entries, bind, Except.bind, pure, Except.pure]
  have listing : visited.archive.listPaths indexer.store thread = (.ok stored, visited.archive) := by
    unfold Archive.listPaths
    rw [Archive.query_of_ready readyAfter, archives, listed]
  have closing : indexer.closingActions stored visited.seen =
      (indexer.roots.map (·.toString)).map .recordRoot := by
    rw [List.map_map]
    apply closingActions_of_seen
    intro path member
    obtain ⟨row, rowMember, rfl⟩ := (Tables.mem_of_paths listed).mp member
    exact seenAll ▸ all row rowMember
  obtain ⟨final, recorded⟩ : ∃ final, visited.run archive.files indexer.store thread
      ((indexer.roots.map (·.toString)).map .recordRoot) = (final, none) := by
    apply Progress.run_records_of_ready readyAfter (archives ▸ complete)
    simpa using spelled
  have passed : indexer.pass archive.files thread (.start archive none) = (final, none) := by
    unfold pass
    rw [visitActions_eq, fetched, visiting]
    dsimp only
    unfold reconcile
    rw [listing]
    dsimp only
    rw [closing]
    exact recorded
  unfold scan
  split
  · exact ⟨.zero, rfl⟩
  · rw [passed]
    exact ⟨final.tally, rfl⟩

theorem isCurrent_iff_hashOf {visit : Visit} {tables : Tables} :
    visit.isCurrent tables = true ↔
      tables.hashOf visit.path = .ok (some (digest visit.octets)) := by
  unfold Visit.isCurrent
  cases tables.hashOf visit.path with
  | error fault => simp [Except.toOption]
  | ok hash? => simp [Except.toOption]

theorem scan_of_unwatched (unwatched : indexer.roots = []) (archive : Archive) (thread : Nat)
    (patience : Patience) : indexer.scan archive thread patience = ⟨.ok .zero, archive, []⟩ := by
  simp [scan, unwatched]

/-- A scan writes the row of a file once if what is stored is not current, and else leaves it as
it is, however often its walks find the file. The clock is read once for each row that is written
and for each root. So a scan that follows while no file changes writes no row and removes none; it
passes over all files, and of the times of roots it changes only those of its own. -/
theorem scan_writes_only_changes {archive : Archive} {patience : Patience} {tally : Tally}
    (dependable : archive.Dependable indexer.store thread)
    (heeds : (archive.committed indexer.store).Heeds)
    (ended : (indexer.scan archive thread patience).outcome = .ok tally) :
    let files := archive.files
    let run := indexer.scan archive thread patience
    let before := archive.committed indexer.store
    let after := run.archive.committed indexer.store
    let events := run.notices.map (·.event)
    (∀ path ∈ indexer.found files, ∃ octets, files.read (Location.ofString path) = .ok octets ∧
      (before.hashOf path = .ok (some (digest octets)) →
        after.rowsAt path = before.rowsAt path ∧ events.count (.indexed path) = 0) ∧
      (before.hashOf path ≠ .ok (some (digest octets)) →
        (∃ row, Visit.Written ⟨path, octets⟩ archive.clock after row) ∧
          events.count (.indexed path) = 1)) ∧
    run.archive.clock =
      archive.clock.later (events.countP Event.isIndexed + indexer.roots.length) ∧
    (indexer.roots ≠ [] → archive.KeepsCommonApart → run.archive.Ready indexer.store thread) ∧
    ∀ (later : Archive) (other : Nat) (wait : Patience),
      later.committed indexer.store = after →
      (∀ root ∈ indexer.roots, later.files.walk indexer.extensions root =
        files.walk indexer.extensions root) →
      (∀ path ∈ indexer.found files, later.files.read (Location.ofString path) =
        files.read (Location.ofString path)) →
      let again := indexer.scan later other wait
      let last := again.archive.committed indexer.store
      (later.files.strays = files.strays → later.Ready indexer.store other → wait = none →
        ∃ counts, again.outcome = .ok counts) ∧
      (later.Dependable indexer.store other → ∀ counts, again.outcome = .ok counts →
        counts = ⟨0, 0, (indexer.found files).length, 0⟩ ∧ last.entries? = after.entries? ∧
        last.rootRows.map (·.path) = after.rootRows.map (·.path) ∧
        ∀ row : RootScan, row.path ∉ indexer.roots.map (·.toString) →
          (row ∈ last.rootRows ↔ row ∈ after.rootRows)) := by
  intro files run before after events
  by_cases watched : indexer.roots ≠ []
  swap
  · have unwatched : indexer.roots = [] := by simpa using watched
    have nothing : indexer.found files = [] := by simp [found, unwatched]
    have still := fun archive thread patience =>
      indexer.scan_of_unwatched unwatched archive thread patience
    refine ⟨by simp [nothing], ?_, fun roots => absurd unwatched roots, ?_⟩
    · simp [run, events, still, unwatched, Clock.later_zero]
    · intro later other wait stored _ _ again last
      have idle : again = ⟨.ok .zero, later, []⟩ := still later other wait
      have same : last = after := by
        dsimp only [last]
        rw [idle]
        exact stored
      refine ⟨fun _ _ _ => ⟨.zero, by rw [idle]⟩, fun _ counts endedAgain => ?_⟩
      rw [idle] at endedAgain
      cases endedAgain
      rw [same, nothing]
      exact ⟨rfl, rfl, rfl, fun _ _ => Iff.rfl⟩
  obtain ⟨visited, final, passes, reconciles, _, unbroken, same, told⟩ :=
    stages_of_scan dependable heeds watched ended
  have seen : visited.seen = indexer.found files := passes.seen
  have tables : after = final.archive.committed indexer.store := by
    dsimp only [after, run]
    rw [same]
  have counted : ∀ path, events.count (.indexed path) = visited.events.count (.indexed path) := by
    intro path
    dsimp only [events, run]
    rw [told, List.count_append, reconciles.count_indexed]
    simp
  have rowsAt : ∀ path ∈ indexer.found files,
      after.rowsAt path = (visited.archive.committed indexer.store).rowsAt path := by
    intro path member
    rw [tables, reconciles.rowsAt (seen ▸ member)]
  have settled : ∀ path ∈ indexer.found files, ∃ octets,
      files.read (Location.ofString path) = .ok octets ∧
      (before.hashOf path = .ok (some (digest octets)) →
        after.rowsAt path = before.rowsAt path ∧ events.count (.indexed path) = 0) ∧
      (before.hashOf path ≠ .ok (some (digest octets)) →
        (∃ row, Visit.Written ⟨path, octets⟩ archive.clock after row) ∧
          events.count (.indexed path) = 1) := by
    intro path member
    obtain ⟨_, octets, read⟩ := passes.read path member
    refine ⟨octets, read, ?_, ?_⟩
    · intro current
      obtain ⟨rows, count⟩ :=
        passes.kept_of_isCurrent read (isCurrent_iff_hashOf.mpr current)
      exact ⟨(rowsAt path member).trans rows, (counted path).trans count⟩
    · intro stale
      have stale : Visit.isCurrent ⟨path, octets⟩ before = false := by
        rw [Bool.eq_false_iff]
        exact fun current => stale (isCurrent_iff_hashOf.mp current)
      obtain ⟨⟨row, written⟩, count⟩ := passes.written ⟨path, octets⟩ member read stale
      exact ⟨⟨row, written.congr (rowsAt path member)⟩, (counted path).trans count⟩
  have current : ∀ path ∈ indexer.found files, ∀ octets,
      files.read (Location.ofString path) = .ok octets →
        Visit.isCurrent ⟨path, octets⟩ after = true := by
    intro path member octets read
    obtain ⟨found, again, kept, rewritten⟩ := settled path member
    rw [read] at again
    cases again
    by_cases before : before.hashOf path = .ok (some (digest octets))
    · have visit : Visit.isCurrent ⟨path, octets⟩ _ = true := isCurrent_iff_hashOf.mpr before
      exact (Visit.isCurrent_congr (kept before).1).trans visit
    · obtain ⟨row, written⟩ := (rewritten before).1
      exact written.isCurrent
  have all : ∀ row ∈ after.rows, row.path ∈ indexer.found files := by
    intro row member
    rw [tables, reconciles.rows, List.mem_filter, decide_eq_true_eq, seen] at member
    exact member.2
  refine ⟨settled, ?_, ?_, ?_⟩
  · obtain ⟨writes, clock, count⟩ := passes.clock
    have total : events.countP Event.isIndexed = writes := by
      dsimp only [events, run]
      rw [told, List.countP_append, reconciles.countP_isIndexed, count]
      simp [Progress.start, Event.isIndexed]
    dsimp only [run]
    rw [same, reconciles.clock, clock, Clock.later_later, total]
    rfl
  · intro _ apart
    dsimp only [run]
    rw [same]
    refine reconciles.ready watched fun file unknown => ?_
    rcases passes.bond with ⟨_, unchanged⟩ | linked
    · rw [unchanged]
      exact apart
    · obtain ⟨connection, found, _⟩ := linked.reader.resolve_left file
      rw [unknown] at found
      cases found
  · intro later other wait stored walks reads again last
    have foundAgain : indexer.found later.files = indexer.found files := by
      unfold found
      apply List.flatMap_congr
      intro root member
      rw [walks root member]
    have complete : after.isComplete = true := tables ▸ reconciles.complete watched
    refine ⟨?_, ?_⟩
    · rintro strays ready rfl
      have spells : ∀ path, files.Spells path → later.files.Spells path := by
        intro path spelled
        exact ⟨spelled.1, by rw [FileTree.encodingFault?, strays]; exact spelled.2⟩
      apply scan_of_ready ready
      · rw [stored]
        exact complete
      · intro root member
        rw [walks root member]
        exact unbroken root member
      · intro path member
        rw [foundAgain] at member
        obtain ⟨spelled, octets, read⟩ := passes.read path member
        exact ⟨spells path spelled, octets, (reads path member).trans read,
          stored ▸ current path member octets read⟩
      · rw [stored, foundAgain]
        exact all
      · exact fun root member => spells _ (reconciles.spelled root member)
    · intro usable counts endedAgain
      have heedsAfter : (later.committed indexer.store).Heeds := by
        rw [stored, tables]
        exact reconciles.heeds
      obtain ⟨revisited, refinal, repasses, rereconciles, tallied, _, sameAgain, _⟩ :=
        stages_of_scan usable heedsAfter watched endedAgain
      obtain ⟨unchanged, skipped⟩ := repasses.quiet fun path member octets read => by
        rw [foundAgain] at member
        rw [reads path member] at read
        exact stored ▸ current path member octets read
      have reseen : revisited.seen = indexer.found files := repasses.seen.trans foundAgain
      have tablesAgain : revisited.archive.committed indexer.store = after :=
        unchanged.trans stored
      obtain ⟨entries, tally⟩ := rereconciles.quiet fun row member => by
        rw [tablesAgain] at member
        rw [reseen]
        exact all row member
      have paths := rereconciles.paths fun root member => by
        rw [tablesAgain, tables]
        exact reconciles.recorded root member
      have others := rereconciles.others
      rw [tablesAgain] at entries paths others
      have lastTables : last = refinal.archive.committed indexer.store := by
        dsimp only [last, again]
        rw [sameAgain]
      rw [lastTables]
      refine ⟨?_, entries, paths, others⟩
      rw [← tallied, tally, skipped, foundAgain]
      simp [Progress.start, Tally.zero]

/-! The scan after the file of the first root was changed writes that file, and one more scan
passes over it. -/

def exampleRescanned : Archive := (exampleRescan.scan exampleChangedMoment.archive 1 none).archive

theorem exampleChangedMoment_keepsCommonApart :
    exampleChangedMoment.archive.KeepsCommonApart := by
  have addresses : exampleChangedMoment.archive.handles.map (·.address) =
      [.file (.ofString "/h/index.db") .create false] := by decide +kernel
  intro handle member name common
  have listed : handle.address ∈ exampleChangedMoment.archive.handles.map (·.address) :=
    List.mem_map_of_mem member
  rw [addresses, common] at listed
  cases List.mem_singleton.mp listed

theorem third_scan_passes_over_file :
    let archive := exampleChangedMoment.archive
    archive.Dependable 0 1 ∧ (archive.committed 0).Heeds ∧
    (exampleRescan.scan archive 1 none).outcome = .ok ⟨0, 1, 0, 0⟩ ∧
    ((exampleRescan.scan archive 1 none).notices.map (·.event)).count (.indexed "/a/x.txt") = 1 ∧
    (exampleRescan.scan exampleRescanned 1 none).outcome = .ok ⟨0, 0, 1, 0⟩ ∧
    ((exampleRescan.scan exampleRescanned 1 none).archive.committed 0).entries? =
      (exampleRescanned.committed 0).entries? := by
  have found : exampleRescan.found exampleChangedMoment.archive.files = ["/a/x.txt"] := by
    decide +kernel
  have read : exampleChangedMoment.archive.files.read (.ofString "/a/x.txt") =
      .ok [66, 121, 101] := by decide +kernel
  have stale : (exampleChangedMoment.archive.committed 0).hashOf "/a/x.txt" ≠
      .ok (some (digest [66, 121, 101])) := by decide +kernel
  have walks : ∀ root ∈ exampleRescan.roots, exampleRescanned.files.walk [".txt"] root =
      exampleChangedMoment.archive.files.walk [".txt"] root := by decide +kernel
  have reads : ∀ path ∈ exampleRescan.found exampleChangedMoment.archive.files,
      exampleRescanned.files.read (.ofString path) =
        exampleChangedMoment.archive.files.read (.ofString path) := by decide +kernel
  have strays : exampleRescanned.files.strays = exampleChangedMoment.archive.files.strays := by
    decide +kernel
  obtain ⟨settled, _, usable, again⟩ := exampleRescan.scan_writes_only_changes
    exampleChangedMoment_dependable exampleChangedMoment_heeds exampleRescan_ends
  obtain ⟨octets, same, _, written⟩ := settled "/a/x.txt" (by simp [found])
  rw [read] at same
  cases same
  have ready : exampleRescanned.Ready 0 1 :=
    usable (by simp [exampleRescan]) exampleChangedMoment_keepsCommonApart
  obtain ⟨returns, spares⟩ := again exampleRescanned 1 none rfl walks reads
  obtain ⟨counts, ended⟩ := returns strays ready rfl
  obtain ⟨counted, entries, _⟩ := spares (.inr ready.linked.readsOwnWrites) counts ended
  refine ⟨exampleChangedMoment_dependable, exampleChangedMoment_heeds, exampleRescan_ends,
    (written stale).2, ?_, entries⟩
  rw [ended, counted, found]
  rfl

end Indexer

end FolderIndex
