import FolderIndex.Proofs.Rewrites

namespace FolderIndex

/-! What a scan does to what is stored, one action after the other, told by the difference that each
of them makes; and that its log says just this, wherever the scan ends. -/

/-- An action that a scan begins, what is stored before and after it, and why it fails, if it
does. -/
structure Passage where
  action : ScanAction
  before : Tables
  after : Tables
  failure? : Option Failure

namespace Passage

/-- The paths of the rows that stand afterwards and did not before. -/
def written (passage : Passage) : List String :=
  (passage.after.rows.filter fun row => row ∉ passage.before.rows).map (·.path)

/-- The paths that had a row before and have none afterwards. -/
def removed (passage : Passage) : List String :=
  (passage.before.rows.map (·.path)).filter fun path => path ∉ passage.after.rows.map (·.path)

/-- The file of a visit that came to its end and wrote nothing. -/
def passedOver (passage : Passage) : List String :=
  if passage.failure?.isNone && passage.written.isEmpty then Progress.visitedBy passage.action
  else []

/-- What the log is to say of a passage. -/
def told (passage : Passage) : List Event :=
  passage.written.map .indexed ++ passage.passedOver.map .unchanged ++
    passage.removed.map .removed

/-- Whether passages follow each other without a gap, from some tables to others. -/
def Lead (before after : Tables) : List Passage → Prop
  | [] => after = before
  | passage :: rest => passage.before = before ∧ Lead passage.after after rest

theorem Lead.append {before between after : Tables} {passages more : List Passage}
    (first : Lead before between passages) (second : Lead between after more) :
    Lead before after (passages ++ more) := by
  induction passages generalizing before with
  | nil =>
      cases first
      exact second
  | cons passage rest ih => exact ⟨first.1, ih first.2⟩

theorem written_eq_nil {passage : Passage}
    (kept : ∀ row ∈ passage.after.rows, row ∈ passage.before.rows) : passage.written = [] := by
  rw [written, List.map_eq_nil_iff, List.filter_eq_nil_iff]
  intro row member
  simpa using kept row member

theorem mem_removed {passage : Passage} {path : String} :
    path ∈ passage.removed ↔ (∃ row ∈ passage.before.rows, row.path = path) ∧
      ¬ ∃ row ∈ passage.after.rows, row.path = path := by
  rw [removed, List.mem_filter, decide_eq_true_eq, List.mem_map, List.mem_map]

theorem removed_eq_nil {passage : Passage} (kept : ∀ row ∈ passage.before.rows,
    ∃ other ∈ passage.after.rows, other.path = row.path) : passage.removed = [] := by
  rw [List.eq_nil_iff_forall_not_mem]
  intro path member
  obtain ⟨⟨row, rowMember, rfl⟩, gone⟩ := mem_removed.mp member
  exact gone (kept row rowMember)

theorem told_of_same_rows {passage : Passage} (same : passage.after.rows = passage.before.rows) :
    passage.told =
      if passage.failure?.isNone then (Progress.visitedBy passage.action).map .unchanged
      else [] := by
  have written : passage.written = [] := written_eq_nil fun row member => same ▸ member
  have removed : passage.removed = [] :=
    removed_eq_nil fun row member => ⟨row, by rwa [same], rfl⟩
  rw [told, passedOver, written, removed]
  cases passage.failure? <;> simp

end Passage

/-- A row that is put in its place adds to the others if its path is new. -/
theorem EntryTable.length_putRow {row : Entry} {rows : List Entry} :
    (putRow row rows).length =
      if (rows.filter fun other => other.path = row.path) = [] then rows.length + 1
      else rows.length := by
  unfold putRow
  have known : rows.any (·.path = row.path) = true ↔
      ¬ (rows.filter fun other => other.path = row.path) = [] := by
    simp [List.filter_eq_nil_iff]
  by_cases new : (rows.filter fun other => decide (other.path = row.path)) = []
  · rw [if_pos new, if_neg fun present => known.mp present new, List.length_append]
    rfl
  · rw [if_neg new, if_pos (known.mpr new), List.length_map]

theorem eq_singleton_of_nodup {α : Type} {members : List α} {only : α} (distinct : members.Nodup)
    (same : ∀ member, member ∈ members ↔ member = only) : members = [only] := by
  refine List.perm_singleton.mp
    ((List.perm_ext_iff_of_nodup distinct (List.nodup_singleton _)).mpr ?_)
  simpa using same

/-- Tables as a scan relies on: a path is a key, and no trigger leaves an insertion undone in
silence. -/
structure Tables.Orderly (tables : Tables) : Prop where
  keyed : (tables.rows.map (·.path)).Nodup
  heeded : ∀ trigger ∈ (tables.entries?.map (·.triggers)).getD [],
    trigger.change = .insert → trigger.action ≠ .ignore

namespace Tables

variable {tables after : Tables} {action : ScanAction} {path : String}

theorem Heeds.orderly (heeds : tables.Heeds) (keyed : (tables.rows.map (·.path)).Nodup) :
    tables.Orderly :=
  ⟨keyed, fun trigger member _ => heeds trigger member⟩

theorem Orderly.insert (orderly : tables.Orderly) {draft : Draft} {replace : Bool}
    (inserted : tables.insert replace draft = .ok ((), after)) :
    after.Orderly ∧ ∃ row, Entry.ofDraft draft = .ok row ∧
      after.rows = EntryTable.putRow row tables.rows := by
  obtain ⟨table, entries, ⟨ignored, _⟩ | ⟨row, _, drafted, rfl⟩⟩ := insert_cases inserted
  · obtain ⟨trigger, found, action⟩ := Option.map_eq_some_iff.mp ignored
    have member : trigger ∈ (tables.entries?.map (·.triggers)).getD [] := by
      simpa [entries] using List.mem_of_find?_eq_some found
    have change : trigger.change = .insert := by
      have matched := List.find?_some found
      simp only [decide_eq_true_eq] at matched
      exact matched.1
    exact absurd action (orderly.heeded trigger member change)
  · have rows := rows_of_entries entries
    have keyed : (table.rows.map (·.path)).Nodup := rows ▸ orderly.keyed
    refine ⟨⟨EntryTable.nodup_paths_putRow keyed, ?_⟩, row, drafted, by rw [rows]; rfl⟩
    simpa [entries] using orderly.heeded

theorem Orderly.delete (orderly : tables.Orderly) {removed : Bool}
    (deleted : tables.delete path = .ok (removed, after)) : after.Orderly := by
  obtain ⟨table, entries, ⟨_, rfl, _⟩ | ⟨_, _, rfl⟩⟩ := delete_cases deleted
  · exact orderly
  · have keyed : (table.rows.map (·.path)).Nodup := rows_of_entries entries ▸ orderly.keyed
    refine ⟨keyed.sublist (List.filter_sublist.map _), ?_⟩
    simpa [entries] using orderly.heeded

theorem Orderly.of_same_entries (orderly : tables.Orderly)
    (same : after.entries? = tables.entries?) : after.Orderly := by
  refine ⟨?_, ?_⟩
  · rw [rows, same]
    exact orderly.keyed
  · rw [same]
    exact orderly.heeded

theorem Orderly.fresh (orderly : tables.Orderly) {visit : Visit}
    (stale : visit.isCurrent tables = false) {row : Entry} (shows : row.Shows visit) :
    row ∉ tables.rows := by
  -- The row would be the only one of its path, and its hash that of the file.
  intro member
  rw [Bool.eq_false_iff] at stale
  refine stale (Visit.isCurrent_iff.mpr ?_)
  cases rows : tables.rowsAt visit.path with
  | nil =>
      have stored : row ∈ tables.rowsAt visit.path := mem_rowsAt.mpr ⟨member, shows.path⟩
      simp [rows] at stored
  | cons first rest =>
      obtain ⟨firstMember, path⟩ := mem_rowsAt.mp (rows ▸ List.mem_cons_self :
        first ∈ tables.rowsAt visit.path)
      have same : first = row :=
        List.inj_on_of_nodup_map orderly.keyed firstMember member (path.trans shows.path.symm)
      rw [List.head?_cons, Option.map_some, same, shows.hash]

theorem Orderly.told_of_put (orderly : tables.Orderly) {row : Entry} (fresh : row ∉ tables.rows)
    (put : after.rows = EntryTable.putRow row tables.rows) :
    Passage.told ⟨action, tables, after, none⟩ = [.indexed row.path] := by
  have keyed : (after.rows.map (·.path)).Nodup :=
    put ▸ EntryTable.nodup_paths_putRow orderly.keyed
  have members : ∀ other, other ∈ (after.rows.filter fun row => decide (row ∉ tables.rows)) ↔
      other = row := by
    intro other
    rw [List.mem_filter, put, EntryTable.mem_putRow, decide_eq_true_eq]
    constructor
    · rintro ⟨same | ⟨old, _⟩, new⟩
      · exact same
      · exact absurd old new
    · rintro rfl
      exact ⟨.inl rfl, fresh⟩
  have written : Passage.written ⟨action, tables, after, none⟩ = [row.path] := by
    have only := eq_singleton_of_nodup ((List.Nodup.of_map _ keyed).filter _) members
    rw [Passage.written, only, List.map_singleton]
  have removed : Passage.removed ⟨action, tables, after, none⟩ = [] := by
    apply Passage.removed_eq_nil
    intro old member
    dsimp only
    rw [put]
    by_cases same : old.path = row.path
    · exact ⟨row, EntryTable.mem_putRow.mpr (.inl rfl), same.symm⟩
    · exact ⟨old, EntryTable.mem_putRow.mpr (.inr ⟨member, same⟩), rfl⟩
  simp [Passage.told, Passage.passedOver, written, removed]

theorem rows_of_delete (deleted : tables.delete path = .ok (true, after)) :
    (∃ row ∈ tables.rows, row.path = path) ∧
      after.rows = tables.rows.filter fun row => row.path ≠ path := by
  obtain ⟨table, entries, ⟨no, _⟩ | ⟨_, present, rfl⟩⟩ := delete_cases deleted
  · cases no
  · obtain ⟨row, found⟩ := Option.isSome_iff_exists.mp present
    rw [rows_of_entries entries]
    exact ⟨⟨row, EntryTable.of_find?_eq_some found⟩, rfl⟩

theorem Orderly.length_of_delete (orderly : tables.Orderly)
    (deleted : tables.delete path = .ok (true, after)) :
    after.rows.length + 1 = tables.rows.length := by
  obtain ⟨⟨row, member, rfl⟩, rows⟩ := rows_of_delete deleted
  have alone : (tables.rows.filter fun other => other.path = row.path) = [row] := by
    refine eq_singleton_of_nodup ((List.Nodup.of_map _ orderly.keyed).filter _) fun other => ?_
    rw [List.mem_filter, decide_eq_true_eq]
    constructor
    · rintro ⟨stored, same⟩
      exact List.inj_on_of_nodup_map orderly.keyed stored member same
    · rintro rfl
      exact ⟨member, rfl⟩
  have parts := tables.rows.length_eq_length_filter_add fun other => other.path ≠ row.path
  have own : (tables.rows.filter fun other => !decide (other.path ≠ row.path)).length = 1 := by
    simpa using congrArg List.length alone
  rw [rows, parts, own]

theorem Orderly.told_of_delete (orderly : tables.Orderly)
    (deleted : tables.delete path = .ok (true, after)) :
    Passage.told ⟨.remove path, tables, after, none⟩ = [.removed path] := by
  obtain ⟨⟨row, member, stored⟩, rows⟩ := rows_of_delete deleted
  have left : ∀ other, other ∈ after.rows ↔ other ∈ tables.rows ∧ other.path ≠ path := by
    intro other
    rw [rows, List.mem_filter, decide_eq_true_eq]
  have written : Passage.written ⟨.remove path, tables, after, none⟩ = [] :=
    Passage.written_eq_nil fun other standing => ((left other).mp standing).1
  have removed : Passage.removed ⟨.remove path, tables, after, none⟩ = [path] := by
    refine eq_singleton_of_nodup (orderly.keyed.filter _) fun other => ?_
    refine Passage.mem_removed.trans ⟨?_, ?_⟩
    · rintro ⟨⟨old, oldMember, rfl⟩, gone⟩
      by_contra apart
      exact gone ⟨old, (left old).mpr ⟨oldMember, apart⟩, rfl⟩
    · rintro rfl
      refine ⟨⟨row, member, stored⟩, ?_⟩
      rintro ⟨kept, keptMember, keptPath⟩
      exact ((left kept).mp keptMember).2 keptPath
  simp [Passage.told, Passage.passedOver, Progress.visitedBy, written, removed]

end Tables

namespace Progress

variable {files : FileTree} {store thread : Nat} {before after : Progress}
  {bond next : Archive → Prop} {actions : List ScanAction} {passed more : List Passage}
  {outcome : Progress × Option Failure}

/-- The passages of some actions, up to the first that fails. -/
def passages (progress : Progress) (files : FileTree) (store thread : Nat) :
    List ScanAction → List Passage
  | [] => []
  | action :: rest =>
      let (after, failure?) := progress.act files store thread action
      ⟨action, progress.archive.committed store, after.archive.committed store, failure?⟩ ::
        match failure? with
        | none => after.passages files store thread rest
        | some _ => []

/-- The rows that are stored, less those that were inserted and with those that were removed. -/
def balance (store : Nat) (progress : Progress) : Int :=
  (progress.archive.committed store).rows.length - progress.tally.inserted + progress.tally.removed

/-- A part of a scan whose log says what its passages do to what is stored, and whose counts of
rows that come and go make up for the change in their number. -/
structure Recounts (bond : Archive → Prop) (store : Nat) (before : Progress)
    (passed : List Passage) (outcome : Progress × Option Failure) : Prop where
  events : outcome.1.events = before.events ++ passed.flatMap Passage.told
  lead : Passage.Lead (before.archive.committed store) (outcome.1.archive.committed store) passed
  orderly : (outcome.1.archive.committed store).Orderly
  balanced : outcome.1.balance store = before.balance store
  bond : outcome.2 = none → bond outcome.1.archive

theorem Recounts.nil (orderly : (before.archive.committed store).Orderly)
    (held : bond before.archive) : Recounts bond store before [] (before, none) :=
  ⟨by simp, rfl, orderly, rfl, fun _ => held⟩

theorem Recounts.andThen {goOn : Progress → Progress × Option Failure}
    (first : Recounts bond store before passed outcome)
    (second : outcome.2 = none → (outcome.1.archive.committed store).Orderly →
      bond outcome.1.archive → Recounts next store outcome.1 more (goOn outcome.1))
    (unfinished : outcome.2 ≠ none → more = []) :
    Recounts next store before (passed ++ more) (Progress.andThen outcome goOn) := by
  obtain ⟨between, failure?⟩ := outcome
  cases failure? with
  | none =>
      have rest := second rfl first.orderly (first.bond rfl)
      refine ⟨?_, first.lead.append rest.lead, rest.orderly, rest.balanced.trans first.balanced,
        rest.bond⟩
      rw [List.flatMap_append, ← List.append_assoc, ← first.events]
      exact rest.events
  | some failure =>
      have none : more = [] := unfinished (by simp)
      subst none
      rw [List.append_nil]
      exact ⟨first.events, first.lead, first.orderly, first.balanced, by simp [Progress.andThen]⟩

/-- Actions whose log is right one by one have a right log together. -/
theorem recounts_of_each
    (each : ∀ action ∈ actions, ∀ {before : Progress},
      (before.archive.committed store).Orderly → bond before.archive →
        Recounts bond store before (before.passages files store thread [action])
          (before.act files store thread action))
    (orderly : (before.archive.committed store).Orderly) (held : bond before.archive) :
    Recounts bond store before (before.passages files store thread actions)
      (before.run files store thread actions) := by
  -- Each action leaves orderly tables and the bond that the next one needs.
  induction actions generalizing before with
  | nil => exact .nil orderly held
  | cons action rest ih =>
      have first := each action List.mem_cons_self orderly held
      rw [run_cons]
      have parted : before.passages files store thread (action :: rest) =
          before.passages files store thread [action] ++
            match (before.act files store thread action).2 with
            | none => (before.act files store thread action).1.passages files store thread rest
            | some _ => [] := by
        simp only [passages]
        cases before.act files store thread action with
        | mk after failure? => cases failure? <;> rfl
      rw [parted]
      refine first.andThen (fun ended orderlyAfter heldAfter => ?_) fun failed => ?_
      · rw [ended]
        exact ih (fun other member => each other (List.mem_cons_of_mem _ member)) orderlyAfter
          heldAfter
      · cases failure : (before.act files store thread action).2 with
        | none => exact absurd failure failed
        | some cause => rfl

variable {action : ScanAction} {failure? : Option Failure}

theorem Recounts.of_act (acted : before.act files store thread action = (after, failure?))
    (events : after.events = before.events ++ Passage.told
      ⟨action, before.archive.committed store, after.archive.committed store, failure?⟩)
    (orderly : (after.archive.committed store).Orderly)
    (balanced : after.balance store = before.balance store)
    (held : failure? = none → bond after.archive) :
    Recounts bond store before (before.passages files store thread [action])
      (before.act files store thread action) := by
  have single : before.passages files store thread [action] =
      [⟨action, before.archive.committed store, after.archive.committed store, failure?⟩] := by
    simp only [passages, acted]
    cases failure? <;> rfl
  rw [single, acted]
  exact ⟨by simpa using events, ⟨rfl, rfl⟩, orderly, balanced, held⟩

theorem Recounts.of_failure {failure : Failure}
    (orderly : (before.archive.committed store).Orderly)
    (acted : before.act files store thread action = (after, some failure))
    (tables : after.archive.committed store = before.archive.committed store)
    (events : after.events = before.events) (tally : after.tally = before.tally) :
    Recounts bond store before (before.passages files store thread [action])
      (before.act files store thread action) := by
  refine .of_act acted ?_ (tables ▸ orderly) (by rw [balance, tables, tally, balance]) (by simp)
  have silent : Passage.told ⟨action, before.archive.committed store,
      after.archive.committed store, some failure⟩ = [] :=
    Passage.told_of_same_rows (by rw [tables])
  rw [silent, events, List.append_nil]

theorem Recounts.of_silence (acted : before.act files store thread action = (after, none))
    (unvisited : visitedBy action = [])
    (rows : (after.archive.committed store).rows = (before.archive.committed store).rows)
    (orderly : (after.archive.committed store).Orderly) (events : after.events = before.events)
    (tally : after.tally = before.tally) (held : bond after.archive) :
    Recounts bond store before (before.passages files store thread [action])
      (before.act files store thread action) := by
  refine .of_act acted ?_ orderly (by rw [balance, rows, tally, balance]) fun _ => held
  have silent : Passage.told ⟨action, before.archive.committed store,
      after.archive.committed store, none⟩ = [] := by
    rw [Passage.told_of_same_rows rows]
    simp [unvisited]
  rw [silent, events, List.append_nil]

theorem indexOctets_of_error (dependable : before.archive.Dependable store thread) {path : String}
    {octets : List UInt8} {failure : Failure}
    (ended : before.indexOctets files store thread path octets = (after, some failure)) :
    after.archive.committed store = before.archive.committed store ∧
      after.events = before.events ∧ after.tally = before.tally := by
  have looked := Archive.lookUp_performs dependable files path
  unfold indexOctets at ended
  dsimp only at ended
  cases found : before.archive.lookUp files store thread path with
  | mk result archive =>
      rw [found] at looked ended
      cases looked with
      | failed own kept =>
          cases ended
          exact ⟨kept, rfl, rfl⟩
      | @done previous _ answered linked _ =>
          obtain ⟨_, sameTables⟩ := Archive.asking_eq_ok.mp answered
          dsimp only at ended
          split at ended
          · cases ended
          · have written := Archive.upsert_performs linked path (Text.decodeUtf8 octets)
              (digest octets) (Text.tokenize (Text.decodeUtf8 octets))
            cases outcome : archive.upsert store path (some (Text.decodeUtf8 octets))
                (Text.tokenize (Text.decodeUtf8 octets)) (some (digest octets)) with
            | mk result final =>
                rw [outcome] at written ended
                cases written with
                | failed own kept =>
                    cases ended
                    exact ⟨kept.trans sameTables, rfl, rfl⟩
                | done changed linkedAfter timed => cases ended

theorem recounts_visit (orderly : (before.archive.committed store).Orderly)
    (dependable : before.archive.Dependable store thread) (path : String) :
    Recounts (·.Dependable store thread) store before
      (before.passages files store thread [.visit path])
      (before.act files store thread (.visit path)) := by
  cases visited : before.visit files store thread path with
  | mk after failure? =>
      cases failure? with
      | some failure =>
          have same : after.archive.committed store = before.archive.committed store ∧
              after.events = before.events ∧ after.tally = before.tally := by
            unfold visit at visited
            dsimp only at visited
            cases read : files.read (Location.ofString path) with
            | error cause =>
                rw [read] at visited
                cases visited
                exact ⟨rfl, rfl, rfl⟩
            | ok octets =>
                rw [read] at visited
                let entered : Progress := { before with seen := before.seen ++ [path] }
                have indexed : entered.indexOctets files store thread path octets =
                    (after, some failure) := visited
                have kept := indexOctets_of_error (by exact dependable) indexed
                exact kept
          exact .of_failure orderly visited same.1 same.2.1 same.2.2
      | none =>
          obtain ⟨octets, _, _, _, linked, settles⟩ := visit_of_ok dependable visited
          have bond : after.archive.Dependable store thread := .inr linked.readsOwnWrites
          cases settles with
          | skipped _ tables _ events tally =>
              refine .of_act visited ?_ (tables ▸ orderly) ?_ fun _ => bond
              have told : Passage.told ⟨.visit path, before.archive.committed store,
                  after.archive.committed store, none⟩ = [.unchanged path] :=
                Passage.told_of_same_rows (by rw [tables])
              · rw [events, told]
              · rw [balance, tables, tally, balance]
                rfl
          | written stale inserted _ events tally =>
              obtain ⟨orderlyAfter, row, drafted, put⟩ := orderly.insert inserted
              have shown : row.Shows ⟨path, octets⟩ := by
                cases drafted
                exact ⟨rfl, rfl, rfl, rfl⟩
              refine .of_act visited ?_ orderlyAfter ?_ fun _ => bond
              · rw [orderly.told_of_put (orderly.fresh stale shown) put, shown.path, events]
              · rw [balance, put, EntryTable.length_putRow, tally, balance, shown.path,
                  Tables.rowsAt]
                split
                · simp only [Tally.count]
                  omega
                · rfl

theorem recounts_poll (orderly : (before.archive.committed store).Orderly)
    (held : bond before.archive) :
    Recounts bond store before (before.passages files store thread [.poll])
      (before.act files store thread .poll) := by
  cases polled : before.poll with
  | mk after failure? =>
      have same : after.archive = before.archive ∧ after.events = before.events ∧
          after.tally = before.tally := by
        unfold poll at polled
        split at polled <;> cases polled <;> exact ⟨rfl, rfl, rfl⟩
      have tables : after.archive.committed store = before.archive.committed store := by
        rw [same.1]
      cases failure? with
      | some failure => exact .of_failure orderly polled tables same.2.1 same.2.2
      | none =>
          exact .of_silence polled rfl (by rw [tables]) (tables ▸ orderly) same.2.1 same.2.2
            (same.1 ▸ held)

theorem recounts_remove (orderly : (before.archive.committed store).Orderly)
    (linked : before.archive.Linked store thread) (path : String) :
    Recounts (·.Linked store thread) store before
      (before.passages files store thread [.remove path])
      (before.act files store thread (.remove path)) := by
  have performs := Archive.delete_performs linked path
  have acted : before.act files store thread (.remove path) = before.remove store path := rfl
  unfold remove at acted
  cases outcome : before.archive.delete store path with
  | mk result archive =>
      rw [outcome] at performs acted
      cases performs with
      | failed own kept => exact .of_failure orderly acted kept rfl rfl
      | @done removed _ changed linkedAfter _ =>
          have orderlyAfter := orderly.delete changed
          cases removed with
          | true =>
              refine .of_act acted ?_ orderlyAfter ?_ fun _ => linkedAfter
              · exact congrArg _ (orderly.told_of_delete changed).symm
              · have fewer := orderly.length_of_delete changed
                simp only [balance, log]
                omega
          | false =>
              -- No row was there, or a trigger kept it: either way nothing is told.
              obtain ⟨_, _, ⟨_, same, _⟩ | ⟨no, _⟩⟩ := Tables.delete_cases changed
              · exact .of_silence acted rfl (by rw [same]) orderlyAfter rfl rfl linkedAfter
              · cases no

theorem recounts_recordRoot (orderly : (before.archive.committed store).Orderly)
    (linked : before.archive.Linked store thread) (root : String) :
    Recounts (·.Linked store thread) store before
      (before.passages files store thread [.recordRoot root])
      (before.act files store thread (.recordRoot root)) := by
  have performs := Archive.markRoot_performs linked files root
  have acted : before.act files store thread (.recordRoot root) =
      before.recordRoot files store root := rfl
  unfold recordRoot at acted
  cases outcome : before.archive.markRoot files store root with
  | mk result archive =>
      rw [outcome] at performs acted
      cases performs with
      | failed own kept => exact .of_failure orderly acted kept rfl rfl
      | @done value _ changed linkedAfter _ =>
          obtain ⟨_, _, same⟩ := Tables.recordRoot_cases changed
          have entries : (archive.committed store).entries? =
              (before.archive.committed store).entries? := by rw [same]
          refine .of_silence acted rfl ?_ (orderly.of_same_entries entries) rfl rfl linkedAfter
          simp only [Tables.rows]
          rw [entries]

end Progress

end FolderIndex
