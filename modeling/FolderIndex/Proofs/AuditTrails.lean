import FolderIndex.Proofs.Passages
import FolderIndex.Proofs.Rescans
import FolderIndex.Proofs.Sorting
import FolderIndex.Proofs.SuccessfulScans

namespace FolderIndex

/-! The log of a scan is an audit trail: it tells of every row that is written or removed, and of
every file that is passed over, wherever the scan ends. -/

theorem Tables.Orderly.paths_sorted {tables : Tables} (orderly : tables.Orderly)
    {stored : List String} (listed : tables.paths = .ok stored) : stored.Pairwise (· < ·) := by
  unfold Tables.paths at listed
  cases entries : tables.entries with
  | error fault => simp [entries, bind, Except.bind] at listed
  | ok table =>
      simp only [entries, bind, Except.bind, pure, Except.pure, Except.ok.injEq] at listed
      subst listed
      have keyed : ((table.rows.map (·.path)).map id).Nodup := by
        rw [List.map_id, ← Tables.rows_of_entries (Tables.entries_eq_ok.mp entries)]
        exact orderly.keyed
      exact pairwise_mergeSort_key keyed

namespace Event

@[simp] def indexedPath? : Event → Option String
  | indexed path => some path
  | _ => none

@[simp] def unchangedPath? : Event → Option String
  | unchanged path => some path
  | _ => none

@[simp] def removedPath? : Event → Option String
  | removed path => some path
  | _ => none

/-- The file of a visit that an event tells of. -/
def visitedPath? (event : Event) : Option String :=
  event.indexedPath?.or event.unchangedPath?

@[simp] theorem visitedPath?_indexed (path : String) :
    (indexed path).visitedPath? = some path := rfl

@[simp] theorem visitedPath?_unchanged (path : String) :
    (unchanged path).visitedPath? = some path := rfl

@[simp] theorem visitedPath?_removed (path : String) : (removed path).visitedPath? = none := rfl

@[simp] theorem visitedPath?_scanComplete (tally : Tally) :
    (scanComplete tally).visitedPath? = none := rfl

end Event

namespace Progress

variable {before after : Progress} {actions : List ScanAction} {action : ScanAction}

/-- The path that an action is to remove. -/
def removedBy : ScanAction → List String
  | .remove path => [path]
  | _ => []

/-- What actions write to the log, and what they count: one event for each visit that comes to its
end, and one for each removal at most. -/
structure Logs (actions : List ScanAction) (before : Progress) (told : List Event)
    (outcome : Progress × Option Failure) : Prop where
  events : outcome.1.events = before.events ++ told
  visited : told.filterMap Event.visitedPath? <+: actions.flatMap visitedBy
  complete : outcome.2 = none → told.filterMap Event.visitedPath? = actions.flatMap visitedBy
  removed : (told.filterMap Event.removedPath?).Sublist (actions.flatMap removedBy)
  known : ∀ event ∈ told, event.visitedPath?.isSome ∨ event.removedPath?.isSome
  writes : outcome.1.tally.inserted + outcome.1.tally.updated =
    before.tally.inserted + before.tally.updated + (told.filterMap Event.indexedPath?).length
  skips : outcome.1.tally.skipped =
    before.tally.skipped + (told.filterMap Event.unchangedPath?).length
  removals : outcome.1.tally.removed =
    before.tally.removed + (told.filterMap Event.removedPath?).length

theorem Logs.silent {outcome : Progress × Option Failure}
    (events : outcome.1.events = before.events) (tally : outcome.1.tally = before.tally)
    (unfinished : outcome.2 = none → visitedBy action = []) :
    Logs [action] before [] outcome where
  events := by rw [events, List.append_nil]
  visited := List.nil_prefix
  complete ended := by simp [unfinished ended]
  removed := List.nil_sublist _
  known := by simp
  writes := by simp [tally]
  skips := by simp [tally]
  removals := by simp [tally]

theorem logs_indexOctets (store thread : Nat) (before : Progress) (path : String)
    (octets : List UInt8) :
    ∃ told, Logs [.visit path] before told (before.indexOctets files store thread path octets) := by
  unfold indexOctets
  dsimp only
  cases before.archive.lookUp files store thread path with
  | mk result archive =>
      cases result with
      | error failure => exact ⟨[], .silent rfl rfl (by simp)⟩
      | ok previous =>
          dsimp only
          split
          · refine ⟨[.unchanged path], rfl, ?_, ?_, ?_, ?_, ?_, ?_, ?_⟩ <;>
              simp [visitedBy, Tally.count, List.filterMap_cons]
          · split
            · exact ⟨[], .silent rfl rfl (by simp)⟩
            · refine ⟨[.indexed path], rfl, ?_, ?_, ?_, ?_, ?_, ?_, ?_⟩
              all_goals cases previous <;>
                simp [visitedBy, Tally.count, List.filterMap_cons] <;> omega

theorem logs_act (files : FileTree) (store thread : Nat) (before : Progress)
    (action : ScanAction) :
    ∃ told, Logs [action] before told (before.act files store thread action) := by
  cases action with
  | poll =>
      refine ⟨[], ?_⟩
      simp only [act, poll]
      split <;> exact .silent rfl rfl fun _ => rfl
  | visit path =>
      simp only [act, visit]
      cases files.read (Location.ofString path) with
      | error failure => exact ⟨[], .silent rfl rfl (by simp)⟩
      | ok octets =>
          let entered : Progress := { before with seen := before.seen ++ [path] }
          obtain ⟨told, logs⟩ := logs_indexOctets store thread entered path octets
          exact ⟨told, logs.events, logs.visited, logs.complete, logs.removed, logs.known,
            logs.writes, logs.skips, logs.removals⟩
  | fail failure => exact ⟨[], .silent rfl rfl fun _ => rfl⟩
  | remove path =>
      simp only [act, remove]
      cases before.archive.delete store path with
      | mk result archive =>
          cases result with
          | error failure => exact ⟨[], .silent rfl rfl fun _ => rfl⟩
          | ok removed =>
              cases removed with
              | false => exact ⟨[], .silent rfl rfl fun _ => rfl⟩
              | true =>
                  refine ⟨[.removed path], rfl, ?_, ?_, ?_, ?_, ?_, ?_, ?_⟩ <;>
                    simp [visitedBy, removedBy, List.filterMap_cons]
  | recordRoot root =>
      simp only [act, recordRoot]
      cases before.archive.markRoot files store root with
      | mk result archive => cases result <;> exact ⟨[], .silent rfl rfl fun _ => rfl⟩

theorem Logs.trans {between : Progress} {left right : List ScanAction} {told more : List Event}
    {outcome : Progress × Option Failure} (first : Logs left before told (between, none))
    (second : Logs right between more outcome) :
    Logs (left ++ right) before (told ++ more) outcome := by
  have whole := first.complete rfl
  refine ⟨?_, ?_, ?_, ?_, ?_, ?_, ?_, ?_⟩
  · rw [second.events, first.events, List.append_assoc]
  · rw [List.filterMap_append, List.flatMap_append, whole]
    exact (List.prefix_append_right_inj _).mpr second.visited
  · intro ended
    rw [List.filterMap_append, List.flatMap_append, whole, second.complete ended]
  · rw [List.filterMap_append, List.flatMap_append]
    exact first.removed.append second.removed
  · intro event member
    exact (List.mem_append.mp member).elim (first.known event) (second.known event)
  · rw [second.writes, first.writes, List.filterMap_append, List.length_append]
    omega
  · rw [second.skips, first.skips, List.filterMap_append, List.length_append]
    omega
  · rw [second.removals, first.removals, List.filterMap_append, List.length_append]
    omega

theorem Logs.cut_off {left right : List ScanAction} {told : List Event} {failure : Failure}
    (logs : Logs left before told (after, some failure)) :
    Logs (left ++ right) before told (after, some failure) where
  events := logs.events
  visited := by
    rw [List.flatMap_append]
    exact logs.visited.trans (List.prefix_append _ _)
  complete ended := by cases ended
  removed := by
    rw [List.flatMap_append]
    exact logs.removed.trans (List.sublist_append_left _ _)
  known := logs.known
  writes := logs.writes
  skips := logs.skips
  removals := logs.removals

theorem logs_nil (before : Progress) : Logs [] before [] (before, none) where
  events := (List.append_nil _).symm
  visited := List.nil_prefix
  complete _ := rfl
  removed := List.nil_sublist _
  known := by simp
  writes := by simp
  skips := by simp
  removals := by simp

theorem logs_run (files : FileTree) (store thread : Nat) (before : Progress)
    (actions : List ScanAction) :
    ∃ told, Logs actions before told (before.run files store thread actions) := by
  induction actions generalizing before with
  | nil => exact ⟨[], logs_nil before⟩
  | cons action rest ih =>
      obtain ⟨told, first⟩ := logs_act files store thread before action
      rw [run_cons]
      cases acted : before.act files store thread action with
      | mk after failure? =>
          rw [acted] at first
          -- An action that fails ends the log, so the others stand for nothing.
          cases failure? with
          | some failure => exact ⟨told, first.cut_off⟩
          | none =>
              obtain ⟨more, onward⟩ := ih after
              exact ⟨told ++ more, first.trans onward⟩

end Progress

namespace Event

/-- Events of visits are those of the files that are indexed and, at a lower level, of those that
are passed over. -/
theorem filter_level_of_visits {events : List Event}
    (visits : ∀ event ∈ events, event.visitedPath?.isSome) :
    events.filter (·.level = .info) = (events.filterMap indexedPath?).map .indexed ∧
      events.filter (·.level = .debug) = (events.filterMap unchangedPath?).map .unchanged := by
  induction events with
  | nil => exact ⟨rfl, rfl⟩
  | cons event rest ih =>
      obtain ⟨info, debug⟩ := ih fun other member => visits other (List.mem_cons_of_mem _ member)
      have known := visits event List.mem_cons_self
      cases event with
      | indexed path => exact ⟨congrArg (Event.indexed path :: ·) info, debug⟩
      | unchanged path => exact ⟨info, congrArg (Event.unchanged path :: ·) debug⟩
      | _ => contradiction

theorem filter_level_of_removals {events : List Event}
    (removals : ∀ event ∈ events, event.removedPath?.isSome) :
    events.filter (·.level = .info) = (events.filterMap removedPath?).map .removed ∧
      events.filter (·.level = .debug) = [] := by
  induction events with
  | nil => exact ⟨rfl, rfl⟩
  | cons event rest ih =>
      obtain ⟨info, debug⟩ := ih fun other member => removals other (List.mem_cons_of_mem _ member)
      have known := removals event List.mem_cons_self
      cases event with
      | removed path => exact ⟨congrArg (Event.removed path :: ·) info, debug⟩
      | _ => contradiction

theorem no_removal_of_visits {events : List Event}
    (visits : ∀ event ∈ events, event.visitedPath?.isSome) :
    events.filterMap removedPath? = [] := by
  rw [List.filterMap_eq_nil_iff]
  intro event member
  have known := visits event member
  cases event <;> first | rfl | contradiction

theorem no_visit_of_removals {events : List Event}
    (removals : ∀ event ∈ events, event.removedPath?.isSome) :
    events.filterMap indexedPath? = [] ∧ events.filterMap unchangedPath? = [] ∧
      events.filterMap visitedPath? = [] := by
  simp only [List.filterMap_eq_nil_iff, ← forall₂_and]
  intro event member
  have known := removals event member
  cases event <;> first | exact ⟨rfl, rfl, rfl⟩ | contradiction

end Event

theorem Passage.filterMap_told (passage : Passage) :
    passage.told.filterMap Event.indexedPath? = passage.written ∧
      passage.told.filterMap Event.unchangedPath? = passage.passedOver ∧
      passage.told.filterMap Event.removedPath? = passage.removed := by
  simp [told, List.filterMap_map, Function.comp_def]

namespace Indexer

variable {indexer : Indexer} {files : FileTree} {thread : Nat} {progress : Progress}
  {archive : Archive} {patience : Patience}

/-- The passages of a scan that has visited all files. -/
def closingPassages (indexer : Indexer) (files : FileTree) (thread : Nat) (progress : Progress) :
    List Passage :=
  match progress.archive.listPaths indexer.store thread with
  | (.error _, _) => []
  | (.ok stored, archive) =>
      { progress with archive := archive }.passages files indexer.store thread
        (indexer.closingActions stored progress.seen)

def passPassages (indexer : Indexer) (files : FileTree) (thread : Nat) (progress : Progress) :
    List Passage :=
  let visits := indexer.visitActions files
  progress.passages files indexer.store thread visits ++
    match progress.run files indexer.store thread visits with
    | (visited, none) => indexer.closingPassages files thread visited
    | _ => []

/-- The passages of a scan: all actions that it begins, in their order. -/
def passages (indexer : Indexer) (archive : Archive) (thread : Nat) (patience : Patience) :
    List Passage :=
  if indexer.roots.isEmpty then []
  else indexer.passPassages archive.files thread (.start archive patience)

theorem recounts_visits (files : FileTree)
    (orderly : (progress.archive.committed indexer.store).Orderly)
    (dependable : progress.archive.Dependable indexer.store thread) :
    Progress.Recounts (·.Dependable indexer.store thread) indexer.store progress
      (progress.passages files indexer.store thread (indexer.visitActions files))
      (progress.run files indexer.store thread (indexer.visitActions files)) := by
  refine Progress.recounts_of_each ?_ orderly dependable
  intro action member before orderly dependable
  rw [visitActions_eq] at member
  rcases List.mem_append.mp member with fetched | last
  · obtain ⟨next, _, action⟩ := List.mem_flatMap.mp fetched
    cases next with
    | error failure =>
        cases List.mem_singleton.mp action
        exact .of_failure orderly rfl rfl rfl rfl
    | ok path =>
        rcases List.mem_cons.mp action with rfl | visit
        · exact Progress.recounts_poll orderly dependable
        · cases List.mem_singleton.mp visit
          exact Progress.recounts_visit orderly dependable path
  · cases List.mem_singleton.mp last
    exact Progress.recounts_poll orderly dependable

theorem recounts_closing (indexer : Indexer) (files : FileTree) (progress : Progress)
    (stored seen : List String) (orderly : (progress.archive.committed indexer.store).Orderly)
    (linked : progress.archive.Linked indexer.store thread) :
    Progress.Recounts (·.Linked indexer.store thread) indexer.store progress
      (progress.passages files indexer.store thread (indexer.closingActions stored seen))
      (progress.run files indexer.store thread (indexer.closingActions stored seen)) := by
  refine Progress.recounts_of_each ?_ orderly linked
  intro action member before orderly linked
  rcases List.mem_append.mp member with removal | record
  · obtain ⟨path, _, rfl⟩ := List.mem_map.mp removal
    exact Progress.recounts_remove orderly linked path
  · obtain ⟨root, _, rfl⟩ := List.mem_map.mp record
    exact Progress.recounts_recordRoot orderly linked root.toString

theorem recounts_reconcile (orderly : (progress.archive.committed indexer.store).Orderly)
    (dependable : progress.archive.Dependable indexer.store thread) :
    Progress.Recounts (·.Linked indexer.store thread) indexer.store progress
      (indexer.closingPassages files thread progress)
      (indexer.reconcile files thread progress) := by
  have performs := Archive.listPaths_performs dependable
  unfold reconcile closingPassages
  cases listing : progress.archive.listPaths indexer.store thread with
  | mk result archive =>
      rw [listing] at performs
      cases performs with
      | failed own kept =>
          have balanced : Progress.balance indexer.store { progress with archive := archive } =
              progress.balance indexer.store := by
            rw [Progress.balance, kept, Progress.balance]
          exact ⟨by simp, kept, kept ▸ orderly, balanced, by simp⟩
      | @done stored _ answered linked _ =>
          obtain ⟨_, same⟩ := Archive.asking_eq_ok.mp answered
          let listed : Progress := { progress with archive := archive }
          have closing := indexer.recounts_closing files listed stored progress.seen
            (same ▸ orderly) linked
          have balanced : listed.balance indexer.store = progress.balance indexer.store := by
            rw [Progress.balance, same, Progress.balance]
          exact ⟨closing.events, same ▸ closing.lead, closing.orderly,
            closing.balanced.trans balanced, closing.bond⟩

theorem recounts_pass (files : FileTree)
    (orderly : (progress.archive.committed indexer.store).Orderly)
    (dependable : progress.archive.Dependable indexer.store thread) :
    Progress.Recounts (·.Linked indexer.store thread) indexer.store progress
      (indexer.passPassages files thread progress) (indexer.pass files thread progress) := by
  have visits := recounts_visits files orderly dependable
  rw [pass_eq_andThen, passPassages]
  cases visiting : progress.run files indexer.store thread (indexer.visitActions files) with
  | mk visited failure? =>
      rw [visiting] at visits
      cases failure? with
      | some failure => exact visits.andThen (by simp) fun _ => rfl
      | none =>
          exact visits.andThen (fun _ orderly dependable => recounts_reconcile orderly dependable)
            (by simp)

theorem visitedBy_visitActions (indexer : Indexer) (files : FileTree) :
    (indexer.visitActions files).flatMap Progress.visitedBy = indexer.found files ∧
      (indexer.visitActions files).flatMap Progress.removedBy = [] := by
  have visits : ∀ next : Except Failure String,
      (ScanAction.ofFetch next).flatMap Progress.visitedBy = next.toOption.toList ∧
        (ScanAction.ofFetch next).flatMap Progress.removedBy = [] := by
    intro next
    cases next <;> exact ⟨rfl, rfl⟩
  rw [visitActions_eq, List.flatMap_append, List.flatMap_append, List.flatMap_assoc,
    List.flatMap_assoc, ← filterMap_fetches, List.filterMap_eq_flatMap_toList]
  simp only [visits]
  exact ⟨List.append_nil _, by simp [Progress.removedBy]⟩

theorem visitedBy_closingActions (indexer : Indexer) (stored seen : List String) :
    (indexer.closingActions stored seen).flatMap Progress.visitedBy = [] ∧
      (indexer.closingActions stored seen).flatMap Progress.removedBy =
        stored.filter fun path => !seen.contains path := by
  simp [closingActions, List.flatMap_map, Progress.visitedBy, Progress.removedBy]

/-- The log of a scan in two parts, of its visits and of its removals, and the counts that go with
them. -/
structure Parts (indexer : Indexer) (files : FileTree) (before after : Progress)
    (settled gone : List Event) : Prop where
  events : after.events = before.events ++ settled ++ gone
  visits : ∀ event ∈ settled, event.visitedPath?.isSome
  removes : ∀ event ∈ gone, event.removedPath?.isSome
  found : settled.filterMap Event.visitedPath? <+: indexer.found files
  sorted : (gone.filterMap Event.removedPath?).Pairwise (· < ·)
  writes : after.tally.inserted + after.tally.updated =
    before.tally.inserted + before.tally.updated + (settled.filterMap Event.indexedPath?).length
  skips : after.tally.skipped =
    before.tally.skipped + (settled.filterMap Event.unchangedPath?).length
  removals : after.tally.removed =
    before.tally.removed + (gone.filterMap Event.removedPath?).length

theorem Parts.of_same_log {before after later : Progress} {settled gone : List Event}
    (parts : indexer.Parts files before after settled gone) (events : later.events = after.events)
    (tally : later.tally = after.tally) : indexer.Parts files before later settled gone where
  events := events.trans parts.events
  visits := parts.visits
  removes := parts.removes
  found := parts.found
  sorted := parts.sorted
  writes := by rw [tally, parts.writes]
  skips := by rw [tally, parts.skips]
  removals := by rw [tally, parts.removals]

theorem Parts.of_visits {before after : Progress}
    {settled : List Event} {failure? : Option Failure}
    (logs : Progress.Logs (indexer.visitActions files) before settled (after, failure?)) :
    indexer.Parts files before after settled [] := by
  obtain ⟨visited, removed⟩ := indexer.visitedBy_visitActions files
  have none : settled.filterMap Event.removedPath? = [] :=
    List.sublist_nil.mp (removed ▸ logs.removed)
  refine ⟨by rw [List.append_nil]; exact logs.events, ?_, by simp, visited ▸ logs.visited,
    List.Pairwise.nil, logs.writes, logs.skips, ?_⟩
  · intro event member
    refine (logs.known event member).resolve_right fun some => ?_
    rw [List.filterMap_eq_nil_iff.mp none event member] at some
    contradiction
  · rw [logs.removals, none]
    rfl

theorem Parts.closed {before visited after : Progress} {settled gone : List Event}
    {stored seen : List String} {failure? : Option Failure}
    (parts : indexer.Parts files before visited settled [])
    (logs : Progress.Logs (indexer.closingActions stored seen) visited gone (after, failure?))
    (sorted : stored.Pairwise (· < ·)) : indexer.Parts files before after settled gone := by
  obtain ⟨visits, removed⟩ := indexer.visitedBy_closingActions stored seen
  have none : gone.filterMap Event.visitedPath? = [] :=
    List.prefix_nil.mp (visits ▸ logs.visited)
  have removes : ∀ event ∈ gone, event.removedPath?.isSome := by
    intro event member
    refine (logs.known event member).resolve_left fun some => ?_
    rw [List.filterMap_eq_nil_iff.mp none event member] at some
    contradiction
  obtain ⟨indexed, unchanged, _⟩ := Event.no_visit_of_removals removes
  refine ⟨?_, parts.visits, removes, parts.found, ?_, ?_, ?_, ?_⟩
  · rw [logs.events, parts.events, List.append_nil]
  · exact (sorted.filter _).sublist (removed ▸ logs.removed)
  · rw [logs.writes, parts.writes, indexed]
    simp
  · rw [logs.skips, parts.skips, unchanged]
    simp
  · rw [logs.removals, parts.removals]
    simp

theorem parts_pass (files : FileTree)
    (orderly : (progress.archive.committed indexer.store).Orderly)
    (dependable : progress.archive.Dependable indexer.store thread) :
    ∃ settled gone,
      indexer.Parts files progress (indexer.pass files thread progress).1 settled gone := by
  have recounts := recounts_visits files orderly dependable
  obtain ⟨settled, logs⟩ :=
    Progress.logs_run files indexer.store thread progress (indexer.visitActions files)
  rw [pass_eq_andThen]
  cases visiting : progress.run files indexer.store thread (indexer.visitActions files) with
  | mk visited failure? =>
      rw [visiting] at logs recounts
      have parts := Parts.of_visits logs
      cases failure? with
      | some failure => exact ⟨settled, [], parts⟩
      | none =>
          have performs := Archive.listPaths_performs (recounts.bond rfl)
          change ∃ settled gone,
            indexer.Parts files progress (indexer.reconcile files thread visited).1 settled gone
          unfold reconcile
          cases listing : visited.archive.listPaths indexer.store thread with
          | mk result archive =>
              rw [listing] at performs
              cases performs with
              | failed own kept => exact ⟨settled, [], parts.of_same_log rfl rfl⟩
              | @done stored _ answered linked _ =>
                  obtain ⟨listed, _⟩ := Archive.asking_eq_ok.mp answered
                  let onward : Progress := { visited with archive := archive }
                  obtain ⟨gone, closing⟩ := Progress.logs_run files indexer.store thread onward
                    (indexer.closingActions stored visited.seen)
                  have same : indexer.Parts files progress onward settled [] :=
                    parts.of_same_log rfl rfl
                  exact ⟨settled, gone, same.closed closing (recounts.orderly.paths_sorted listed)⟩

end Indexer

/-- What a log must be to tell of some passages from one state of the tables to another, whose
visits are among some paths: in order, without a gap, and with the counts of what it tells at its
end, if all came to their end. -/
structure AuditTrail (before after : Tables) (passages : List Passage) (visits : List String)
    (complete? : Option Tally) (events : List Event) : Prop where
  lead : Passage.Lead before after passages
  info : events.filter (·.level = .info) =
    (passages.flatMap Passage.written).map .indexed ++
      (passages.flatMap Passage.removed).map .removed ++ complete?.toList.map .scanComplete
  debug : events.filter (·.level = .debug) =
    (passages.flatMap Passage.passedOver).map .unchanged
  visited : events.filterMap Event.visitedPath? <+: visits
  sorted : (passages.flatMap Passage.removed).Pairwise (· < ·)
  last : ∃ body, events = body ++ complete?.toList.map .scanComplete ∧
    ∀ tally, .scanComplete tally ∉ body
  counts : ∀ tally, complete? = some tally →
    tally.inserted + tally.updated = (events.filterMap Event.indexedPath?).length ∧
    tally.skipped = (events.filterMap Event.unchangedPath?).length ∧
    tally.removed = (events.filterMap Event.removedPath?).length

namespace Indexer

variable {indexer : Indexer} {files : FileTree} {thread : Nat} {archive : Archive}
  {patience : Patience}

theorem Parts.of_told {before after : Progress} {settled gone : List Event}
    {passages : List Passage} (parts : indexer.Parts files before after settled gone)
    (told : passages.flatMap Passage.told = settled ++ gone) :
    settled.filterMap Event.indexedPath? = passages.flatMap Passage.written ∧
      settled.filterMap Event.unchangedPath? = passages.flatMap Passage.passedOver ∧
      gone.filterMap Event.removedPath? = passages.flatMap Passage.removed := by
  obtain ⟨indexed, unchanged, _⟩ := Event.no_visit_of_removals parts.removes
  have removed := Event.no_removal_of_visits parts.visits
  have share : ∀ member? : Event → Option String,
      settled.filterMap member? ++ gone.filterMap member? =
        passages.flatMap fun passage => passage.told.filterMap member? := by
    intro member?
    rw [← List.filterMap_append, ← told, List.filterMap_flatMap]
  refine ⟨?_, ?_, ?_⟩
  · simpa [indexed, Passage.filterMap_told] using share Event.indexedPath?
  · simpa [unchanged, Passage.filterMap_told] using share Event.unchangedPath?
  · simpa [removed, Passage.filterMap_told] using share Event.removedPath?

theorem Parts.audit {final : Progress} {settled gone : List Event} {passages : List Passage}
    {failure? : Option Failure} (complete? : Option Tally)
    (parts : indexer.Parts files (.start archive patience) final settled gone)
    (recounts : Progress.Recounts (·.Linked indexer.store thread) indexer.store
      (.start archive patience) passages (final, failure?))
    (counted : ∀ tally, complete? = some tally → tally = final.tally) :
    AuditTrail (archive.committed indexer.store) (final.archive.committed indexer.store) passages
      (indexer.found files) complete? (final.events ++ complete?.toList.map .scanComplete) := by
  have body : final.events = settled ++ gone := parts.events
  obtain ⟨written, passedOver, removed⟩ :=
    parts.of_told (recounts.events.symm.trans parts.events)
  obtain ⟨info, debug⟩ := Event.filter_level_of_visits parts.visits
  obtain ⟨infoGone, debugGone⟩ := Event.filter_level_of_removals parts.removes
  obtain ⟨noneIndexed, noneUnchanged, noneVisited⟩ := Event.no_visit_of_removals parts.removes
  have noneRemoved := Event.no_removal_of_visits parts.visits
  refine ⟨recounts.lead, ?_, ?_, ?_, removed ▸ parts.sorted, ⟨final.events, rfl, ?_⟩, ?_⟩
  · rw [body, List.filter_append, List.filter_append, info, infoGone, written, removed]
    congr 1
    cases complete? <;> rfl
  · rw [body, List.filter_append, List.filter_append, debug, debugGone, passedOver]
    cases complete? <;> simp [Event.level]
  · rw [body, List.filterMap_append, List.filterMap_append, noneVisited, List.append_nil]
    cases complete? <;> simpa [List.filterMap_cons] using parts.found
  · intro tally member
    rcases List.mem_append.mp (body ▸ member) with visit | removal
    · exact absurd (parts.visits _ visit) (by simp)
    · exact absurd (parts.removes _ removal) (by simp)
  · intro tally ended
    cases counted tally ended
    have writes := parts.writes
    have skips := parts.skips
    have removals := parts.removals
    rw [ended, body]
    simp only [Option.toList, List.map_cons, List.map_nil, List.filterMap_append, noneIndexed,
      noneUnchanged, noneRemoved]
    refine ⟨?_, ?_, ?_⟩
    · simpa [List.filterMap_cons, Progress.start, Tally.zero] using writes
    · simpa [List.filterMap_cons, Progress.start, Tally.zero] using skips
    · simpa [List.filterMap_cons, Progress.start, Tally.zero] using removals

/-- The log of a scan is an audit trail of it, wherever it ends: what was changed in the store is
what its passages changed, and the log tells of each row that was written in the order of the
visits, then of each path that was removed in the order of the paths, and of each visit that came
to its end and wrote nothing. The counts come last, and only if the scan succeeds. -/
theorem scan_log_is_audit_trail (dependable : archive.Dependable indexer.store thread)
    (orderly : (archive.committed indexer.store).Orderly) :
    let run := indexer.scan archive thread patience
    AuditTrail (archive.committed indexer.store) (run.archive.committed indexer.store)
      (indexer.passages archive thread patience) (indexer.found archive.files)
      (if indexer.roots = [] then none else run.outcome.toOption) (run.notices.map (·.event)) := by
  intro run
  by_cases unwatched : indexer.roots = []
  · have idle : run = ⟨.ok .zero, archive, []⟩ :=
      scan_of_unwatched unwatched archive thread patience
    have none : indexer.passages archive thread patience = [] := by simp [passages, unwatched]
    rw [idle, none, if_pos unwatched]
    exact ⟨rfl, rfl, rfl, List.nil_prefix, .nil, ⟨[], rfl, by simp⟩, by simp⟩
  · have watched : ¬ indexer.roots.isEmpty = true := by simpa using unwatched
    have orderlyStart :
        ((Progress.start archive patience).archive.committed indexer.store).Orderly := orderly
    have recounts := recounts_pass archive.files orderlyStart dependable
    obtain ⟨settled, gone, parts⟩ := parts_pass archive.files orderlyStart dependable
    rw [if_neg unwatched, passages, if_neg watched]
    cases passed : indexer.pass archive.files thread (.start archive patience) with
    | mk final failure? =>
        rw [passed] at recounts parts
        simp only [run, scan, if_neg watched, passed]
        cases failure? with
        | some failure =>
            have trail := Parts.audit none parts recounts (by simp)
            simpa [Notice.all, Function.comp_def, Except.toOption] using trail
        | none =>
            have trail := Parts.audit (some final.tally) parts recounts (by simp)
            simpa [Notice.all, Function.comp_def, Except.toOption] using trail

theorem exampleChangedMoment_orderly : (exampleChangedMoment.archive.committed 0).Orderly :=
  exampleChangedMoment_heeds.orderly (by decide +kernel)

theorem log_of_rescan_is_audit_trail :
    let archive := exampleChangedMoment.archive
    let store := exampleRescan.store
    let run := exampleRescan.scan archive 1 none
    archive.Dependable store 1 ∧ (archive.committed store).Orderly ∧
    run.notices.map (·.event) = [.indexed "/a/x.txt", .scanComplete ⟨0, 1, 0, 0⟩] ∧
    AuditTrail (archive.committed store) (run.archive.committed store)
      (exampleRescan.passages archive 1 none) (exampleRescan.found archive.files)
      (if exampleRescan.roots = [] then none else run.outcome.toOption)
      (run.notices.map (·.event)) :=
  ⟨exampleChangedMoment_dependable, exampleChangedMoment_orderly, by decide +kernel,
    scan_log_is_audit_trail exampleChangedMoment_dependable exampleChangedMoment_orderly⟩

end Indexer

end FolderIndex
