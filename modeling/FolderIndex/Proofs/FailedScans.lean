import FolderIndex.Proofs.Course
import FolderIndex.Proofs.PlannedScans

namespace FolderIndex

/-! What a scan that fails leaves behind: the effects of the steps of its plan before the one at
which it failed. -/

namespace ScanStep

/-- Whether a step comes before all files are visited. -/
def isVisiting : ScanStep → Bool
  | fetch _ | poll | read _ | lookUp _ | write _ => true
  | list | remove _ | recordRoot _ => false

/-- Whether a step can only fail for a reason that does not lie in the store. -/
def isOutside : ScanStep → Bool
  | fetch _ | poll | read _ => true
  | lookUp _ | write _ | list | remove _ | recordRoot _ => false

theorem isOutside_of_failsAt {files : FileTree} {state : ScanState} {failure : Failure}
    {step : ScanStep} (fails : step.FailsAt files state failure)
    (outside : failure = .cancelled ∨ ∃ cause, failure = .walk cause) : step.isOutside = true := by
  have inStore : ∀ {operation}, failure.IsOf operation → step.isOutside = true := by
    intro operation own
    rcases outside with rfl | ⟨cause, rfl⟩ <;> cases own
  have ofPath : ∀ {operation path}, failure.IsOfPath files operation path →
      step.isOutside = true := by
    rintro operation path (own | ⟨fault, _, rfl⟩)
    · exact inStore own
    · simp at outside
  cases step with
  | fetch next => rfl
  | poll => rfl
  | read path => rfl
  | lookUp path => exact ofPath fails
  | write visit => exact inStore fails
  | list => exact inStore fails
  | remove path => exact inStore fails
  | recordRoot root => exact ofPath fails

end ScanStep

namespace ScanState

variable {files : FileTree} {state before between after reached : ScanState} {step : ScanStep}

/-- What the visits of a scan leave as it is: the times of the roots, the stored paths, and the
rows of all files that were not visited. -/
structure Retains (before after : ScanState) : Prop where
  roots : after.tables.roots? = before.tables.roots?
  paths : ∀ row ∈ before.tables.rows, ∃ kept ∈ after.tables.rows, kept.path = row.path
  visits : ∀ visit ∈ before.visits, visit ∈ after.visits
  others : ∀ row : Entry, row.path ∉ after.visits.map (·.path) →
    (row ∈ after.tables.rows ↔ row ∈ before.tables.rows)

theorem Retains.of_same_tables (tables : after.tables = before.tables)
    (visits : ∀ visit ∈ before.visits, visit ∈ after.visits) : before.Retains after := by
  refine ⟨by rw [tables], ?_, visits, ?_⟩
  · intro row member
    rw [tables]
    exact ⟨row, member, rfl⟩
  · intro row _
    rw [tables]

theorem Retains.trans (first : before.Retains between) (second : between.Retains after) :
    before.Retains after := by
  refine ⟨second.roots.trans first.roots, ?_, ?_, ?_⟩
  · intro row member
    obtain ⟨middle, middleMember, samePath⟩ := first.paths row member
    obtain ⟨kept, keptMember, keptPath⟩ := second.paths middle middleMember
    exact ⟨kept, keptMember, keptPath.trans samePath⟩
  · intro visit member
    exact second.visits visit (first.visits visit member)
  · intro row apart
    have apartBefore : row.path ∉ between.visits.map (·.path) := by
      intro member
      obtain ⟨visit, visitMember, path⟩ := List.mem_map.mp member
      exact apart (List.mem_map.mpr ⟨visit, second.visits visit visitMember, path⟩)
    exact (second.others row apart).trans (first.others row apartBefore)

/-- Each step of the visits leaves the stored files as they are, but for one that was read. -/
theorem retains_of_step (visiting : step.isVisiting = true)
    (performed : state.step? files step = some reached) : state.Retains reached := by
  cases step with
  | fetch next =>
      cases next with
      | ok path =>
          cases performed
          exact .of_same_tables rfl fun _ member => member
      | error failure => contradiction
  | poll =>
      obtain ⟨tables, _, visits⟩ := of_step?_poll performed
      exact .of_same_tables tables fun _ member => visits ▸ member
  | read path =>
      obtain ⟨octets, _, rfl⟩ := step?_read.mp performed
      exact .of_same_tables rfl fun _ member => List.mem_append_left _ member
  | lookUp path =>
      obtain ⟨_, _, _, rfl⟩ := step?_lookUp.mp performed
      exact .of_same_tables rfl fun _ member => member
  | write visit =>
      obtain ⟨known, tables, inserted, rfl⟩ := step?_write.mp performed
      obtain ⟨table, entries, ⟨_, rfl⟩ | ⟨row, _, drafted, rfl⟩⟩ := Tables.insert_cases inserted
      · exact .of_same_tables rfl fun _ member => member
      · cases drafted
        refine ⟨rfl, ?_, fun _ member => member, ?_⟩
        · intro old member
          rw [Tables.rows_of_entries entries] at member
          by_cases same : old.path = visit.path
          · exact ⟨_, EntryTable.mem_putRow.mpr (.inl rfl), same.symm⟩
          · exact ⟨old, EntryTable.mem_putRow.mpr (.inr ⟨member, same⟩), rfl⟩
        · intro other apart
          have unvisited : other.path ≠ visit.path := by
            intro same
            exact apart (List.mem_map.mpr ⟨visit, known, same.symm⟩)
          rw [Tables.rows_of_entries entries]
          refine EntryTable.mem_putRow.trans ⟨?_, fun member => .inr ⟨member, unvisited⟩⟩
          rintro (rfl | ⟨member, _⟩)
          · exact absurd rfl unvisited
          · exact member
  | list => contradiction
  | remove path => contradiction
  | recordRoot root => contradiction

theorem retains_of_after? {steps : List ScanStep}
    (visiting : ∀ step ∈ steps, step.isVisiting = true)
    (performed : state.after? files steps = some reached) : state.Retains reached := by
  induction steps generalizing state with
  | nil =>
      cases performed
      exact .of_same_tables rfl fun _ member => member
  | cons step rest ih =>
      rw [after?, Option.bind_eq_some_iff] at performed
      obtain ⟨middle, first, onward⟩ := performed
      exact (retains_of_step (visiting step (by simp)) first).trans
        (ih (fun other member => visiting other (by simp [member])) onward)

theorem isVisiting_stepsOf {next : Except Failure String} :
    ∀ step ∈ state.stepsOf files next, step.isVisiting = true := by
  cases next with
  | error failure => simp [stepsOf, ScanStep.isVisiting]
  | ok path =>
      cases read : files.read (Location.ofString path) with
      | error failure => simp [stepsOf, readSteps, read, ScanStep.isVisiting]
      | ok octets =>
          simp only [stepsOf, readSteps, read, indexSteps]
          split <;> simp [ScanStep.isVisiting]

/-- Where all files are visited before, and nothing outside the store is looked at after. -/
def InOrder (steps : List ScanStep) : Prop :=
  steps.Pairwise fun earlier later => later.isOutside = true → earlier.isVisiting = true

theorem inOrder_follow {steps : List ScanStep} {more : ScanState → List ScanStep}
    (visiting : ∀ step ∈ steps, step.isVisiting = true)
    (rest : ∀ reached, InOrder (more reached)) : InOrder (state.follow files steps more) := by
  unfold follow InOrder
  rw [List.pairwise_append]
  refine ⟨?_, ?_, fun earlier member _ _ _ => visiting earlier member⟩
  · exact List.pairwise_of_forall_mem_list fun earlier member _ _ _ => visiting earlier member
  · cases state.after? files steps with
    | none => exact List.Pairwise.nil
    | some reached => exact rest reached

end ScanState

namespace Indexer

variable {indexer : Indexer} {files : FileTree} {state : ScanState}

theorem inOrder_closingSteps : ScanState.InOrder (indexer.closingSteps state) := by
  have inside : ∀ step ∈ indexer.closingSteps state, step.isOutside = false := by
    unfold closingSteps
    cases state.tables.paths with
    | error fault => simp [ScanStep.isOutside]
    | ok stored =>
        intro step member
        rcases List.mem_cons.mp member with rfl | member
        · rfl
        · rcases List.mem_append.mp member with removal | record
          · obtain ⟨path, _, rfl⟩ := List.mem_map.mp removal
            rfl
          · obtain ⟨root, _, rfl⟩ := List.mem_map.mp record
            rfl
  refine List.pairwise_of_forall_mem_list fun _ _ later member outside => ?_
  rw [inside later member] at outside
  contradiction

theorem inOrder_planFrom (indexer : Indexer) (files : FileTree)
    (fetches : List (Except Failure String)) (state : ScanState) :
    ScanState.InOrder (indexer.planFrom files fetches state) := by
  induction fetches generalizing state with
  | nil =>
      exact ScanState.inOrder_follow (by simp [ScanStep.isVisiting]) fun _ => inOrder_closingSteps
  | cons next rest ih => exact ScanState.inOrder_follow ScanState.isVisiting_stepsOf ih

variable {archive : Archive} {thread : Nat} {patience : Patience}

theorem scan_of_error {failure : Failure}
    (failed : (indexer.scan archive thread patience).outcome = .error failure) :
    ∃ progress, indexer.pass archive.files thread (.start archive patience) =
        (progress, some failure) ∧
      (indexer.scan archive thread patience).archive = progress.archive := by
  unfold scan at failed ⊢
  split at failed
  · contradiction
  · rename_i watched
    rw [if_neg watched]
    cases passed : indexer.pass archive.files thread (.start archive patience) with
    | mk progress failure? =>
        rw [passed] at failed
        cases failure? with
        | none => contradiction
        | some cause =>
            cases failed
            exact ⟨progress, rfl, rfl⟩

/-- A scan that fails has done the steps of its plan up to one, at which it failed. What is
committed is the effect of these steps. If it was cancelled or its files could not be walked, no
row is removed, no time of a root is changed, and no row of a file that was not visited. -/
theorem failed_scan_stops_within_plan (dependable : archive.Dependable indexer.store thread)
    {failure : Failure}
    (failed : (indexer.scan archive thread patience).outcome = .error failure) :
    let before := archive.committed indexer.store
    let after := (indexer.scan archive thread patience).archive.committed indexer.store
    let start : ScanState := ⟨before, archive.clock, [], patience⟩
    ∃ done failing later reached,
      indexer.plan archive.files start = done ++ failing :: later ∧
      start.after? archive.files done = some reached ∧
      failing.FailsAt archive.files reached failure ∧ after = reached.tables ∧
      (failure = .cancelled ∨ (∃ cause, failure = .walk cause) →
        after.roots? = before.roots? ∧
        (∀ row ∈ before.rows, ∃ kept ∈ after.rows, kept.path = row.path) ∧
        ∀ row : Entry, row.path ∉ reached.visits.map (·.path) →
          (row ∈ after.rows ↔ row ∈ before.rows)) := by
  intro before after start
  obtain ⟨progress, passed, same⟩ := scan_of_error failed
  have matched : Progress.Matches (.start archive patience) indexer.store start :=
    ⟨rfl, rfl, rfl, rfl⟩
  have follows := pass_follows archive.files matched dependable
  rw [passed] at follows
  cases follows with
  | @broken _ _ done later failing reached split performed fails kept =>
      have afterwards : after = reached.tables := by
        rw [← kept, ← same]
      refine ⟨done, failing, later, reached, split, performed, fails, afterwards, ?_⟩
      intro outside
      -- What fails outside the store fails before the listing, when nothing is removed or recorded.
      have inOrder := inOrder_planFrom indexer archive.files (indexer.fetches archive.files) start
      rw [← plan, split, ScanState.InOrder, List.pairwise_append] at inOrder
      have visiting : ∀ step ∈ done, step.isVisiting = true := fun step member =>
        inOrder.2.2 step member failing (by simp) (ScanStep.isOutside_of_failsAt fails outside)
      have retains := ScanState.retains_of_after? visiting performed
      rw [afterwards]
      exact ⟨retains.roots, retains.paths, retains.others⟩

theorem exampleArchive_dependable : exampleArchive.Dependable 0 0 := by
  have address : (exampleArchive.handle 0).address =
      .file (.ofString "/h/index.db") .create false := by decide +kernel
  have leads : exampleArchive.files.place? (.ofString "/h/index.db") = some ["h", "index.db"] := by
    decide +kernel
  have unread : (exampleArchive.handle 0).readers = [] := by decide +kernel
  refine .inr (Archive.readsOwnWrites_of_inPlace ?_ ?_ address leads ?_ ?_)
  · decide +kernel
  · decide +kernel
  · decide +kernel
  · simp [unread]

theorem exampleScan_cancelled :
    (exampleIndexer.scan exampleArchive 0 (some 1)).outcome = .error .cancelled := by
  decide +kernel

/-- A scan that is cancelled between two files. -/
theorem cancelled_scan_stops_within_plan :
    let before := exampleArchive.committed 0
    let after := (exampleIndexer.scan exampleArchive 0 (some 1)).archive.committed 0
    let start : ScanState := ⟨before, exampleArchive.clock, [], some 1⟩
    exampleArchive.Dependable 0 0 ∧
    (exampleIndexer.scan exampleArchive 0 (some 1)).outcome = .error .cancelled ∧
    ∃ done failing later reached,
      exampleIndexer.plan exampleArchive.files start = done ++ failing :: later ∧
      start.after? exampleArchive.files done = some reached ∧
      failing.FailsAt exampleArchive.files reached .cancelled ∧ after = reached.tables ∧
      after.roots? = before.roots? ∧
      (∀ row ∈ before.rows, ∃ kept ∈ after.rows, kept.path = row.path) ∧
      ∀ row : Entry, row.path ∉ reached.visits.map (·.path) →
        (row ∈ after.rows ↔ row ∈ before.rows) := by
  intro before after start
  obtain ⟨done, failing, later, reached, split, performed, fails, same, kept⟩ :=
    failed_scan_stops_within_plan exampleArchive_dependable exampleScan_cancelled
  exact ⟨exampleArchive_dependable, exampleScan_cancelled, done, failing, later, reached, split,
    performed, fails, same, kept (.inl rfl)⟩

end Indexer

end FolderIndex
