import FolderIndex.Proofs.Hosting
import FolderIndex.Scan

namespace FolderIndex

/-! Scans of one database on two threads. What differs between threads is which of them have read
before; what they read, and what scans commit, does not depend on that. -/

namespace Archive

variable {α : Type} {archive after left right : Archive} {place : List String} {number : Nat}
  {store : Nat} {tables : Tables}

/-- Two archives with one database in one place, which an open store of theirs is on, and with
clocks that show the same. -/
structure Twins (place : List String) (number store : Nat) (left right : Archive) : Prop where
  hosts : ∃ tables, left.Hosts place number tables ∧ right.Hosts place number tables
  openLeft : (left.handle store).closed = false
  openRight : (right.handle store).closed = false
  clock : left.clock = right.clock

/-- Two outcomes that are the same but for what was read through which connections. -/
structure Concur (place : List String) (number store : Nat) (left right : Outcome α) : Prop where
  result : left.1 = right.1
  twins : Twins place number store left.2 right.2

theorem Twins.committed (twins : Twins place number store left right) :
    left.committed store = right.committed store := by
  obtain ⟨tables, hostsLeft, hostsRight⟩ := twins.hosts
  unfold Archive.committed databaseOf
  rw [(hostsLeft.on twins.openLeft).writer, (hostsRight.on twins.openRight).writer]
  exact hostsLeft.committed.trans hostsRight.committed.symm

theorem Leaves.opened (leaves : archive.Leaves place number tables
      (archive.handles.map (·.closed)) after)
    (open' : (archive.handle store).closed = false) : (after.handle store).closed = false := by
  rw [closed_handle, leaves.closed, ← closed_handle, open']

theorem Twins.of_leaves {leftAfter rightAfter : Archive}
    (twins : Twins place number store left right)
    (fromLeft : left.Leaves place number tables (left.handles.map (·.closed)) leftAfter)
    (fromRight : right.Leaves place number tables (right.handles.map (·.closed)) rightAfter) :
    Twins place number store leftAfter rightAfter :=
  ⟨⟨tables, fromLeft.hosts, fromRight.hosts⟩, fromLeft.opened twins.openLeft,
    fromRight.opened twins.openRight,
    fromLeft.clock.trans (twins.clock.trans fromRight.clock.symm)⟩

theorem Twins.query (twins : Twins place number store left right) (thread other : Nat)
    (operation : StoreOperation) (ask : Tables → Except DatabaseFault α) :
    Concur place number store (left.query store thread operation ask)
      (right.query store other operation ask) := by
  obtain ⟨tables, hostsLeft, hostsRight⟩ := twins.hosts
  obtain ⟨leftAfter, readLeft, fromLeft⟩ := hostsLeft.reading twins.openLeft thread operation
  obtain ⟨rightAfter, readRight, fromRight⟩ := hostsRight.reading twins.openRight other operation
  have afterwards := twins.of_leaves fromLeft fromRight
  simp only [Archive.query, readLeft, readRight]
  cases ask tables <;> exact ⟨rfl, afterwards⟩

theorem Twins.transact (twins : Twins place number store left right) (operation : StoreOperation)
    (change : Tables → Except DatabaseFault (α × Tables)) :
    Concur place number store (named operation (left.transact store change))
      (named operation (right.transact store change)) := by
  obtain ⟨tables, hostsLeft, hostsRight⟩ := twins.hosts
  rw [hostsLeft.transact twins.openLeft, hostsRight.transact twins.openRight]
  cases change tables with
  | error fault => exact ⟨rfl, twins⟩
  | ok changed =>
      exact ⟨rfl, twins.of_leaves (hostsLeft.storing twins.openLeft changed.2)
        (hostsRight.storing twins.openRight changed.2)⟩

theorem Hosts.stamp (hosts : archive.Hosts place number tables) :
    archive.stamp.2.Hosts place number tables :=
  ⟨hosts.clear, hosts.indexed, hosts.present, hosts.idle, hosts.committed, hosts.whole,
    hosts.opened⟩

theorem Twins.stamp (twins : Twins place number store left right) :
    left.stamp.1 = right.stamp.1 ∧ Twins place number store left.stamp.2 right.stamp.2 := by
  obtain ⟨⟨tables, hostsLeft, hostsRight⟩, openLeft, openRight, clock⟩ := twins
  refine ⟨by simp only [Archive.stamp, clock],
    ⟨⟨tables, hostsLeft.stamp, hostsRight.stamp⟩, openLeft, openRight, ?_⟩⟩
  simp only [Archive.stamp, clock]

theorem Twins.getHash (twins : Twins place number store left right) (thread other : Nat)
    (path : String) :
    Concur place number store (left.getHash store thread path)
      (right.getHash store other path) := by
  unfold Archive.getHash
  split
  · exact ⟨rfl, twins⟩
  · exact twins.query thread other _ _

theorem Twins.upsert (twins : Twins place number store left right) (path : String)
    (content? : Option String) (tokens : List String) (hash? : Option String) :
    Concur place number store (left.upsert store path content? tokens hash?)
      (right.upsert store path content? tokens hash?) := by
  unfold Archive.upsert
  split
  · exact ⟨rfl, twins⟩
  · obtain ⟨time, later⟩ := twins.stamp
    dsimp only
    rw [time]
    exact later.transact _ _

theorem Twins.delete (twins : Twins place number store left right) (path : String) :
    Concur place number store (left.delete store path) (right.delete store path) := by
  unfold Archive.delete
  split
  · exact ⟨rfl, twins⟩
  · exact twins.transact _ _

theorem Twins.recordRoot (twins : Twins place number store left right) (root : String) :
    Concur place number store (left.recordRoot store root) (right.recordRoot store root) := by
  unfold Archive.recordRoot
  split
  · exact ⟨rfl, twins⟩
  · obtain ⟨time, later⟩ := twins.stamp
    dsimp only
    rw [time]
    exact later.transact _ _

theorem Twins.lookUp (twins : Twins place number store left right) (files : FileTree)
    (thread other : Nat) (path : String) :
    Concur place number store (left.lookUp files store thread path)
      (right.lookUp files store other path) := by
  have asked := twins.getHash thread other path
  unfold Archive.lookUp
  generalize left.getHash store thread path = first at asked
  generalize right.getHash store other path = second at asked
  obtain ⟨hash?, leftAfter⟩ := first
  obtain ⟨_, rightAfter⟩ := second
  obtain ⟨rfl, later⟩ := asked
  cases files.encodingFault? path with
  | none => exact ⟨rfl, later⟩
  | some fault => cases hash? <;> exact ⟨rfl, later⟩

theorem Twins.idle (twins : Twins place number store left right) :
    (left.databaseOf store).pending? = none ∧ (right.databaseOf store).pending? = none := by
  obtain ⟨tables, hostsLeft, hostsRight⟩ := twins.hosts
  exact ⟨hostsLeft.idleOf twins.openLeft, hostsRight.idleOf twins.openRight⟩

theorem Twins.markRoot (twins : Twins place number store left right) (files : FileTree)
    (root : String) :
    Concur place number store (left.markRoot files store root)
      (right.markRoot files store root) := by
  have recorded := twins.recordRoot root
  unfold Archive.markRoot
  split
  · exact recorded
  · refine ⟨by rw [recorded.result], ?_⟩
    obtain ⟨_, later⟩ := twins.stamp
    obtain ⟨idleLeft, idleRight⟩ := later.idle
    dsimp only
    rw [rollback_snd idleLeft, rollback_snd idleRight]
    exact later

end Archive

namespace Progress

variable {progress : Progress} {another : Archive} {place : List String} {number store : Nat}

/-- The same progress in another archive. -/
def inArchive (progress : Progress) (archive : Archive) : Progress :=
  { progress with archive := archive }

/-- What two scans have come to that differ in their archives, which are twins. -/
structure Concur (place : List String) (number store : Nat)
    (left right : Progress × Option Failure) : Prop where
  result : left.2 = right.2
  archive : Archive.Twins place number store left.1.archive right.1.archive
  rest : right.1 = left.1.inArchive right.1.archive

theorem concur_visit (twins : Archive.Twins place number store progress.archive another)
    (files : FileTree) (thread other : Nat) (path : String) :
    Concur place number store (progress.visit files store thread path)
      ((progress.inArchive another).visit files store other path) := by
  unfold visit
  dsimp only
  cases files.read (Location.ofString path) with
  | error failure => exact ⟨rfl, twins, rfl⟩
  | ok octets =>
      have asked := twins.lookUp files thread other path
      simp only [indexOctets, inArchive]
      generalize progress.archive.lookUp files store thread path = left at asked
      generalize another.lookUp files store other path = right at asked
      obtain ⟨previous, leftAfter⟩ := left
      obtain ⟨_, rightAfter⟩ := right
      obtain ⟨rfl, later⟩ := asked
      cases previous with
      | error failure => exact ⟨rfl, later, rfl⟩
      | ok previous =>
          dsimp only at later ⊢
          split
          · exact ⟨rfl, later, rfl⟩
          · have written := later.upsert path (some (Text.decodeUtf8 octets))
              (Text.tokenize (Text.decodeUtf8 octets)) (some (digest octets))
            generalize leftAfter.upsert store path _ _ _ = left at written
            generalize rightAfter.upsert store path _ _ _ = right at written
            obtain ⟨outcome, leftLast⟩ := left
            obtain ⟨_, rightLast⟩ := right
            obtain ⟨rfl, last⟩ := written
            cases outcome <;> exact ⟨rfl, last, rfl⟩

/-- An action does the same in both archives. -/
theorem concur_act (twins : Archive.Twins place number store progress.archive another)
    (files : FileTree) (thread other : Nat) (action : ScanAction) :
    Concur place number store (progress.act files store thread action)
      ((progress.inArchive another).act files store other action) := by
  cases action with
  | poll =>
      simp only [act, poll, inArchive]
      split <;> exact ⟨rfl, twins, rfl⟩
  | visit path => exact concur_visit twins files thread other path
  | fail failure => exact ⟨rfl, twins, rfl⟩
  | remove path =>
      have removed := twins.delete path
      simp only [act, remove, inArchive]
      generalize progress.archive.delete store path = left at removed
      generalize another.delete store path = right at removed
      obtain ⟨outcome, leftAfter⟩ := left
      obtain ⟨_, rightAfter⟩ := right
      obtain ⟨rfl, later⟩ := removed
      cases outcome with
      | error failure => exact ⟨rfl, later, rfl⟩
      | ok removed => cases removed <;> exact ⟨rfl, later, rfl⟩
  | recordRoot root =>
      have recorded := twins.markRoot files root
      simp only [act, recordRoot, inArchive]
      generalize progress.archive.markRoot files store root = left at recorded
      generalize another.markRoot files store root = right at recorded
      obtain ⟨outcome, leftAfter⟩ := left
      obtain ⟨_, rightAfter⟩ := right
      obtain ⟨rfl, later⟩ := recorded
      cases outcome <;> exact ⟨rfl, later, rfl⟩

theorem concur_run (twins : Archive.Twins place number store progress.archive another)
    (files : FileTree) (thread other : Nat) (actions : List ScanAction) :
    Concur place number store (progress.run files store thread actions)
      ((progress.inArchive another).run files store other actions) := by
  induction actions generalizing progress another with
  | nil => exact ⟨rfl, twins, rfl⟩
  | cons action rest ih =>
      have acted := concur_act twins files thread other action
      simp only [run]
      generalize progress.act files store thread action = left at acted
      generalize (progress.inArchive another).act files store other action = right at acted
      obtain ⟨leftAfter, failure?⟩ := left
      obtain ⟨rightAfter, _⟩ := right
      obtain ⟨rfl, later, same⟩ := acted
      cases failure? with
      | some failure => exact ⟨rfl, later, same⟩
      | none =>
          dsimp only at same ⊢
          rw [same]
          exact ih later

end Progress

namespace Indexer

variable {indexer : Indexer} {archive right : Archive} {progress : Progress}
  {place : List String} {number : Nat}

theorem concur_reconcile
    (twins : Archive.Twins place number indexer.store progress.archive right) (files : FileTree)
    (thread other : Nat) :
    Progress.Concur place number indexer.store (indexer.reconcile files thread progress)
      (indexer.reconcile files other (progress.inArchive right)) := by
  have listed : Archive.Concur place number indexer.store
      (progress.archive.listPaths indexer.store thread)
      (right.listPaths indexer.store other) := twins.query thread other _ _
  simp only [reconcile, Progress.inArchive]
  generalize progress.archive.listPaths indexer.store thread = left at listed
  generalize right.listPaths indexer.store other = right at listed
  obtain ⟨stored?, leftAfter⟩ := left
  obtain ⟨_, rightAfter⟩ := right
  obtain ⟨rfl, later⟩ := listed
  cases stored? with
  | error failure => exact ⟨rfl, later, rfl⟩
  | ok stored =>
      exact Progress.concur_run (later : Archive.Twins place number indexer.store
        (progress.inArchive leftAfter).archive rightAfter) files thread other _

theorem concur_pass (twins : Archive.Twins place number indexer.store progress.archive right)
    (files : FileTree) (thread other : Nat) :
    Progress.Concur place number indexer.store (indexer.pass files thread progress)
      (indexer.pass files other (progress.inArchive right)) := by
  have visited := Progress.concur_run twins files thread other (indexer.visitActions files)
  simp only [pass]
  generalize progress.run files indexer.store thread (indexer.visitActions files) = left at visited
  generalize (progress.inArchive right).run files indexer.store other _ = right at visited
  obtain ⟨leftAfter, failure?⟩ := left
  obtain ⟨rightAfter, _⟩ := right
  obtain ⟨rfl, later, same⟩ := visited
  cases failure? with
  | some failure => exact ⟨rfl, later, same⟩
  | none =>
      dsimp only at same ⊢
      rw [same]
      exact concur_reconcile later files thread other

/-- On a database in its place, a scan gives the same on whichever thread it runs: its outcome, what
it logs, what is committed in the end, and where the clock then is. -/
theorem scan_on_thread {tables : Tables} (hosts : archive.Hosts place number tables)
    (open' : (archive.handle indexer.store).closed = false) (thread other : Nat)
    (patience : Patience) :
    let one := indexer.scan archive thread patience
    let another := indexer.scan archive other patience
    one.outcome = another.outcome ∧ one.notices = another.notices ∧
      Archive.Twins place number indexer.store one.archive another.archive := by
  have twins : Archive.Twins place number indexer.store
      (Progress.start archive patience).archive archive :=
    ⟨⟨tables, hosts, hosts⟩, open', open', rfl⟩
  simp only [scan]
  split
  · exact ⟨rfl, rfl, twins⟩
  · have passed := concur_pass twins archive.files thread other
    have start : (Progress.start archive patience).inArchive archive =
      .start archive patience := rfl
    rw [start] at passed
    generalize indexer.pass archive.files thread (.start archive patience) = left at passed
    generalize indexer.pass archive.files other (.start archive patience) = right at passed
    obtain ⟨leftAfter, failure?⟩ := left
    obtain ⟨rightAfter, _⟩ := right
    obtain ⟨rfl, later, same⟩ := passed
    dsimp only at same
    rw [same]
    cases failure? <;> exact ⟨rfl, rfl, later⟩

end Indexer

end FolderIndex
