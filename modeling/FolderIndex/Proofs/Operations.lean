import FolderIndex.Proofs.Reading
import FolderIndex.Scan

namespace FolderIndex

theorem Database.transact_of_error {α : Type} {database : Database} {writer : Nat}
    {change : Tables → Except DatabaseFault (α × Tables)} {fault : DatabaseFault}
    (idle : database.pending? = none) (failed : change database.committed = .error fault) :
    database.transact writer change = (.error fault, database) := by
  simp [transact, write, seenBy, rollback, idle, failed]

/-- How an operation of a scan on a path fails: as the store does, or because the path cannot be
encoded. -/
def Failure.IsOfPath (files : FileTree) (operation : StoreOperation) (path : String)
    (failure : Failure) : Prop :=
  failure.IsOf operation ∨ failure.IsEncodingOf files path

namespace Archive

/-! What the operations of a store do to what is committed there: each one fails and commits
nothing, or does to the tables what it is for. -/

variable {α : Type} {archive : Archive} {store thread : Nat}
  {change : Tables → Except DatabaseFault (α × Tables)}
  {ask : Tables → Except DatabaseFault α}

/-- An operation that fails in a way of its own and commits nothing, or succeeds with a change of
what is committed, when the clock has come so far. -/
inductive Performs (archive : Archive) (store thread : Nat) (fails : Failure → Prop)
    (clock : Clock) (change : Tables → Except DatabaseFault (α × Tables)) : Outcome α → Prop where
  | failed {failure : Failure} {after : Archive} (own : fails failure)
      (kept : after.committed store = archive.committed store) :
      Performs archive store thread fails clock change (.error failure, after)
  | done {value : α} {after : Archive}
      (changed : change (archive.committed store) = .ok (value, after.committed store))
      (linked : after.Linked store thread) (timed : after.clock = clock) :
      Performs archive store thread fails clock change (.ok value, after)

/-- A question, as a change that leaves the tables as they are. -/
def asking (ask : Tables → Except DatabaseFault α) (tables : Tables) :
    Except DatabaseFault (α × Tables) := do
  let value ← ask tables
  pure (value, tables)

theorem asking_eq_ok {tables after : Tables} {value : α} :
    asking ask tables = .ok (value, after) ↔ ask tables = .ok value ∧ after = tables := by
  unfold asking
  cases ask tables with
  | error fault => simp [bind, Except.bind]
  | ok answer =>
      simp only [bind, Except.bind, pure, Except.pure, Except.ok.injEq, Prod.mk.injEq]
      exact and_congr_right fun _ => eq_comm

theorem query_performs (dependable : archive.Dependable store thread)
    (refuses : ∀ tables, tables.isBlank = true → ∃ fault, ask tables = .error fault)
    (operation : StoreOperation) :
    archive.Performs store thread (Failure.IsOf operation) archive.clock (asking ask)
      (archive.query store thread operation ask) := by
  have spec := reading_cases dependable operation
  unfold query
  cases outcome : archive.reading store thread operation with
  | mk result after =>
      rw [outcome] at spec
      obtain ⟨sameTables, sameClock,
        ⟨cause, failed, own⟩ | ⟨tables, read, blank⟩ | ⟨read, linked⟩⟩ := spec
      · dsimp only at failed
        subst failed
        exact .failed own sameTables
      · dsimp only at read
        subst read
        obtain ⟨fault, refused⟩ := refuses tables blank
        dsimp only
        rw [refused]
        exact .failed (.refused fault) sameTables
      · dsimp only at read sameTables
        subst read
        dsimp only
        cases answer : ask (archive.committed store) with
        | error fault => exact .failed (.refused fault) sameTables
        | ok value => exact .done (asking_eq_ok.mpr ⟨answer, sameTables⟩) linked sameClock

theorem getHash_performs (dependable : archive.Dependable store thread) (path : String) :
    archive.Performs store thread (Failure.IsOf (.getHash path)) archive.clock
      (asking (·.hashOf path)) (archive.getHash store thread path) := by
  unfold getHash
  split
  · exact .failed .blankPath rfl
  · apply query_performs dependable
    intro tables blank
    have missing : tables.entries? = none := by
      simp only [Tables.isBlank, Bool.and_eq_true] at blank
      exact Option.isNone_iff_eq_none.mp blank.1
    exact ⟨.noTable .entries, by simp [Tables.hashOf, Tables.entries, missing, bind, Except.bind]⟩

/-- A path is asked for even where it cannot be encoded, and what is committed stays. -/
theorem lookUp_performs (dependable : archive.Dependable store thread) (files : FileTree)
    (path : String) :
    archive.Performs store thread (Failure.IsOfPath files (.getHash path) path) archive.clock
      (asking (·.hashOf path)) (archive.lookUp files store thread path) := by
  have performs := getHash_performs dependable path
  cases looked : archive.lookUp files store thread path with
  | mk result after =>
      have same : (archive.getHash store thread path).2 = after := by
        rw [← lookUp_snd, looked]
      cases result with
      | ok hash? =>
          rw [(lookUp_eq_ok.mp looked).2] at performs
          cases performs with
          | done changed linked timed => exact .done changed linked timed
      | error failure =>
          have kept : after.committed store = archive.committed store := by
            rw [← same]
            generalize archive.getHash store thread path = outcome at performs
            cases performs with
            | failed _ kept => exact kept
            | done answered _ _ => exact (asking_eq_ok.mp answered).2
          rcases lookUp_eq_error looked with refused | bad
          · rw [refused] at performs
            cases performs with
            | failed own _ => exact .failed (.inl own) kept
          · exact .failed (.inr bad) kept

theorem listPaths_performs (dependable : archive.Dependable store thread) :
    archive.Performs store thread (Failure.IsOf .listPaths) archive.clock (asking Tables.paths)
      (archive.listPaths store thread) := by
  apply query_performs dependable
  intro tables blank
  have missing : tables.entries? = none := by
    simp only [Tables.isBlank, Bool.and_eq_true] at blank
    exact Option.isNone_iff_eq_none.mp blank.1
  exact ⟨.noTable .entries, by simp [Tables.paths, Tables.entries, missing, bind, Except.bind]⟩

theorem databaseOf_setDatabaseOf {database : Database}
    (present : (archive.handle store).writer.database < archive.databases.length) :
    (archive.setDatabaseOf store database).databaseOf store = database :=
  database_setDatabase_self present

theorem Linked.setDatabaseOf {database : Database} (linked : archive.Linked store thread)
    (idle : database.pending? = none) :
    (archive.setDatabaseOf store database).Linked store thread := by
  refine ⟨linked.opened, ?_, ?_, linked.reader⟩
  · have length : (archive.setDatabaseOf store database).databases.length =
        archive.databases.length := List.length_set
    rw [length]
    exact linked.present
  · rw [databaseOf_setDatabaseOf linked.present]
    exact idle

theorem transact_performs (linked : archive.Linked store thread) (operation : StoreOperation) :
    archive.Performs store thread (Failure.IsOf operation) archive.clock change
      (named operation (archive.transact store change)) := by
  have opened : ¬ (archive.handle store).closed = true := by simp [linked.opened]
  unfold transact changing
  dsimp only
  rw [if_neg opened]
  split
  · exact .failed (.refused _) rfl
  · split
    · exact .failed (.refused _) rfl
    · cases changed : change (archive.committed store) with
      | error fault =>
          rw [Database.transact_of_error linked.idle changed]
          refine .failed (.refused fault) ?_
          simp only [committed]
          rw [databaseOf_setDatabaseOf linked.present]
      | ok result =>
          obtain ⟨value, tables⟩ := result
          rw [Database.transact_of_ok linked.idle changed]
          refine .done ?_ (linked.setDatabaseOf rfl) rfl
          rw [changed]
          simp only [committed]
          rw [databaseOf_setDatabaseOf linked.present]
          rfl

theorem Linked.stamp (linked : archive.Linked store thread) :
    archive.stamp.2.Linked store thread :=
  ⟨linked.opened, linked.present, linked.idle, linked.reader⟩

theorem Performs.of_stamp {fails : Failure → Prop} {clock : Clock} {outcome : Outcome α}
    (performs : archive.stamp.2.Performs store thread fails clock change outcome) :
    archive.Performs store thread fails clock change outcome := by
  cases performs with
  | failed own kept => exact .failed own kept
  | done changed linked timed => exact .done changed linked timed

theorem upsert_performs (linked : archive.Linked store thread) (path content hash : String)
    (tokens : List String) :
    archive.Performs store thread (Failure.IsOf (.upsert path)) archive.clock.read.2
      (·.insert true ⟨path, some content, Text.joinWords tokens, some hash,
        archive.clock.read.1.toText⟩)
      (archive.upsert store path (some content) tokens (some hash)) := by
  unfold upsert
  split
  · exact .failed .blankPath rfl
  · exact Performs.of_stamp (transact_performs linked.stamp _)

theorem delete_performs (linked : archive.Linked store thread) (path : String) :
    archive.Performs store thread (Failure.IsOf (.delete path)) archive.clock (·.delete path)
      (archive.delete store path) := by
  unfold delete
  split
  · exact .failed .blankPath rfl
  · exact transact_performs linked _

theorem recordRoot_performs (linked : archive.Linked store thread) (root : String) :
    archive.Performs store thread (Failure.IsOf (.recordRoot root)) archive.clock.read.2
      (·.recordRoot ⟨root, archive.clock.read.1.toText⟩) (archive.recordRoot store root) := by
  unfold recordRoot
  split
  · exact .failed .blankPath rfl
  · exact Performs.of_stamp (transact_performs linked.stamp _)

theorem markRoot_performs (linked : archive.Linked store thread) (files : FileTree)
    (root : String) :
    archive.Performs store thread (Failure.IsOfPath files (.recordRoot root) root)
      archive.clock.read.2 (·.recordRoot ⟨root, archive.clock.read.1.toText⟩)
      (archive.markRoot files store root) := by
  have performs := recordRoot_performs linked root
  have undone : (archive.stamp.2.rollback store).2 = archive.stamp.2 :=
    rollback_snd linked.stamp.idle
  cases marked : archive.markRoot files store root with
  | mk result after =>
      cases result with
      | ok value =>
          rw [(markRoot_eq_ok.mp marked).2] at performs
          cases performs with
          | done changed linked timed => exact .done changed linked timed
      | error failure =>
          rcases markRoot_eq_error marked with refused | ⟨rfl, refused | bad⟩
          · rw [refused] at performs
            cases performs with
            | failed own kept => exact .failed (.inl own) kept
          · cases outcome : archive.recordRoot store root with
            | mk result other =>
                rw [outcome] at performs refused
                dsimp only at refused
                subst refused
                cases performs with
                | failed own _ => exact .failed (.inl own) (by rw [undone]; rfl)
          · exact .failed (.inr bad) (by rw [undone]; rfl)

end Archive

end FolderIndex
