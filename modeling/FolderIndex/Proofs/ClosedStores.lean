import FolderIndex.Proofs.Holdings
import FolderIndex.Proofs.Outcomes
import FolderIndex.Proofs.Seats
import FolderIndex.Proofs.Stages

namespace FolderIndex

/-! Stores that were closed. Nothing that is done afterwards, through whichever stores, opens one
again or brings changes of it to be pending. -/

namespace Database

variable {α : Type} {database : Database} {writer other : Nat}
  {change : Tables → Except DatabaseFault (α × Tables)}

/-- A database in which a writer has nothing pending. -/
def IsFreeOf (database : Database) (writer : Nat) : Prop :=
  ∀ tables, database.pending? ≠ some (writer, tables)

theorem isFreeOf_ofTables (tables : Tables) (writer : Nat) : (ofTables tables).IsFreeOf writer :=
  nofun

theorem rollback_of_isFreeOf (free : database.IsFreeOf writer) :
    database.rollback writer = database := by
  unfold rollback
  split
  · rename_i holder tables pending
    refine if_neg fun same => free tables ?_
    rw [pending, same]
  · rfl

theorem isFreeOf_rollback (database : Database) (writer : Nat) :
    (database.rollback writer).IsFreeOf writer := by
  unfold rollback
  split
  · rename_i holder tables pending
    split
    · exact nofun
    · rename_i other
      intro _ same
      rw [pending] at same
      cases same
      exact other rfl
  · rename_i idle
    simp [IsFreeOf, idle]

theorem IsFreeOf.rollback (free : database.IsFreeOf writer) :
    (database.rollback other).IsFreeOf writer := by
  unfold Database.rollback
  split
  · split
    · exact nofun
    · exact free
  · exact free

theorem IsFreeOf.commit (free : database.IsFreeOf writer) :
    (database.commit other).IsFreeOf writer := by
  unfold Database.commit
  split
  · split
    · exact nofun
    · exact free
  · exact free

theorem IsFreeOf.write (free : database.IsFreeOf writer) (apart : other ≠ writer) :
    (database.write other change).2.IsFreeOf writer := by
  unfold Database.write
  split
  · exact free
  · split
    · exact free
    · intro _ same
      cases same
      exact apart rfl

theorem IsFreeOf.transact (free : database.IsFreeOf writer) (apart : other ≠ writer) :
    (database.transact other change).2.IsFreeOf writer := by
  have written : (database.write other change).2.IsFreeOf writer := free.write apart
  unfold Database.transact
  cases outcome : database.write other change with
  | mk result after =>
      rw [outcome] at written
      cases result with
      | ok value => exact written.commit
      | error fault => exact written.rollback

end Database

namespace Archive

variable {α : Type} {archive after : Archive} {store other thread number : Nat}
  {change : Tables → Except DatabaseFault (α × Tables)}

theorem free_setDatabase_self {database : Database} (free : database.IsFreeOf store) :
    ((archive.setDatabase number database).database number).IsFreeOf store := by
  by_cases present : number < archive.databases.length
  · rwa [database_setDatabase_self present]
  · have nowhere : (archive.setDatabase number database).database number = .empty := by
      simp [setDatabase, Archive.database, List.getD_eq_getElem?_getD, present]
    rw [nowhere]
    exact Database.isFreeOf_ofTables .blank store

/-- What goes past a store: it is opened, closed and read through by nobody, and nothing of it
comes to be pending anywhere. -/
structure Bypasses (store : Nat) (before after : Archive) : Prop where
  length : before.handles.length ≤ after.handles.length
  handle : after.handle store = before.handle store
  free : ∀ number, (before.database number).IsFreeOf store →
    (after.database number).IsFreeOf store

/-- A store that was closed, with nothing pending. -/
structure IsShut (archive : Archive) (store : Nat) : Prop where
  present : store < archive.handles.length
  closed : (archive.handle store).closed = true
  free : (archive.databaseOf store).IsFreeOf store

namespace Bypasses

theorem refl (store : Nat) (archive : Archive) : Bypasses store archive archive :=
  ⟨Nat.le_refl _, rfl, fun _ free => free⟩

theorem trans {between : Archive} (first : Bypasses store archive between)
    (second : Bypasses store between after) : Bypasses store archive after :=
  ⟨Nat.le_trans first.length second.length, second.handle.trans first.handle,
    fun number free => second.free number (first.free number free)⟩

theorem of_databases (handles : after.handles = archive.handles)
    (free : ∀ number, (archive.database number).IsFreeOf store →
      (after.database number).IsFreeOf store) : Bypasses store archive after :=
  ⟨Nat.le_of_eq (congrArg List.length handles).symm, by simp only [Archive.handle, handles], free⟩

theorem of_files (store : Nat) (archive : Archive) (files : FileTree) (clock : Clock) :
    Bypasses store archive { archive with files := files, clock := clock } :=
  of_databases rfl fun _ free => free

theorem setDatabase {database : Database}
    (kept : (archive.database number).IsFreeOf store → database.IsFreeOf store) :
    Bypasses store archive (archive.setDatabase number database) := by
  refine of_databases rfl fun another free => ?_
  by_cases same : number = another
  · subst same
    exact free_setDatabase_self (kept free)
  · rwa [database_setDatabase_ne same]

theorem append {database : Database} (free : database.IsFreeOf store) (files : FileTree) :
    Bypasses store archive
      { archive with files := files, databases := archive.databases ++ [database] } := by
  refine of_databases rfl fun another others => ?_
  unfold Archive.database at others ⊢
  dsimp only
  rw [List.getD_eq_getElem?_getD, List.getElem?_append]
  split
  · rwa [← List.getD_eq_getElem?_getD]
  · rw [List.getElem?_singleton]
    split
    · exact free
    · exact Database.isFreeOf_ofTables .blank store

theorem of_connects {outcome : Connecting} (connects : archive.Connects outcome) :
    Bypasses store archive outcome.2 := by
  cases connects with
  | alone result files => exact of_files store archive files _
  | anew result files tables known => exact append (Database.isFreeOf_ofTables tables store) files
  | found connection files database placed known =>
      refine (setDatabase fun free => ?_).trans (of_files store _ files archive.clock)
      rcases known with rfl | ⟨_, rfl⟩ <;> exact free

theorem setHandle {handle : Handle} (apart : other ≠ store) :
    Bypasses store archive (archive.setHandle other handle) :=
  ⟨by simp [Archive.setHandle], handle_setHandle_ne apart, fun _ free => free⟩

theorem withReader {connection : Connection} (apart : other ≠ store) :
    Bypasses store archive (archive.withReader other thread connection) := by
  unfold Archive.withReader
  dsimp only
  split
  · refine (setHandle apart).trans (of_databases rfl fun number free => ?_)
    simp only [Archive.database, Archive.setHandle, withoutLogsAt, List.getD_eq_getElem?_getD,
      List.getElem?_mapIdx] at free ⊢
    cases found : archive.databases[number]? with
    | none => exact Database.isFreeOf_ofTables .blank store
    | some database =>
        rw [found] at free
        simp only [Option.map_some, Option.getD_some] at free ⊢
        split <;> exact free
  · exact setHandle apart

theorem release (store : Nat) (archive : Archive) (connection : Connection) :
    Bypasses store archive (archive.release connection) := by
  unfold Archive.release
  dsimp only
  split
  · exact .refl store archive
  · split
    · exact .refl store archive
    · split
      · exact .refl store archive
      · split
        · refine Bypasses.trans (setDatabase ?_) (of_files store _ _ archive.clock)
          exact fun free => free
        · exact setDatabase fun free => free

theorem releaseAll (store : Nat) (connections : List Connection) :
    Bypasses store archive (connections.foldl Archive.release archive) := by
  induction connections generalizing archive with
  | nil => exact .refl store archive
  | cons connection rest ih => exact (release store archive connection).trans ih

end Bypasses

namespace IsShut

theorem of_bypasses (shut : archive.IsShut store) (bypasses : Bypasses store archive after) :
    after.IsShut store := by
  refine ⟨Nat.lt_of_lt_of_le shut.present bypasses.length, bypasses.handle ▸ shut.closed, ?_⟩
  rw [databaseOf, bypasses.handle]
  exact bypasses.free _ shut.free

/-- A store that is open is another one. -/
theorem ne_of_opened (shut : archive.IsShut store)
    (opened : (archive.handle other).closed ≠ true) : other ≠ store := by
  rintro rfl
  exact opened shut.closed

theorem reader (shut : archive.IsShut store) (other thread : Nat) (operation : StoreOperation) :
    Bypasses store archive (archive.reader other thread operation).2 := by
  unfold Archive.reader
  dsimp only
  split
  · split
    · exact .refl store archive
    · split <;> exact .refl store archive
  · split
    · exact .refl store archive
    · rename_i opened
      have connected : Bypasses store archive (archive.connect (archive.handle other).address).2 :=
        .of_connects (archive.connect_connects _)
      split
      · rename_i outcome
        rw [outcome] at connected
        exact connected
      · rename_i outcome
        rw [outcome] at connected
        exact connected.trans (.withReader (shut.ne_of_opened opened))

theorem reading (shut : archive.IsShut store) (other thread : Nat) (operation : StoreOperation) :
    Bypasses store archive (archive.reading other thread operation).2 := by
  rw [reading_snd]
  split
  · exact .refl store archive
  · exact shut.reader other thread operation

theorem query (shut : archive.IsShut store) (other thread : Nat) (operation : StoreOperation)
    (ask : Tables → Except DatabaseFault α) :
    Bypasses store archive (archive.query other thread operation ask).2 := by
  rw [query_snd]
  exact shut.reading other thread operation

theorem changing (shut : archive.IsShut store)
    {apply : Database → Except DatabaseFault α × Database}
    (kept : other ≠ store → ∀ database, database.IsFreeOf store →
      (apply database).2.IsFreeOf store) :
    Bypasses store archive (archive.changing other change apply).2 := by
  unfold Archive.changing
  dsimp only
  split
  · exact .refl store archive
  · rename_i opened
    split
    · exact .refl store archive
    · split
      · exact .refl store archive
      · exact .setDatabase fun free => kept (shut.ne_of_opened opened) _ free

theorem transact (shut : archive.IsShut store) (other : Nat)
    (change : Tables → Except DatabaseFault (α × Tables)) :
    Bypasses store archive (archive.transact other change).2 :=
  shut.changing fun apart _ free => free.transact apart

theorem close (shut : archive.IsShut store) (other : Nat) :
    Bypasses store archive (archive.close other) := by
  have undone : Bypasses store archive
      (archive.setDatabaseOf other ((archive.databaseOf other).rollback other)) :=
    .setDatabase fun free => free.rollback
  by_cases same : other = store
  · subst same
    rwa [close_of_closed shut.closed]
  · exact (undone.trans (.setHandle same)).trans (.releaseAll store _)

theorem attach (shut : archive.IsShut store) (address : Address) (writer : Connection) :
    Bypasses store archive (archive.attach address writer).2 := by
  have known : Bypasses store archive { archive with
      handles := archive.handles ++ [⟨address, writer, [], false⟩] } := by
    refine ⟨by simp, ?_, fun _ free => free⟩
    simp [Archive.handle, List.getD_eq_getElem?_getD, List.getElem?_append_left shut.present]
  unfold Archive.attach
  dsimp only
  split
  · exact known
  · have made := known.trans ((shut.of_bypasses known).transact archive.handles.length
      fun tables => .ok ((), tables.ensure))
    split
    · rename_i outcome
      rw [outcome] at made
      exact made
    · rename_i outcome
      rw [outcome] at made
      exact made.trans ((shut.of_bypasses made).close _)

theorem openStore (shut : archive.IsShut store) (location : Location) :
    Bypasses store archive (archive.openStore location).2 := by
  unfold Archive.openStore
  split
  · exact .refl store archive
  · rw [named_snd]
    split
    · exact .refl store archive
    · rename_i address _
      have connected : Bypasses store archive (archive.connect address).2 :=
        .of_connects (archive.connect_connects address)
      unfold Archive.openAddress
      split
      · rename_i outcome
        rw [outcome] at connected
        exact connected
      · rename_i outcome
        rw [outcome] at connected
        exact connected.trans ((shut.of_bypasses connected).attach address _)

theorem stamp (shut : archive.IsShut store) : archive.stamp.2.IsShut store :=
  shut.of_bypasses (.of_files store archive _ _)

theorem upsert (shut : archive.IsShut store) (other : Nat) (path : String)
    (content? : Option String) (tokens : List String) (hash? : Option String) :
    Bypasses store archive (archive.upsert other path content? tokens hash?).2 := by
  unfold Archive.upsert
  split
  · exact .refl store archive
  · rw [named_snd]
    exact Bypasses.trans (.of_files store archive _ _) (shut.stamp.transact other _)

theorem delete (shut : archive.IsShut store) (other : Nat) (path : String) :
    Bypasses store archive (archive.delete other path).2 := by
  unfold Archive.delete
  split
  · exact .refl store archive
  · rw [named_snd]
    exact shut.transact other _

theorem recordRoot (shut : archive.IsShut store) (other : Nat) (root : String) :
    Bypasses store archive (archive.recordRoot other root).2 := by
  unfold Archive.recordRoot
  split
  · exact .refl store archive
  · rw [named_snd]
    exact Bypasses.trans (.of_files store archive _ _) (shut.stamp.transact other _)

theorem getHash (shut : archive.IsShut store) (other thread : Nat) (path : String) :
    Bypasses store archive (archive.getHash other thread path).2 := by
  unfold Archive.getHash
  split
  · exact .refl store archive
  · exact shut.query other thread _ _

theorem listDocuments (shut : archive.IsShut store) (other thread : Nat) (limit : Int) :
    Bypasses store archive (archive.listDocuments other thread limit).2 := by
  rw [listDocuments_snd]
  exact shut.query other thread _ _

theorem perform (shut : archive.IsShut store) (call : StoreCall) :
    Bypasses store archive (archive.perform call).2 := by
  cases call with
  | openStore location => exact shut.openStore location
  | close other => exact shut.close other
  | upsert other path content? tokens hash? => exact shut.upsert other path content? tokens hash?
  | delete other path => exact shut.delete other path
  | recordRoot other root => exact shut.recordRoot other root
  | getHash other thread path => exact shut.getHash other thread path
  | listPaths other thread => exact shut.query other thread .listPaths Tables.paths
  | listDocuments other thread limit => exact shut.listDocuments other thread limit
  | listRoots other thread => exact shut.query other thread .listRoots Tables.rootScans
  | stats other thread => exact shut.query other thread .stats Tables.stats

end IsShut

/-- A store that is there is closed by its close. -/
theorem isShut_close (present : store < archive.handles.length) :
    (archive.close store).IsShut store := by
  let ended : Handle := { archive.handle store with closed := true }
  let undone := archive.setDatabaseOf store ((archive.databaseOf store).rollback store)
  have handle : (undone.setHandle store ended).handle store = ended := handle_setHandle_self present
  have marked : (undone.setHandle store ended).IsShut store := by
    refine ⟨by simpa [undone, setDatabaseOf, setDatabase, setHandle] using present, ?_, ?_⟩
    · rw [handle]
    · rw [databaseOf, handle]
      exact free_setDatabase_self (Database.isFreeOf_rollback _ store)
  exact marked.of_bypasses (.releaseAll store _)

end Archive

end FolderIndex
