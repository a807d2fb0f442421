import FolderIndex.Proofs.Hosting

namespace FolderIndex

/-! A database in memory or in a place of the file tree, the stores on it, and one among them that
may have changes pending. -/

/-- What is committed in a database, what one writer has pending, and the clock. -/
structure Ledger where
  committed : Tables
  pending? : Option Tables
  clock : Clock

namespace Ledger

variable {α : Type}

/-- The tables with what is pending. -/
def current (ledger : Ledger) : Tables :=
  ledger.pending?.getD ledger.committed

/-- A change that is left pending. -/
def write (ledger : Ledger) (change : Tables → Except DatabaseFault (α × Tables)) :
    Except DatabaseFault α × Ledger :=
  match change ledger.current with
  | .ok (value, tables) => (.ok value, { ledger with pending? := some tables })
  | .error fault => (.error fault, ledger)

def commit (ledger : Ledger) : Ledger :=
  { ledger with committed := ledger.current, pending? := none }

def rollback (ledger : Ledger) : Ledger :=
  { ledger with pending? := none }

/-- A change with which everything pending is committed, or discarded where the change fails. -/
def transact (ledger : Ledger) (change : Tables → Except DatabaseFault (α × Tables)) :
    Except DatabaseFault α × Ledger :=
  match change ledger.current with
  | .ok (value, tables) => (.ok value, { ledger with committed := tables, pending? := none })
  | .error fault => (.error fault, ledger.rollback)

end Ledger

/-- A database of which a ledger is kept, in which only one writer has anything pending. -/
structure Database.Shows (database : Database) (own : Nat) (ledger : Ledger) : Prop where
  committed : database.committed = ledger.committed
  pending : database.pending? = ledger.pending?.map fun tables => (own, tables)

namespace Database.Shows

variable {α : Type} {database : Database} {own : Nat} {ledger : Ledger}

theorem seenBy (shows : database.Shows own ledger) : database.seenBy own = .ok ledger.current := by
  have pending := shows.pending
  unfold Database.seenBy Ledger.current
  cases held : ledger.pending? with
  | none =>
      rw [held] at pending
      simp only [pending, Option.map_none, Option.getD_none, shows.committed]
  | some tables =>
      rw [held] at pending
      simp [pending]

theorem commit (shows : database.Shows own ledger) : (database.commit own).Shows own ledger.commit := by
  have pending := shows.pending
  unfold Database.commit Ledger.commit Ledger.current
  cases held : ledger.pending? with
  | none =>
      rw [held, Option.map_none] at pending
      rw [pending]
      exact ⟨shows.committed, pending⟩
  | some tables =>
      rw [held, Option.map_some] at pending
      simp only [pending, if_true]
      exact ⟨rfl, rfl⟩

theorem rollback (shows : database.Shows own ledger) :
    (database.rollback own).Shows own ledger.rollback := by
  refine ⟨Database.rollback_committed.trans shows.committed, ?_⟩
  have pending := shows.pending
  unfold Database.rollback
  cases held : ledger.pending? with
  | none =>
      rw [held, Option.map_none] at pending
      rw [pending]
      exact pending
  | some tables =>
      rw [held, Option.map_some] at pending
      simp only [pending, if_true]
      rfl

theorem write (shows : database.Shows own ledger)
    (change : Tables → Except DatabaseFault (α × Tables)) :
    (database.write own change).1 = (ledger.write change).1 ∧
      (database.write own change).2.Shows own (ledger.write change).2 := by
  unfold Database.write Ledger.write
  rw [shows.seenBy]
  dsimp only
  cases change ledger.current with
  | error fault => exact ⟨rfl, shows⟩
  | ok result => exact ⟨rfl, shows.committed, rfl⟩

theorem transact (shows : database.Shows own ledger)
    (change : Tables → Except DatabaseFault (α × Tables)) :
    (database.transact own change).1 = (ledger.transact change).1 ∧
      (database.transact own change).2.Shows own (ledger.transact change).2 := by
  obtain ⟨same, written⟩ := shows.write change
  unfold Database.transact Ledger.transact
  cases outcome : database.write own change with
  | mk result after =>
      rw [outcome] at same written
      unfold Ledger.write at same written
      cases changed : change ledger.current with
      | error fault =>
          rw [changed] at same written
          cases same
          exact ⟨rfl, written.rollback⟩
      | ok changes =>
          rw [changed] at same written
          cases same
          exact ⟨rfl, written.commit⟩

end Database.Shows

/-- A database and where it is kept: in memory, or in a place of the file tree. -/
structure Seat where
  number : Nat
  place? : Option (List String)
deriving DecidableEq, Repr

namespace Seat

def connection (seat : Seat) : Connection := ⟨seat.number, seat.place?, false⟩

/-- The tables that are read: a database in memory shows what is pending. -/
def shown (seat : Seat) (ledger : Ledger) : Tables :=
  match seat.place? with
  | none => ledger.current
  | some _ => ledger.committed

end Seat

/-- An open store on a seat. -/
structure Handle.Sits (handle : Handle) (files : FileTree) (seat : Seat) : Prop where
  opened : handle.closed = false
  writer : handle.writer = seat.connection
  memory : seat.place? = none → handle.address = .memory
  placed : ∀ place, seat.place? = some place →
    files.Clear place ∧ files.node? place = some (.index seat.number) ∧
      handle.On files place seat.number

namespace Archive

variable {α : Type} {archive after : Archive} {seat : Seat} {own store other : Nat}
  {ledger next : Ledger} {database : Database} {place : List String}

/-- A store on a database that is there. -/
structure Serves (archive : Archive) (seat : Seat) (store : Nat) : Prop where
  present : seat.number < archive.databases.length
  sits : (archive.handle store).Sits archive.files seat

/-- An archive whose database and clock are those of a ledger. -/
structure Keeps (archive : Archive) (seat : Seat) (own : Nat) (ledger : Ledger) : Prop where
  shows : (archive.database seat.number).Shows own ledger
  clock : archive.clock = ledger.clock

/-- What a call leaves: a ledger, and the stores where they were. -/
structure Moves (archive : Archive) (seat : Seat) (own : Nat) (ledger : Ledger) (after : Archive) :
    Prop where
  keeps : after.Keeps seat own ledger
  serves : ∀ {store}, archive.Serves seat store → after.Serves seat store

theorem Keeps.stays (keeps : archive.Keeps seat own ledger) :
    archive.Moves seat own ledger archive :=
  ⟨keeps, id⟩

theorem Moves.trans {between : Archive} (first : archive.Moves seat own ledger between)
    (second : between.Moves seat own next after) : archive.Moves seat own next after :=
  ⟨second.keeps, fun serves => second.serves (first.serves serves)⟩

theorem Serves.database_eq (serves : archive.Serves seat store) :
    archive.databaseOf store = archive.database seat.number := by
  rw [databaseOf, serves.sits.writer]
  rfl

theorem Serves.setDatabaseOf_eq (serves : archive.Serves seat store) :
    archive.setDatabaseOf store database = archive.setDatabase seat.number database := by
  rw [setDatabaseOf, serves.sits.writer]
  rfl

theorem Serves.stored (serves : archive.Serves seat store) :
    (archive.setDatabase seat.number database).Serves seat store := by
  refine ⟨?_, serves.sits⟩
  have length : (archive.setDatabase seat.number database).databases.length =
      archive.databases.length := List.length_set
  rw [length]
  exact serves.present

theorem Serves.not_isSpoiled (serves : archive.Serves seat store) :
    archive.isSpoiled seat.connection = false := by
  obtain ⟨number, place?⟩ := seat
  cases place? with
  | none => exact isSpoiled_of_place?_eq_none rfl
  | some place => exact not_isSpoiled_of_indexed (serves.sits.placed place rfl).2.1

/-- An open store on a database that is in its place. -/
theorem Hosts.serves {number : Nat} {tables : Tables} (hosts : archive.Hosts place number tables)
    (open' : (archive.handle store).closed = false) :
    archive.Serves ⟨number, some place⟩ store := by
  have on := hosts.on open'
  refine ⟨hosts.present, ⟨open', on.writer, nofun, ?_⟩⟩
  intro spot same
  cases same
  exact ⟨hosts.clear, hosts.indexed, on⟩

theorem Serves.moves (serves : archive.Serves seat store) (shows : database.Shows own ledger)
    (clock : archive.clock = ledger.clock) :
    archive.Moves seat own ledger (archive.setDatabase seat.number database) := by
  refine ⟨⟨?_, clock⟩, fun others => others.stored⟩
  rw [database_setDatabase_self serves.present]
  exact shows

/-! Changes. -/

theorem Serves.changing (serves : archive.Serves seat store)
    (apply : Database → Except DatabaseFault α × Database) :
    archive.changing store change apply =
      ((apply (archive.database seat.number)).1,
        archive.setDatabase seat.number (apply (archive.database seat.number)).2) := by
  have opened : ¬ (archive.handle store).closed = true := by simp [serves.sits.opened]
  have sound : ¬ archive.isSpoiled (archive.handle store).writer = true := by
    rw [serves.sits.writer, serves.not_isSpoiled]
    exact Bool.false_ne_true
  have allowed : ¬ (archive.handle store).writer.readOnly = true := by
    rw [serves.sits.writer]
    exact Bool.false_ne_true
  unfold Archive.changing
  dsimp only
  rw [if_neg opened, if_neg sound, if_neg allowed, serves.database_eq, serves.setDatabaseOf_eq]

theorem Keeps.write (keeps : archive.Keeps seat own ledger) (serves : archive.Serves seat own)
    (change : Tables → Except DatabaseFault (α × Tables)) :
    ∃ after, archive.write own change = ((ledger.write change).1, after) ∧
      archive.Moves seat own (ledger.write change).2 after := by
  obtain ⟨same, shows⟩ := keeps.shows.write change
  have clock : archive.clock = (ledger.write change).2.clock := by
    rw [keeps.clock]
    unfold Ledger.write
    split <;> rfl
  refine ⟨_, ?_, serves.moves shows clock⟩
  rw [Archive.write, serves.changing, same]

/-- A transaction takes in what its own store has pending. -/
theorem Keeps.transact (keeps : archive.Keeps seat own ledger) (serves : archive.Serves seat own)
    (change : Tables → Except DatabaseFault (α × Tables)) :
    ∃ after, archive.transact own change = ((ledger.transact change).1, after) ∧
      archive.Moves seat own (ledger.transact change).2 after := by
  obtain ⟨same, shows⟩ := keeps.shows.transact change
  have clock : archive.clock = (ledger.transact change).2.clock := by
    rw [keeps.clock]
    unfold Ledger.transact
    split <;> rfl
  refine ⟨_, ?_, serves.moves shows clock⟩
  rw [Archive.transact, serves.changing, same]

theorem Keeps.commit (keeps : archive.Keeps seat own ledger) (serves : archive.Serves seat own) :
    ∃ after, archive.commit own = (.ok (), after) ∧ archive.Moves seat own ledger.commit after := by
  refine ⟨_, ?_, serves.moves keeps.shows.commit keeps.clock⟩
  unfold Archive.commit
  rw [if_neg (by simp [serves.sits.opened]), serves.database_eq, serves.setDatabaseOf_eq]

theorem Keeps.rollback (keeps : archive.Keeps seat own ledger) (serves : archive.Serves seat own) :
    ∃ after, archive.rollback own = (.ok (), after) ∧
      archive.Moves seat own ledger.rollback after := by
  refine ⟨_, ?_, serves.moves keeps.shows.rollback keeps.clock⟩
  unfold Archive.rollback
  rw [if_neg (by simp [serves.sits.opened]), serves.database_eq, serves.setDatabaseOf_eq]

/-- Time passes for the archive and for its ledger. -/
theorem Keeps.timed (keeps : archive.Keeps seat own ledger) (clock : Clock) :
    archive.Moves seat own { ledger with clock := clock } { archive with clock := clock } :=
  ⟨⟨⟨keeps.shows.committed, keeps.shows.pending⟩, rfl⟩,
    fun serves => ⟨serves.present, serves.sits⟩⟩

/-! Reading. -/

theorem handle_setHandle_self {handle : Handle} (present : store < archive.handles.length) :
    (archive.setHandle store handle).handle store = handle := by
  simp [setHandle, Archive.handle, List.getD_eq_getElem?_getD, present]

theorem handle_setHandle_ne {handle : Handle} (apart : store ≠ other) :
    (archive.setHandle store handle).handle other = archive.handle other := by
  simp [setHandle, Archive.handle, List.getD_eq_getElem?_getD, List.getElem?_set_ne apart]

/-- The stores on a place stay there when one of them gets a reader more, and the companions of
the database are put beside it. -/
theorem Serves.read_anew {files : FileTree} {thread : Nat} (serves : archive.Serves seat store)
    (placed : seat.place? = some place) (becomes : archive.files.Becomes place files)
    (houses : files.Houses place seat.number) (others : archive.Serves seat other) :
    let new : Handle := { archive.handle store with
      readers := (thread, seat.connection) :: (archive.handle store).readers }
    (({ archive with files := files } : Archive).setHandle store new).Serves seat other := by
  intro new
  refine ⟨others.present, ?_⟩
  obtain ⟨clear, _, on⟩ := others.sits.placed place placed
  have onFiles := on.becomes becomes houses
  by_cases same : store = other
  · subst same
    have handle : (({ archive with files := files } : Archive).setHandle store new).handle store =
        new := handle_setHandle_self (lt_of_opened serves.sits.opened)
    rw [handle]
    refine ⟨serves.sits.opened, serves.sits.writer, serves.sits.memory, fun spot spotted => ?_⟩
    rw [placed] at spotted
    cases spotted
    refine ⟨clear.becomes becomes, houses.indexed, onFiles.address, onFiles.writer, ?_,
      onFiles.logged⟩
    intro reader member
    rcases List.mem_cons.mp member with rfl | old
    · exact congrArg (Connection.mk seat.number · false) placed
    · exact onFiles.readers reader old
  · have handle : (({ archive with files := files } : Archive).setHandle store new).handle other =
        archive.handle other := handle_setHandle_ne same
    rw [handle]
    refine ⟨others.sits.opened, others.sits.writer, others.sits.memory, fun spot spotted => ?_⟩
    rw [placed] at spotted
    cases spotted
    exact ⟨clear.becomes becomes, houses.indexed, onFiles⟩

/-- Every thread reads what is committed in a place; in memory, the one store there reads what it
has pending, too. -/
theorem Keeps.reading (keeps : archive.Keeps seat own ledger) (serves : archive.Serves seat store)
    (alone : seat.place? = none → store = own) (thread : Nat) (operation : StoreOperation) :
    ∃ after, archive.reading store thread operation = (.ok (seat.shown ledger), after) ∧
      archive.Moves seat own ledger after ∧ after.databases = archive.databases := by
  have opened : ¬ (archive.handle store).closed = true := by simp [serves.sits.opened]
  unfold Archive.reading
  dsimp only
  cases placed : seat.place? with
  | none =>
      have same := alone placed
      subst same
      refine ⟨archive, ?_, keeps.stays, rfl⟩
      rw [if_pos (serves.sits.memory placed), if_neg opened, serves.database_eq,
        keeps.shows.seenBy]
      simp only [Seat.shown, placed]
  | some place =>
      obtain ⟨clear, indexed, on⟩ := serves.sits.placed place placed
      obtain ⟨target, address, leads⟩ := on.address
      have own' : seat.connection = ⟨seat.number, some place, false⟩ :=
        congrArg (Connection.mk seat.number · false) placed
      have shown : seat.shown ledger = ledger.committed := by simp only [Seat.shown, placed]
      rw [if_neg (by simp [address]), shown]
      cases found : (archive.handle store).readers.lookup thread with
      | some connection =>
          obtain ⟨before, later, split, _⟩ := List.lookup_eq_some_iff.mp found
          have same : connection = seat.connection := by
            rw [own']
            exact on.readers (thread, connection) (by simp [split])
          subst same
          refine ⟨archive, ?_, keeps.stays, rfl⟩
          have read : archive.reader store thread operation = (.ok seat.connection, archive) := by
            simp [reader, found, serves.sits.opened, serves.not_isSpoiled]
          rw [read]
          exact congrArg (fun tables => (Except.ok tables, archive)) keeps.shows.committed
      | none =>
          obtain ⟨files, made, becomes, houses⟩ :=
            connect_of_indexed clear indexed (not_lacksLog_of_houses ⟨indexed, on.logged⟩) leads
          let connected : Archive := { archive with files := files }
          let new : Handle := { archive.handle store with
            readers := (thread, seat.connection) :: (archive.handle store).readers }
          have known : connected.withReader store thread seat.connection =
              connected.setHandle store new :=
            withReader_own (by
              change seat.connection.database = (archive.handle store).writer.database
              rw [serves.sits.writer])
          have read : archive.reader store thread operation =
              (.ok seat.connection, connected.setHandle store new) := by
            simp [reader, found, serves.sits.opened, address, made, ← own', ← known, connected]
          refine ⟨connected.setHandle store new, ?_, ⟨⟨keeps.shows, keeps.clock⟩, ?_⟩, rfl⟩
          · rw [read]
            exact congrArg (fun tables => (Except.ok tables, connected.setHandle store new))
              keeps.shows.committed
          · exact fun others => serves.read_anew placed becomes houses others

/-- The answer to a question about the tables that are read. -/
theorem Keeps.query (keeps : archive.Keeps seat own ledger) (serves : archive.Serves seat store)
    (alone : seat.place? = none → store = own) (thread : Nat) (operation : StoreOperation)
    (ask : Tables → Except DatabaseFault α) :
    ∃ after, archive.query store thread operation ask =
        ((ask (seat.shown ledger)).mapError fun fault => .store (.refused operation fault), after) ∧
      archive.Moves seat own ledger after := by
  obtain ⟨after, read, moves, _⟩ := keeps.reading serves alone thread operation
  refine ⟨after, ?_, moves⟩
  rw [Archive.query, read]
  cases answer : ask (seat.shown ledger) <;> simp only [answer] <;> rfl

end Archive

end FolderIndex
