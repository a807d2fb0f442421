import FolderIndex.Archive.Connection

namespace FolderIndex

/-! The stores in use: what is read and written through them. -/

namespace Archive

/-- The database that a store writes to. -/
def databaseOf (archive : Archive) (store : Nat) : Database :=
  archive.database (archive.handle store).writer.database

/-- What is committed in the database that a store writes to. -/
def committed (archive : Archive) (store : Nat) : Tables :=
  (archive.databaseOf store).committed

/-- The archive with another state of the database that a store writes to. -/
def setDatabaseOf (archive : Archive) (store : Nat) (database : Database) : Archive :=
  archive.setDatabase (archive.handle store).writer.database database

/-- The value an operation gives or its failure, and the archive afterwards. -/
abbrev Outcome (α : Type) := Except Failure α × Archive

/-- A change of the database that a store writes to, if that is open and may be written. -/
def changing {α : Type} (archive : Archive) (store : Nat)
    (change : Tables → Except DatabaseFault (α × Tables))
    (apply : Database → Except DatabaseFault α × Database) : Except DatabaseFault α × Archive :=
  let handle := archive.handle store
  let database := archive.databaseOf store
  if handle.closed then (.error .closed, archive)
  else if archive.isSpoiled handle.writer then (.error .malformed, archive)
  else if handle.writer.readOnly then (.error (database.refusal change), archive)
  else
    let (outcome, after) := apply database
    (outcome, archive.setDatabaseOf store after)

/-- A change that is left pending. -/
def write {α : Type} (archive : Archive) (store : Nat)
    (change : Tables → Except DatabaseFault (α × Tables)) : Except DatabaseFault α × Archive :=
  archive.changing store change (·.write store change)

/-- A change in a transaction of its own, or in the one that is open. -/
def transact {α : Type} (archive : Archive) (store : Nat)
    (change : Tables → Except DatabaseFault (α × Tables)) : Except DatabaseFault α × Archive :=
  archive.changing store change (·.transact store change)

def commit (archive : Archive) (store : Nat) : Except DatabaseFault Unit × Archive :=
  if (archive.handle store).closed then (.error .closed, archive)
  else (.ok (), archive.setDatabaseOf store ((archive.databaseOf store).commit store))

def rollback (archive : Archive) (store : Nat) : Except DatabaseFault Unit × Archive :=
  if (archive.handle store).closed then (.error .closed, archive)
  else (.ok (), archive.setDatabaseOf store ((archive.databaseOf store).rollback store))

/-- The archive with a new connection for a thread to read a store with. One that finds its file
gone comes to a database that nothing was written to, and takes the log of the old one away. -/
def withReader (archive : Archive) (store thread : Nat) (connection : Connection) : Archive :=
  let handle := archive.handle store
  let known := archive.setHandle store
    { handle with readers := (thread, connection) :: handle.readers }
  if connection.database ≠ handle.writer.database &&
      (archive.database connection.database).committed.isBlank then
    { known with databases := archive.withoutLogsAt connection.place? }
  else known

/-- The connection that a thread reads a store with, which is made when it first reads. -/
def reader (archive : Archive) (store thread : Nat) (operation : StoreOperation) :
    Except StoreFailure Connection × Archive :=
  let handle := archive.handle store
  match handle.readers.lookup thread with
  | some connection =>
      if handle.closed then (.error (.refused operation .closed), archive)
      else if archive.isSpoiled connection then (.error (.refused operation .malformed), archive)
      else (.ok connection, archive)
  | none =>
      if handle.closed then (.error .closed, archive)
      else
        match archive.connect handle.address with
        | (.error fault, after) => (.error (.refused operation fault), after)
        | (.ok connection, after) => (.ok connection, after.withReader store thread connection)

/-- The tables that a thread reads through a store. A database in memory has one connection,
which sees what is pending. Else every thread has its own, which sees what is committed; a
thread that comes only after the store was closed gets none. -/
def reading (archive : Archive) (store thread : Nat) (operation : StoreOperation) :
    Except StoreFailure Tables × Archive :=
  let handle := archive.handle store
  if handle.address = .memory then
    if handle.closed then (.error (.refused operation .closed), archive)
    else
      match (archive.databaseOf store).seenBy store with
      | .ok tables => (.ok tables, archive)
      | .error fault => (.error (.refused operation fault), archive)
  else
    match archive.reader store thread operation with
    | (.ok connection, after) => (.ok (after.database connection.database).committed, after)
    | (.error failure, after) => (.error failure, after)

def query {α : Type} (archive : Archive) (store thread : Nat) (operation : StoreOperation)
    (ask : Tables → Except DatabaseFault α) : Outcome α :=
  match archive.reading store thread operation with
  | (.error failure, after) => (.error (.store failure), after)
  | (.ok tables, after) =>
      match ask tables with
      | .ok value => (.ok value, after)
      | .error fault => (.error (.store (.refused operation fault)), after)

/-- The outcome of a write, its fault named by the operation. -/
def named {α : Type} (operation : StoreOperation) (outcome : Except DatabaseFault α × Archive) :
    Outcome α :=
  match outcome with
  | (.ok value, after) => (.ok value, after)
  | (.error fault, after) => (.error (.store (.refused operation fault)), after)

/-- The time that the clock shows, as text, and the archive with the clock moved on. -/
def stamp (archive : Archive) : String × Archive :=
  let (now, clock) := archive.clock.read
  (now.toText, { archive with clock := clock })

def upsert (archive : Archive) (store : Nat) (path : String) (content? : Option String)
    (tokens : List String) (hash? : Option String) : Outcome Unit :=
  if Text.isBlankText path then (.error (.store .blankPath), archive)
  else
    let (time, archive) := archive.stamp
    named (.upsert path)
      (archive.transact store (·.insert true ⟨path, content?, Text.joinWords tokens, hash?, time⟩))

/-- The hash of the document at a path, if there is one. -/
def getHash (archive : Archive) (store thread : Nat) (path : String) : Outcome (Option String) :=
  if Text.isBlankText path then (.error (.store .blankPath), archive)
  else archive.query store thread (.getHash path) (·.hashOf path)

def listPaths (archive : Archive) (store thread : Nat) : Outcome (List String) :=
  archive.query store thread .listPaths Tables.paths

/-- The greatest number that a limit may be, one below two to the sixty-third. -/
def greatestLimit : Int := 0x7FFFFFFFFFFFFFFF

def listDocuments (archive : Archive) (store thread : Nat) (limit : Int) :
    Outcome (List Document) :=
  match archive.query store thread .listDocuments (·.documents limit) with
  | (.ok documents, after) =>
      if greatestLimit < limit then (.error .limitTooLarge, after) else (.ok documents, after)
  | failed => failed

/-- Whether there was a document at the path, which is removed. -/
def delete (archive : Archive) (store : Nat) (path : String) : Outcome Bool :=
  if Text.isBlankText path then (.error (.store .blankPath), archive)
  else named (.delete path) (archive.transact store (·.delete path))

def recordRoot (archive : Archive) (store : Nat) (root : String) : Outcome Unit :=
  if Text.isBlankText root then (.error (.store .blankPath), archive)
  else
    let (time, archive) := archive.stamp
    named (.recordRoot root) (archive.transact store (·.recordRoot ⟨root, time⟩))

def listRoots (archive : Archive) (store thread : Nat) : Outcome (List RootScan) :=
  archive.query store thread .listRoots Tables.rootScans

def stats (archive : Archive) (store thread : Nat) : Outcome IndexStats :=
  archive.query store thread .stats Tables.stats

/-- The outcome of a change that no operation names. -/
def bare {α : Type} (outcome : Except DatabaseFault α × Archive) : Outcome α :=
  match outcome with
  | (.ok value, after) => (.ok value, after)
  | (.error fault, after) => (.error (.database fault), after)

def drop (archive : Archive) (store : Nat) (table : TableName) : Outcome Unit :=
  bare (archive.transact store (·.drop table))

def addTrigger (archive : Archive) (store : Nat) (trigger : Trigger) : Outcome Unit :=
  bare (archive.transact store (·.addTrigger trigger))

/-- A row put into the open transaction of a store. -/
def insertPending (archive : Archive) (store : Nat) (draft : Draft) : Outcome Unit :=
  bare (archive.write store (·.insert false draft))

/-- The store without its connections; what was pending is lost. -/
def close (archive : Archive) (store : Nat) : Archive :=
  let handle := archive.handle store
  let undone := archive.setDatabaseOf store ((archive.databaseOf store).rollback store)
  handle.connections.foldl release (undone.setHandle store { handle with closed := true })

/-- A new store on a connection, with the tables that it lacks. Where they cannot be made, the
connection ends. -/
def attach (archive : Archive) (address : Address) (writer : Connection) :
    Except DatabaseFault Nat × Archive :=
  let store := archive.handles.length
  let archive := { archive with handles := archive.handles ++ [⟨address, writer, [], false⟩] }
  if (archive.database writer.database).committed.isComplete then (.ok store, archive)
  else
    match archive.transact store fun tables => .ok ((), tables.ensure) with
    | (.ok _, after) => (.ok store, after)
    | (.error fault, after) => (.error fault, after.close store)

/-- A store on the database that an address stands for. -/
def openAddress (archive : Archive) (address : Address) : Except DatabaseFault Nat × Archive :=
  match archive.connect address with
  | (.error fault, after) => (.error fault, after)
  | (.ok writer, after) => after.attach address writer

/-- A store on the database that goes by the name of a location. -/
def openStore (archive : Archive) (location : Location) : Outcome Nat :=
  if FileTree.hasNull location then (.error .nullInPath, archive)
  else
    named (.openAt location.toString)
      (match Address.ofName location.toString with
      | .error fault => (.error (.badAddress fault), archive)
      | .ok address => archive.openAddress address)

end Archive

end FolderIndex
