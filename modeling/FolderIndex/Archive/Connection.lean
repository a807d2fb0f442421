import FolderIndex.Database
import FolderIndex.Database.Address
import FolderIndex.FileTree.Place
import FolderIndex.Instant

namespace FolderIndex

/-! Connections to databases: what is in use, what a new connection finds at its place, and what
the last one leaves there. -/

/-- A connection: its database, the place of that in the file tree if it has one, and whether it
may only be read. -/
structure Connection where
  database : Nat
  place? : Option (List String)
  readOnly : Bool
deriving DecidableEq, Repr

/-- A store that was opened: what it was opened by, the connection that it writes with, and one
for each thread that has read through it. -/
structure Handle where
  address : Address
  writer : Connection
  readers : List (Nat × Connection)
  closed : Bool
deriving DecidableEq, Repr

namespace Handle

def absent : Handle := ⟨.memory, ⟨0, none, false⟩, [], true⟩

def connections (handle : Handle) : List Connection :=
  if handle.closed then [] else handle.writer :: handle.readers.map (·.2)

end Handle

/-- The file tree, the databases, the stores in use, and the clock that stamps what is written. -/
structure Archive where
  files : FileTree
  databases : List Database
  handles : List Handle
  clock : Clock

namespace Archive

def initial (files : FileTree) (clock : Clock) : Archive :=
  ⟨files, [], [], clock⟩

def handle (archive : Archive) (store : Nat) : Handle :=
  archive.handles.getD store .absent

def database (archive : Archive) (number : Nat) : Database :=
  archive.databases.getD number .empty

def setDatabase (archive : Archive) (number : Nat) (database : Database) : Archive :=
  { archive with databases := archive.databases.set number database }

def setHandle (archive : Archive) (store : Nat) (handle : Handle) : Archive :=
  { archive with handles := archive.handles.set store handle }

/-- All connections that are open. -/
def connections (archive : Archive) : List Connection :=
  archive.handles.flatMap Handle.connections

/-- Whether a database has an open connection. -/
def isInUse (archive : Archive) (number : Nat) : Bool :=
  archive.connections.any (·.database = number)

/-- A connection or the fault that there is instead, and the archive afterwards. -/
abbrev Connecting := Except DatabaseFault Connection × Archive

/-- A connection to a database of its own, which is kept in no file. -/
def connectApart (archive : Archive) (database : Database) (readOnly : Bool) : Connecting :=
  (.ok ⟨archive.databases.length, none, readOnly⟩,
    { archive with databases := archive.databases ++ [database] })

/-- The databases without the logs that connections at a place write to. -/
def withoutLogsAt (archive : Archive) (place? : Option (List String)) : List Database :=
  archive.databases.mapIdx fun number database =>
    if place?.isSome && archive.connections.any fun connection =>
        connection.database = number && connection.place? = place? then
      database.withoutLog
    else database

/-- What keeps a new database from being made at a place, if anything does. -/
def obstacle? (files : FileTree) (place : List String) : Option DatabaseFault :=
  if files.isDirectoryAt (Companion.log.place place) then some .ioError
  else if nameLimit < (Companion.journal.name place).utf8ByteSize ||
      files.isDirectoryAt (Companion.journal.place place) ||
      [Companion.journal, .log, .logIndex].any fun companion =>
        files.isLinkAt (companion.place place) then
    some .cannotOpen
  else none

/-- A connection to a new database in a file, which is left empty where none can be made. -/
def connectFresh (archive : Archive) (place : List String) (mayWrite : Bool) : Connecting :=
  let number := archive.databases.length
  let files := archive.files.putIfFree place (.file [])
  if !mayWrite then (.error .readOnly, { archive with files := files })
  else
    match obstacle? files place with
    | some fault => (.error fault, { archive with files := files })
    | none =>
        (.ok ⟨number, some place, files.isDirectoryAt (Companion.logIndex.place place)⟩,
          { archive with
            files := (files.putAt place (.index number)).withCompanions place number
            databases := archive.databases ++ [.empty] })

/-- What keeps a file that is not empty from being looked at, if anything does: a directory beside
it, in the place of a companion. -/
def blockade? (files : FileTree) (place : List String) : Option DatabaseFault :=
  if files.isDirectoryAt (Companion.journal.place place) then some .ioError
  else if files.isDirectoryAt (Companion.log.place place) then some .cannotOpen
  else none

/-- Whether the log of a database is not beside a place. -/
def lacksLog (archive : Archive) (place : List String) (number : Nat) : Bool :=
  (archive.database number).log?.isSome && archive.files.loggedBeside? place ≠ some number

/-- What keeps a connection from the database at a place, if anything does. The log of one in
use must be where it is looked for. -/
def hindrance? (archive : Archive) (place : List String) (number : Nat) : Option DatabaseFault :=
  let files := archive.files
  let outOfReach := nameLimit < (Companion.log.name place).utf8ByteSize ||
    [Companion.log, .logIndex].any fun companion => files.isLinkAt (companion.place place)
  (blockade? files place).or
    (if outOfReach then some .cannotOpen
    else if archive.isInUse number && archive.lacksLog place number then some .ioError
    else none)

/-- A connection to a database that is there. A log that was left elsewhere is lost. -/
def connectPresent (archive : Archive) (place : List String) (mayWrite : Bool) (number : Nat) :
    Connecting :=
  match archive.hindrance? place number with
  | some fault => (.error fault, archive)
  | none =>
      let database := archive.database number
      let found := if archive.lacksLog place number then database.withoutLog else database
      let taken := archive.files.isDirectoryAt (Companion.logIndex.place place)
      let files :=
        if archive.isInUse number then archive.files.withLog place number
        else archive.files.withCompanions place number
      (.ok ⟨number, some place, !mayWrite || taken⟩,
        { archive.setDatabase number found with files := files })

/-- The database that lies in the log beside a place, whatever was written over its file. -/
def logged? (archive : Archive) (place : List String) : Option Nat :=
  (archive.files.loggedBeside? place).filter fun number => (archive.database number).isAllInLog

/-- A connection to what is at a place. A file of a single octet is as good as an empty one, and
an empty one is a database that nothing was written to, unless one that was there is in use. -/
def connectPlace (archive : Archive) (place : List String) (access : Access) (fixed : Bool) :
    Connecting :=
  let mayWrite := access ≠ .read && !fixed
  match archive.files.node? place with
  | none =>
      if access = .create && archive.files.isDirectoryAt place.dropLast then
        archive.connectFresh place mayWrite
      else (.error .cannotOpen, archive)
  | some (.index number) =>
      if fixed then archive.connectApart (.ofTables (archive.database number).saved) true
      else archive.connectPresent place mayWrite number
  | some (.file octets) =>
      if octets.length ≤ 1 then
        if mayWrite && archive.connections.any (·.place? = some place) then
          (.error .locked, archive)
        else archive.connectFresh place mayWrite
      else
        match archive.logged? place with
        | some number => archive.connectPresent place mayWrite number
        | none => (.error ((blockade? archive.files place).getD .notDatabase), archive)
  | some _ => (.error (if access = .read then .ioError else .cannotOpen), archive)

/-- A connection to what an address stands for. -/
def connect (archive : Archive) (address : Address) : Connecting :=
  match address with
  | .memory => archive.connectApart .empty false
  | .apart access => archive.connectApart .empty (access = .read)
  | .common _ =>
      match archive.handles.find? fun handle => !handle.closed && handle.address = address with
      | some handle => (.ok handle.writer, archive)
      | none => archive.connectApart .empty false
  | .file location access fixed =>
      match archive.files.place? location with
      | some place => archive.connectPlace place access fixed
      | none => (.error .cannotOpen, archive)

/-- Whether the file at a place is still that of a database: as it was, or with something written
over it that the log sets right. -/
def holds (archive : Archive) (place : List String) (number : Nat) : Bool :=
  match archive.files.node? place with
  | some (.index other) => other = number
  | some (.file _) => archive.logged? place = some number
  | _ => false

/-- Whether something was written over the file of a database that no log sets right. -/
def isSpoiled (archive : Archive) (connection : Connection) : Bool :=
  !(archive.database connection.database).isAllInLog &&
    connection.place?.any fun place =>
      match archive.files.node? place with
      | some (.file _) => true
      | _ => false

/-- The archive after the end of a connection. The last one to a database writes its log into
its file, unless it may only read; if that is not where it was, the log is lost. -/
def release (archive : Archive) (connection : Connection) : Archive :=
  let number := connection.database
  let database := archive.database number
  if archive.isInUse number then archive
  else
    match connection.place? with
    | none => archive
    | some place =>
        if connection.readOnly then archive
        else if archive.holds place number then
          { archive.setDatabase number database.settled with
            files := (archive.files.putAt place (.index number)).withoutCompanions place }
        else archive.setDatabase number database.withoutLog

end Archive

end FolderIndex
