import FolderIndex.Failure
import FolderIndex.Text.Blank

namespace FolderIndex

/-! The database of an index: a table of documents and a table of watched roots, each of which
may have been dropped, and changes that wait to be committed. -/

/-- A stored document. Its tokens are kept as one text. -/
structure Entry where
  path : String
  content : String
  tokens : String
  hash : String
  updatedAt : String
deriving DecidableEq, Repr

/-- A watched root and the time of its last complete scan. -/
structure RootScan where
  path : String
  time : String
deriving DecidableEq, Repr

/-- A row to be inserted, whose content and hash may be missing. -/
structure Draft where
  path : String
  content? : Option String
  tokens : String
  hash? : Option String
  updatedAt : String
deriving DecidableEq, Repr

/-- The changes that a trigger can stand in the way of. -/
inductive RowChange where
  | insert
  | delete
deriving DecidableEq, Repr

/-- What a trigger does to a change: fail it, or leave it undone. -/
inductive TriggerAction where
  | abort (message : String)
  | ignore
deriving DecidableEq, Repr

structure Trigger where
  change : RowChange
  path : String
  action : TriggerAction
deriving DecidableEq, Repr

/-- The documents, and the triggers on them, the newest first. -/
structure EntryTable where
  rows : List Entry
  triggers : List Trigger
deriving DecidableEq, Repr

/-- Both tables; one that was dropped is none. -/
structure Tables where
  entries? : Option EntryTable
  roots? : Option (List RootScan)
deriving DecidableEq, Repr

/-- A document as it is read back. -/
structure Document where
  path : String
  content : String
  tokens : List String
  hash : String
  updatedAt : String
deriving DecidableEq, Repr

/-- How much an index holds, and the greatest time of a root scan. -/
structure IndexStats where
  documents : Nat
  roots : Nat
  lastIndexed? : Option String
deriving DecidableEq, Repr

namespace Entry

/-- The row that a draft makes. -/
def ofDraft (draft : Draft) : Except DatabaseFault Entry :=
  match draft.content?, draft.hash? with
  | none, _ => .error (.missingValue .content)
  | some _, none => .error (.missingValue .hash)
  | some content, some hash => .ok ⟨draft.path, content, draft.tokens, hash, draft.updatedAt⟩

def toDocument (entry : Entry) : Document :=
  ⟨entry.path, entry.content, Text.words entry.tokens, entry.hash, entry.updatedAt⟩

/-- Later updates first, equal times in the order of paths. -/
def newerFirst (left right : Entry) : Bool :=
  decide (right.updatedAt < left.updatedAt) ||
    (left.updatedAt == right.updatedAt && decide (left.path ≤ right.path))

end Entry

namespace EntryTable

def empty : EntryTable := ⟨[], []⟩

def find? (table : EntryTable) (path : String) : Option Entry :=
  table.rows.find? (·.path = path)

/-- The action of the newest trigger on a change of a row. -/
def firing? (table : EntryTable) (change : RowChange) (path : String) : Option TriggerAction :=
  (table.triggers.find? fun trigger => trigger.change = change ∧ trigger.path = path).map (·.action)

/-- The rows with a new row, in the place of the one with its path. -/
def putRow (row : Entry) (rows : List Entry) : List Entry :=
  if rows.any (·.path = row.path) then
    rows.map fun old => if old.path = row.path then row else old
  else rows ++ [row]

/-- The table with the row of a draft. A path that is there already is replaced or refused;
triggers come before any look at the values. -/
def insert (table : EntryTable) (replace : Bool) (draft : Draft) :
    Except DatabaseFault EntryTable :=
  match table.firing? .insert draft.path with
  | some (.abort message) => .error (.raised message)
  | some .ignore => .ok table
  | none => do
      let row ← Entry.ofDraft draft
      if !replace && (table.find? draft.path).isSome then .error .duplicatePath
      else pure { table with rows := putRow row table.rows }

/-- The table without the row of a path, and whether one was removed. -/
def delete (table : EntryTable) (path : String) : Except DatabaseFault (Bool × EntryTable) :=
  if (table.find? path).isNone then .ok (false, table)
  else
    match table.firing? .delete path with
    | some (.abort message) => .error (.raised message)
    | some .ignore => .ok (false, table)
    | none => .ok (true, { table with rows := table.rows.filter (·.path ≠ path) })

end EntryTable

namespace RootScan

/-- The rows with the time of a root, in the place of an earlier one. -/
def put (row : RootScan) (rows : List RootScan) : List RootScan :=
  if rows.any (·.path = row.path) then
    rows.map fun old => if old.path = row.path then row else old
  else rows ++ [row]

/-- The greatest time among the rows. -/
def latest? (rows : List RootScan) : Option String :=
  rows.foldl (fun latest row =>
    match latest with
    | none => some row.time
    | some time => some (if time < row.time then row.time else time)) none

end RootScan

namespace Tables

/-- A database file that nothing was written to. -/
def blank : Tables := ⟨none, none⟩

def isBlank (tables : Tables) : Bool :=
  tables.entries?.isNone && tables.roots?.isNone

def entries (tables : Tables) : Except DatabaseFault EntryTable :=
  match tables.entries? with
  | some table => .ok table
  | none => .error (.noTable .entries)

def roots (tables : Tables) : Except DatabaseFault (List RootScan) :=
  match tables.roots? with
  | some rows => .ok rows
  | none => .error (.noTable .roots)

/-- The rows of the documents, none where the table was dropped. -/
def rows (tables : Tables) : List Entry :=
  (tables.entries?.map (·.rows)).getD []

def rootRows (tables : Tables) : List RootScan :=
  tables.roots?.getD []

def isComplete (tables : Tables) : Bool :=
  tables.entries?.isSome && tables.roots?.isSome

/-- Both tables, those that are missing anew and empty. -/
def ensure (tables : Tables) : Tables :=
  ⟨some (tables.entries?.getD EntryTable.empty), some (tables.roots?.getD [])⟩

def insert (tables : Tables) (replace : Bool) (draft : Draft) :
    Except DatabaseFault (Unit × Tables) := do
  let table ← tables.entries
  let table ← table.insert replace draft
  pure ((), { tables with entries? := some table })

def delete (tables : Tables) (path : String) : Except DatabaseFault (Bool × Tables) := do
  let table ← tables.entries
  let (removed, table) ← table.delete path
  pure (removed, { tables with entries? := some table })

def recordRoot (tables : Tables) (row : RootScan) : Except DatabaseFault (Unit × Tables) := do
  let rows ← tables.roots
  pure ((), { tables with roots? := some (row.put rows) })

def drop (tables : Tables) (name : TableName) : Except DatabaseFault (Unit × Tables) :=
  match name with
  | .entries => do
      let _ ← tables.entries
      pure ((), { tables with entries? := none })
  | .roots => do
      let _ ← tables.roots
      pure ((), { tables with roots? := none })

def addTrigger (tables : Tables) (trigger : Trigger) : Except DatabaseFault (Unit × Tables) :=
  match tables.entries? with
  | some table =>
      .ok ((), { tables with entries? := some { table with triggers := trigger :: table.triggers } })
  | none => .error (.noTableToWatch .entries)

def hashOf (tables : Tables) (path : String) : Except DatabaseFault (Option String) := do
  let table ← tables.entries
  pure ((table.find? path).map (·.hash))

/-- The stored paths, in order. -/
def paths (tables : Tables) : Except DatabaseFault (List String) := do
  let table ← tables.entries
  pure ((table.rows.map (·.path)).mergeSort fun left right => decide (left ≤ right))

/-- The stored documents, newest first: all of them, or at most a positive number. -/
def documents (tables : Tables) (limit : Int) : Except DatabaseFault (List Document) := do
  let table ← tables.entries
  let sorted := table.rows.mergeSort Entry.newerFirst
  pure ((if 0 < limit then sorted.take limit.toNat else sorted).map Entry.toDocument)

/-- The root scans in the order of their paths. -/
def rootScans (tables : Tables) : Except DatabaseFault (List RootScan) := do
  let rows ← tables.roots
  pure (rows.mergeSort fun left right => decide (left.path ≤ right.path))

def stats (tables : Tables) : Except DatabaseFault IndexStats := do
  let table ← tables.entries
  let rows ← tables.roots
  pure ⟨table.rows.length, rows.length, RootScan.latest? rows⟩

end Tables

/-- A database: what its file holds, what is committed to its log, and what one writer has
changed since. The log is written into the file when the last connection ends. -/
structure Database where
  saved : Tables
  log? : Option Tables
  pending? : Option (Nat × Tables)
deriving DecidableEq, Repr

namespace Database

def ofTables (tables : Tables) : Database := ⟨tables, none, none⟩

def empty : Database := ofTables .blank

/-- The tables as every reader sees them. -/
def committed (database : Database) : Tables :=
  database.log?.getD database.saved

/-- The database with its log written into its file. -/
def settled (database : Database) : Database :=
  { database with saved := database.committed, log? := none }

/-- Whether all that is in a database is in its log. -/
def isAllInLog (database : Database) : Bool :=
  database.log?.isSome && database.saved.isBlank

/-- The database without its log, which is lost. -/
def withoutLog (database : Database) : Database :=
  { database with log? := none }

/-- The tables as a writer sees them. Only one writer at a time may have changes pending. -/
def seenBy (database : Database) (writer : Nat) : Except DatabaseFault Tables :=
  match database.pending? with
  | none => .ok database.committed
  | some (holder, tables) => if holder = writer then .ok tables else .error .locked

/-- A change by a writer, left pending. A change that fails changes nothing. -/
def write {α : Type} (database : Database) (writer : Nat)
    (change : Tables → Except DatabaseFault (α × Tables)) : Except DatabaseFault α × Database :=
  match database.seenBy writer with
  | .error fault => (.error fault, database)
  | .ok tables =>
      match change tables with
      | .error fault => (.error fault, database)
      | .ok (value, after) => (.ok value, { database with pending? := some (writer, after) })

/-- Why a change fails where nothing may be written: a table that is missing is missed first. -/
def refusal {α : Type} (database : Database)
    (change : Tables → Except DatabaseFault (α × Tables)) : DatabaseFault :=
  match change database.committed with
  | .error (.noTable table) => .noTable table
  | .error (.noTableToWatch table) => .noTableToWatch table
  | _ => .readOnly

def commit (database : Database) (writer : Nat) : Database :=
  match database.pending? with
  | some (holder, tables) =>
      if holder = writer then { database with log? := some tables, pending? := none } else database
  | none => database

def rollback (database : Database) (writer : Nat) : Database :=
  match database.pending? with
  | some (holder, _) => if holder = writer then { database with pending? := none } else database
  | none => database

/-- A change by a writer that is committed with all its pending ones if it succeeds, and
discarded with them if it fails. -/
def transact {α : Type} (database : Database) (writer : Nat)
    (change : Tables → Except DatabaseFault (α × Tables)) : Except DatabaseFault α × Database :=
  let (outcome, after) := database.write writer change
  match outcome with
  | .ok value => (.ok value, after.commit writer)
  | .error fault => (.error fault, after.rollback writer)

variable {α : Type} {database : Database} {writer : Nat}
  {change : Tables → Except DatabaseFault (α × Tables)}

theorem rollback_committed : (database.rollback writer).committed = database.committed := by
  unfold rollback
  split
  · split <;> rfl
  · rfl

/-- A transaction that succeeds where nothing is pending commits what its change makes, to the
log alone. -/
theorem transact_of_ok {value : α} {after : Tables} (idle : database.pending? = none)
    (changed : change database.committed = .ok (value, after)) :
    database.transact writer change = (.ok value, ⟨database.saved, some after, none⟩) := by
  simp [transact, write, seenBy, commit, idle, changed]

end Database

end FolderIndex
