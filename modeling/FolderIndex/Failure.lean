import FolderIndex.Location
import FolderIndex.Text.Quoted

namespace FolderIndex

/-! Everything that can go wrong, by its cause, and the text that says so. -/

/-- Why the file system refuses an operation. -/
inductive FileFault where
  | notFound
  | permissionDenied
  | alreadyExists
  | notDirectory
  | isDirectory
  | nameTooLong
  | notEmpty
  | tooManyLinks
deriving DecidableEq, Repr

def FileFault.number : FileFault → Nat
  | .notFound => 2
  | .permissionDenied => 13
  | .alreadyExists => 17
  | .notDirectory => 20
  | .isDirectory => 21
  | .nameTooLong => 36
  | .notEmpty => 39
  | .tooManyLinks => 40

def FileFault.text : FileFault → String
  | .notFound => "No such file or directory"
  | .permissionDenied => "Permission denied"
  | .alreadyExists => "File exists"
  | .notDirectory => "Not a directory"
  | .isDirectory => "Is a directory"
  | .nameTooLong => "File name too long"
  | .notEmpty => "Directory not empty"
  | .tooManyLinks => "Too many levels of symbolic links"

/-- Whether the refusal says no more than that there is nothing where it was looked for. -/
def FileFault.isAbsence : FileFault → Bool
  | .notFound | .notDirectory | .tooManyLinks => true
  | _ => false

/-- A refusal, and the name that was used. -/
structure FileFailure where
  fault : FileFault
  path : String
deriving DecidableEq, Repr

def FileFailure.message (failure : FileFailure) : String :=
  let number := toString failure.fault.number
  let text := failure.fault.text
  let path := Text.quoted failure.path
  s!"[Errno {number}] {text}: {path}"

/-- Why a watched root could not be read to its end. -/
inductive WalkFailure where
  | rootMissing (root : Location)
  | rootNotDirectory (root : Location)
  | unlistable (root : Location) (failure : FileFailure)
  | unreadable (path : String) (failure : FileFailure)
deriving DecidableEq, Repr

namespace WalkFailure

def message : WalkFailure → String
  | rootMissing root => "watch root not found: " ++ root.toString
  | rootNotDirectory root => "watch root is not a directory: " ++ root.toString
  | unlistable root failure => "walk " ++ root.toString ++ ": " ++ failure.message
  | unreadable path failure => "read " ++ path ++ ": " ++ failure.message

/-- The watched root at fault, where the failure concerns one. -/
def root? : WalkFailure → Option String
  | rootMissing root => some root.toString
  | rootNotDirectory root => some root.toString
  | unlistable root _ => some root.toString
  | unreadable _ _ => none

/-- The directory or file at fault, below a root. -/
def path? : WalkFailure → Option String
  | rootMissing _ => none
  | rootNotDirectory _ => none
  | unlistable _ failure => some (Location.ofString failure.path).toString
  | unreadable path _ => some path

end WalkFailure

/-- The two tables of an index. -/
inductive TableName where
  | entries
  | roots
deriving DecidableEq, Repr

def TableName.text : TableName → String
  | .entries => "index_entries"
  | .roots => "index_metadata"

/-- The columns of an entry that must not be empty. -/
inductive Column where
  | content
  | hash
deriving DecidableEq, Repr

def Column.text : Column → String
  | .content => "content"
  | .hash => "content_hash"

/-- What is wrong with the address of a database. -/
inductive AddressFault where
  | unknownMode (name : String)
  | modeNotAllowed (name : String)
  | unknownCache (name : String)
  | unknownSystem (name : String)
deriving DecidableEq, Repr

def AddressFault.message : AddressFault → String
  | .unknownMode name => "no such access mode: " ++ name
  | .modeNotAllowed name => "access mode not allowed: " ++ name
  | .unknownCache name => "no such cache mode: " ++ name
  | .unknownSystem name => "no such vfs: " ++ name

/-- Why the database refuses an operation. -/
inductive DatabaseFault where
  | closed
  | badAddress (fault : AddressFault)
  | cannotOpen
  | notDatabase
  | malformed
  | ioError
  | readOnly
  | locked
  | noTable (table : TableName)
  | noTableToWatch (table : TableName)
  | missingValue (column : Column)
  | duplicatePath
  | raised (message : String)
deriving DecidableEq, Repr

def DatabaseFault.message : DatabaseFault → String
  | .closed => "Cannot operate on a closed database."
  | .badAddress fault => fault.message
  | .cannotOpen => "unable to open database file"
  | .notDatabase => "file is not a database"
  | .malformed => "database disk image is malformed"
  | .ioError => "disk I/O error"
  | .readOnly => "attempt to write a readonly database"
  | .locked => "database is locked"
  | .noTable table => "no such table: " ++ table.text
  | .noTableToWatch table => "no such table: main." ++ table.text
  | .missingValue column => "NOT NULL constraint failed: index_entries." ++ column.text
  | .duplicatePath => "UNIQUE constraint failed: index_entries.path"
  | .raised message => message

/-- Whether a database refuses a statement so before it looks at the values in it. -/
def DatabaseFault.comesFirst : DatabaseFault → Bool
  | .closed | .malformed | .noTable _ => true
  | _ => false

/-- The operations of a store, as its failures name them. -/
inductive StoreOperation where
  | openAt (path : String)
  | upsert (path : String)
  | getHash (path : String)
  | listPaths
  | listDocuments
  | delete (path : String)
  | recordRoot (root : String)
  | listRoots
  | stats
deriving DecidableEq, Repr

def StoreOperation.text : StoreOperation → String
  | .openAt path => "open " ++ path
  | .upsert path => "upsert index entry " ++ path
  | .getHash path => "get index hash " ++ path
  | .listPaths => "list index paths"
  | .listDocuments => "list index entries"
  | .delete path => "delete index entry " ++ path
  | .recordRoot root => "record root scan " ++ root
  | .listRoots => "list root scans"
  | .stats => "index stats"

/-- Why a store refuses an operation. -/
inductive StoreFailure where
  | blankPath
  | closed
  | refused (operation : StoreOperation) (fault : DatabaseFault)
deriving DecidableEq, Repr

def StoreFailure.message : StoreFailure → String
  | .blankPath => "index path is required"
  | .closed => "store is closed"
  | .refused operation fault => operation.text ++ ": " ++ fault.message

/-- What is wrong with a text: it names no status, or octets in it that are no text keep it from
being encoded. -/
inductive TextFault where
  | unknownStatus (status : String)
  | unencodable (position : Nat) (octets : List UInt8)
deriving DecidableEq, Repr

/-- An octet that is no text, as a text shows it. -/
def TextFault.escaped (octet : UInt8) : String :=
  String.ofList (Text.backslash :: 'u' :: 'd' :: 'c' :: Text.hexDigits 2 octet.toNat)

def TextFault.message : TextFault → String
  | .unknownStatus status => "Unknown index status: " ++ status
  | .unencodable position [octet] =>
      let place := s!"character '{escaped octet}' in position {position}"
      s!"'utf-8' codec can't encode {place}: surrogates not allowed"
  | .unencodable position octets =>
      let place := s!"characters in position {position}-{position + octets.length - 1}"
      s!"'utf-8' codec can't encode {place}: surrogates not allowed"

/-- Why an operation of the library fails. -/
inductive Failure where
  | walk (cause : WalkFailure)
  | store (cause : StoreFailure)
  | cancelled
  | notConfigured
  | database (fault : DatabaseFault)
  | file (failure : FileFailure)
  | nullInPath
  | limitTooLarge
  | rolledBack
  | unknownHome
  | scanIntervalNotPositive
  | intervalNotPositive
  | badText (fault : TextFault)
deriving DecidableEq, Repr

namespace Failure

/-- A bad text, by the name that this failure had when only a status could be one. -/
@[match_pattern]
abbrev unknownStatus (fault : TextFault) : Failure := badText fault

def message : Failure → String
  | walk cause => cause.message
  | store cause => cause.message
  | cancelled => "scan cancelled"
  | notConfigured => "indexer not configured"
  | database fault => fault.message
  | file failure => failure.message
  | nullInPath => "embedded null byte"
  | limitTooLarge => "Python int too large to convert to SQLite INTEGER"
  | rolledBack => "rolled back"
  | unknownHome => "Could not determine home directory."
  | scanIntervalNotPositive => "scan_interval must be positive"
  | intervalNotPositive => "interval must be positive"
  | badText fault => fault.message

/-- Whether the failure is one that the library documents for scans, searches and services. -/
def isDocumented : Failure → Bool
  | walk _ | store _ | cancelled | notConfigured => true
  | _ => false

end Failure

end FolderIndex
