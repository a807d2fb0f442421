import FolderIndex.Failure
import FolderIndex.Text.Percent

namespace FolderIndex

/-! Names of databases. A name is that of a file, or that of a private database in memory, or an
address: a path with escapes in it and parameters behind it. -/

/-- What a connection may do to a file: read it, write to it, or also make it. -/
inductive Access where
  | read
  | write
  | create
deriving DecidableEq, Repr

/-- What the name of a database stands for: one in memory with a single connection, one for each
connection, one in memory that goes by a name, or one in a file. A file that is fixed is taken
to be as it was saved. -/
inductive Address where
  | memory
  | apart (access : Access)
  | common (name : String)
  | file (location : Location) (access : Access) (fixed : Bool)
deriving DecidableEq, Repr

namespace Address

/-- How an address says that a database is used. -/
inductive Mode where
  | read
  | write
  | create
  | memory
deriving DecidableEq, Repr

namespace Mode

def named? (name : String) : Option Mode :=
  [("ro", Mode.read), ("rw", .write), ("rwc", .create), ("memory", .memory)].lookup name

def rank : Mode → Nat
  | .read => 0
  | .write => 1
  | .create => 2
  | .memory => 3

/-- Whether a mode may be followed by another, which must not ask for more than it does; memory
may be asked for at any time. -/
def admits (mode next : Mode) : Bool :=
  next = .memory || next.rank ≤ mode.rank

/-- What a connection may do that uses a database in a mode. -/
def access : Mode → Access
  | .read => .read
  | .write => .write
  | .create | .memory => .create

end Mode

/-- How a database is used, whether its connections share what they hold, whether its file is
fixed, and the name of the file system that keeps it. -/
structure Usage where
  mode : Mode
  shared : Bool
  fixed : Bool
  system? : Option String
deriving DecidableEq, Repr

namespace Usage

def usual : Usage := ⟨.create, false, false, none⟩

def withMode (usage : Usage) (value : String) : Except AddressFault Usage :=
  match Mode.named? value with
  | none => .error (.unknownMode value)
  | some mode =>
      if usage.mode.admits mode then .ok { usage with mode := mode }
      else .error (.modeNotAllowed value)

def withCache (usage : Usage) (value : String) : Except AddressFault Usage :=
  if value = "shared" then .ok { usage with shared := true }
  else if value = "private" then .ok { usage with shared := false }
  else .error (.unknownCache value)

/-- Whether a text says yes; a number does if it is not zero. -/
def isYes (text : String) : Bool :=
  if text.toList.head?.any Char.isDigit then
    (text.toList.takeWhile Char.isDigit).any fun digit => digit ≠ '0'
  else ["on", "yes", "true"].contains text.toLower

/-- What a parameter adds. One with another name adds nothing. -/
def withParameter (usage : Usage) (parameter : String × String) : Except AddressFault Usage :=
  if parameter.1 = "mode" then usage.withMode parameter.2
  else if parameter.1 = "cache" then usage.withCache parameter.2
  else if parameter.1 = "immutable" then .ok { usage with fixed := isYes parameter.2 }
  else if parameter.1 = "vfs" then .ok { usage with system? := some parameter.2 }
  else .ok usage

def systems : List String := ["unix", "unix-none", "unix-dotfile", "unix-excl", "memdb"]

/-- The usage, if the file system that it names is known. -/
def checked (usage : Usage) : Except AddressFault Usage :=
  match usage.system? with
  | none => .ok usage
  | some system =>
      if systems.contains system then .ok usage else .error (.unknownSystem system)

end Usage

/-- A part of an address with its escapes read. A null character ends it. -/
def decodePart (part : List Char) : String :=
  String.ofList ((Text.percentDecode part).takeWhile (· ≠ Char.ofNat 0))

/-- A name, and the value behind the first equals sign. -/
def parameterOf (piece : List Char) : String × String :=
  (decodePart (piece.takeWhile (· ≠ '=')), decodePart ((piece.dropWhile (· ≠ '=')).drop 1))

/-- The parameters that have a name, in order. -/
def parametersOf (text : List Char) : List (String × String) :=
  ((runs (· ≠ '&') text).map parameterOf).filter (·.1 ≠ "")

/-- The name of a private database in memory. -/
def memoryName : String := ":memory:"

/-- What a path stands for that is used in some way. No path at all is a database for each
connection, and so is one in memory that is not shared. -/
def ofPath (path : String) (usage : Usage) : Address :=
  if path = "" then .apart usage.mode.access
  else if path = memoryName || usage.mode = .memory then
    if usage.shared then .common path else .apart usage.mode.access
  else .file (Location.ofString path) usage.mode.access usage.fixed

/-- What a name starts with that is an address. -/
def scheme : List Char := "file:".toList

/-- What an address stands for behind its scheme. What follows a number sign is not read. -/
def ofAddress (text : List Char) : Except AddressFault Address := do
  let text := text.takeWhile (· ≠ '#')
  let parameters := parametersOf ((text.dropWhile (· ≠ '?')).drop 1)
  let usage ← parameters.foldlM Usage.withParameter Usage.usual
  pure (ofPath (decodePart (text.takeWhile (· ≠ '?'))) (← usage.checked))

/-- What the name of a database stands for. -/
def ofName (name : String) : Except AddressFault Address :=
  if name = memoryName then .ok .memory
  else if scheme.isPrefixOf name.toList then ofAddress (name.toList.drop scheme.length)
  else .ok (.file (Location.ofString name) .create false)

end Address

end FolderIndex
