import FolderIndex.Database.Saved
import FolderIndex.Service.Wire
import FolderIndex.Session.Page
import FolderIndex.Session.Step
import Std.Time.DateTime.Timestamp

namespace FolderIndex

/-! The command line. Before a command works on it, what is on the disk becomes a file tree, and
afterwards the index is saved; all that is decided is decided in between. -/

namespace Disk

/-- A tree that is being read, with the names that cannot be listed or read. -/
abbrev Reading (α : Type) := StateT (List String) IO α

/-- A name, as something that can be looked up. -/
def lookUp (path : String) : IO.FS.DirEntry := ⟨path, ""⟩

/-- The kind of what a name leads to, if it leads anywhere. -/
def kind? (path : String) : IO (Option IO.FS.FileType) := do
  match ← (lookUp path).root.metadata.toBaseIO with
  | .ok metadata => pure (some metadata.type)
  | .error _ => pure none

def isLink (path : String) : IO Bool := do
  match ← (lookUp path).root.symlinkMetadata.toBaseIO with
  | .ok metadata => pure (metadata.type == .symlink)
  | .error _ => pure false

/-- What stands for a link to another directory: a link to the root, which is one too. -/
def directoryLink : Node := .link "/"

/-- What stands for a link that leads nowhere: a link to a name that no file has. -/
def brokenLink : Node := .link (String.ofList ['/', Char.ofNat 0])

def readFile (path : String) : Reading Node := do
  match ← (IO.FS.readBinFile path).toBaseIO with
  | .ok octets => pure (.file octets.toList)
  | .error _ =>
      modify (path :: ·)
      pure (.file [])

/-- What a name leads to, as far down as `depth` says. Only files with one of the extensions are
read; of the others it is enough that they are there. -/
def readNode (extensions : List String) : Nat → String → Reading Node
  | 0, _ => pure .emptyDirectory
  | depth + 1, path => do
      match ← kind? path with
      | none => pure brokenLink
      | some .dir =>
          match ← (lookUp path).root.readDir.toBaseIO with
          | .error _ =>
              modify (path :: ·)
              pure .emptyDirectory
          | .ok found =>
              let entries ← found.toList.mapM fun entry => do
                let below := Listing.nameIn path entry.fileName
                if (← isLink below) && (← kind? below) == some .dir then
                  pure (entry.fileName, directoryLink)
                else pure (entry.fileName, ← readNode extensions depth below)
              pure (.directory entries)
      | some .file => if Text.hasExtension extensions path then readFile path else pure (.file [])
      | some _ => pure (.file [])

/-- The most directories inside each other that are read. -/
def depthLimit : Nat := 200

/-- The tree with what is at a location on the disk, if there is anything. -/
def readInto (extensions : List String) (tree : Node) (location : Location) : Reading Node := do
  let path := location.toString
  match ← kind? path with
  | none => pure tree
  | some _ => pure (Node.put (← readNode extensions depthLimit path) tree location.parts)

end Disk

/-- Where a command keeps its index, and what it watches. -/
structure Places where
  index : Location
  roots : List Location
  extensions : List String

namespace Session

/-- The session with the time of the moment, which moves on as little as a clock can show. -/
def atNow (session : Session) : IO Session := do
  let nanos := (← Std.Time.Timestamp.now).toNanosecondsSinceUnixEpoch.val
  pure { session with archive := { session.archive with clock := ⟨nanos / 1000, 1⟩ } }

/-- The session with a node at a location. -/
def withNode (session : Session) (location : Location) (node : Node) : Session :=
  session.withFiles (session.files.putAt location.parts node)

/-- What the session has at a location. -/
def nodeAt? (session : Session) (location : Location) : Option Node :=
  match session.files.spot .target location with
  | .ok spot => spot.node?
  | .error _ => none

/-- The session with the index that is saved at a location, or with what is there instead. -/
def withIndex (session : Session) (location : Location) : IO Session := do
  match ← Disk.kind? location.toString with
  | none => pure session
  | some .dir => pure (session.withNode location .emptyDirectory)
  | some _ =>
      let octets ← IO.FS.readBinFile location.toString
      match (String.fromUTF8? octets).bind Saved.toTables? with
      | none => pure (session.withNode location (.file octets.toList))
      | some tables =>
          let databases := session.archive.databases
          let session := session.withNode location (.index databases.length)
          pure { session with
            archive := { session.archive with databases := databases ++ [.ofTables tables] } }

/-- The session with what is on the disk below the roots, and with its own index, which is in
use. -/
def refreshed (session : Session) (places : Places) : IO Session := do
  let bare := FileTree.initial session.files.surroundings
  let reading := places.roots.foldlM (Disk.readInto places.extensions) bare.root
  let (root, denied) ← reading.run []
  let files : FileTree := { bare with root := root, denied := denied }
  let session ← atNow session
  match session.nodeAt? places.index with
  | some node =>
      let place := places.index.parts
      let files := files.putAt place node
      match node with
      | .index number => pure (session.withFiles (files.withCompanions place number))
      | _ => pure (session.withFiles files)
  | none => pure (session.withFiles files)

/-- Saves the index at a location, if there is one. The old one stays until the new is whole. -/
def saveIndex (session : Session) (location : Location) : IO Unit := do
  match session.nodeAt? location with
  | some (.index number) =>
      let path := location.toString
      IO.FS.createDirAll location.parent.toString
      IO.FS.writeFile (path ++ ".new") (Saved.ofTables (session.archive.database number).committed)
      IO.FS.rename (path ++ ".new") path
  | _ => pure ()

def showPrinted (printed : List Printed) : IO Unit := do
  for line in printed.flatMap Printed.lines do
    IO.println line
  (← IO.getStdout).flush

def showEvents (command : Command) (events : List Event) : IO Unit := do
  for event in Event.kept command.level events do
    IO.eprintln ("[" ++ event.level.text ++ "] " ++ event.message)

/-- Does some work, shows what it prints and logs, and saves the index. -/
def performing {α : Type} (session : Session) (command : Command) (index : Location)
    (work : Work α) : IO (Except Failure α × Session) := do
  let (outcome, after) := work session
  showPrinted after.printed
  showEvents command (Notice.eventsFor .terminal after.notices)
  after.saveIndex index
  pure (outcome, { after with printed := [], notices := [] })

end Session

namespace Command

/-- The places of a command, as seen from the root. -/
def places (command : Command) (session : Session) : Except Failure Places := do
  let settings ← Settings.ofRequest session.files command.request
  let surroundings := session.files.surroundings
  let current := Location.ofString surroundings.current
  let indexer ← Indexer.make surroundings 0 (settings.watch.map Location.toString) [] .terminal
  pure ⟨settings.databaseFrom (some current), indexer.roots, settings.extensions⟩

/-- How long a program sleeps for an interval, in thousandths of a second. -/
def sleepTime (interval : Double) : UInt32 :=
  if interval.isNan || interval.isInfinite then 0xFFFFFFFF
  else
    let parts := interval.toQuotient
    UInt32.ofNat (min (parts.1 * 1000 / parts.2) 0xFFFFFFFF)

def fail (text : String) (exit : UInt32) : IO UInt32 := do
  IO.eprintln text
  pure exit

def failEnding : CommandEnding → IO UInt32
  | .success => pure 0
  | .failed => pure 1
  | .badParameter text => fail text 2

/-- A command that comes to an end by itself. -/
def runOnce (command : Command) (places : Places) (session : Session) : IO UInt32 := do
  let (outcome, _) ← session.performing command places.index (command.run true (pure []))
  match outcome with
  | .error failure => fail failure.message 1
  | .ok outcome => failEnding outcome.ending

/-- Scans again and again, until the program is interrupted. -/
def watchForever (command : Command) (places : Places) (session : Session) : IO UInt32 := do
  let (outcome, first) ← session.performing command places.index command.beginWatching
  match outcome with
  | .error failure => fail failure.message 1
  | .ok (.error ending) => failEnding ending
  | .ok (.ok watching) =>
      let mut session := first
      repeat
        IO.sleep (sleepTime command.interval)
        session ← session.refreshed places
        let (_, after) ← session.performing command places.index
          (Session.advanceScheduler watching.scheduler)
        session := after
      pure 0

/-- The lines up to an empty one. -/
def readHeaderLines (input : IO.FS.Stream) : IO (List String) := do
  let mut lines : List String := []
  repeat
    let line := String.ofList (Text.trim (← input.getLine).toList)
    if line.isEmpty then break
    lines := lines ++ [line]
  pure lines

/-- Answers the requests that come in, one after the other, until there are no more. A scan
that is due runs in front of the next request. -/
def serveInput (command : Command) (places : Places) (session : Session) : IO UInt32 := do
  let (outcome, first) ← session.performing command places.index do
    command.makeService
    Session.startup
  match outcome with
  | .error failure => fail failure.message 1
  | .ok _ =>
      let input ← IO.getStdin
      let mut session := first
      let mut scanned ← IO.monoMsNow
      repeat
        let line ← input.getLine
        if line.isEmpty then break
        let headers ← readHeaderLines input
        session ← session.refreshed places
        if scanned + (sleepTime command.interval).toNat ≤ (← IO.monoMsNow) then
          scanned ← IO.monoMsNow
          if let some number := session.scheduler? then
            let (_, after) ← session.performing command places.index
              (Session.advanceScheduler number)
            session := after
        match Wire.readRequest? line headers, session.application? with
        | some request, some application =>
            let (outcome, after) ← session.performing command places.index
              (Session.respond application.service request Session.mainThread)
            session := after
            if let .ok response := outcome then
              IO.print (Wire.responseText response)
              (← IO.getStdout).flush
        | _, _ => IO.eprintln "request expected"
      let (_, _) ← session.performing command places.index Session.shutdown
      pure 0

def start (command : Command) (session : Session) : IO UInt32 := do
  match command.places session with
  | .error failure => fail failure.message 1
  | .ok places =>
      let session ← session.withIndex places.index
      let session ← session.refreshed places
      match command.name with
      | .watch => command.watchForever places session
      | .serve => command.serveInput places session
      | _ => command.runOnce places session

end Command

/-- Runs the command that the words of a command line give, and gives its exit code. -/
def runWords (words : List String) : IO UInt32 := do
  let current := (← IO.currentDir).toString
  let home := (← IO.getEnv "HOME").getD current
  match Command.read? words with
  | none => Command.fail "usage: scan | search QUERY | documents | watch | serve" 2
  | some command =>
      let session := Session.initial ⟨home, current⟩ ⟨0, 1⟩
      let nearby := (Location.ofString current).join Settings.localDatabase
      command.start (← session.withIndex nearby)

end FolderIndex

/-- The program: its words in, its exit code out. -/
def main (words : List String) : IO UInt32 :=
  FolderIndex.runWords words
