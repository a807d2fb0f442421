import FolderIndex.Command
import FolderIndex.FileTree.Edit
import FolderIndex.Service

namespace FolderIndex

/-! Sessions: a file tree, the stores that were opened, and the indexers, searchers, schedulers
and services that were made on them, one of each being the current one. -/

/-- A service, and the scheduler and the store that start and end with it, if any do. -/
structure Application where
  service : Service
  lifespan? : Option (Nat × Nat)
deriving DecidableEq, Repr

/-- What a command hands to the console, before its markup is read and it is laid out. -/
inductive Printed where
  | line (text : String)
  | table (columns : List String) (rows : List (List String))
deriving DecidableEq, Repr

structure Session where
  archive : Archive
  stores : List (String × Nat)
  indexer? : Option Indexer
  searcher? : Option Searcher
  schedulers : List Scheduler
  scheduler? : Option Nat
  application? : Option Application
  entered? : Option (Nat × Nat)
  notices : List Notice
  printed : List Printed

/-- The file tree of a session, in which its databases lie. -/
def Session.files (session : Session) : FileTree := session.archive.files

def Session.withFiles (session : Session) (files : FileTree) : Session :=
  { session with archive := { session.archive with files := files } }

/-- Something done in a session, which may fail. What was done before a failure stays. -/
abbrev Work (α : Type) := ExceptT Failure (StateM Session) α

/-- The outcome of a background scan, and the interval that the loop waits after it. -/
structure Round where
  tally? : Option Tally
  waited : Double
deriving DecidableEq, Repr

namespace Session

/-- The name of the store that is meant where none is named. -/
def mainStore : String := "main"

/-- The thread that everything runs on which is not handed to another: a background scan has its
own, and a request may come to any. -/
def mainThread : Nat := 0

def initial (surroundings : Surroundings) (clock : Clock) : Session :=
  ⟨.initial (.initial surroundings) clock, [], none, none, [], none, none, none, [], []⟩

/-- A failure for the use of something that was never made. -/
def orMissing {α : Type} (value? : Option α) : Work α :=
  match value? with
  | some value => pure value
  | none => throw .notConfigured

/-- A value, or the failure that there is instead. -/
def settle {α : Type} : Except Failure α → Work α
  | .ok value => pure value
  | .error failure => throw failure

/-- An operation on the archive. -/
def onArchive {α : Type} (operation : Archive → Archive.Outcome α) : Work α := do
  let session ← get
  let (outcome, archive) := operation session.archive
  set { session with archive := archive }
  settle outcome

/-- A change of the file tree. -/
def onFiles (edit : Edit Unit) : Work Unit := do
  let session ← get
  let (outcome, files) := edit session.files
  set (session.withFiles files)
  settle outcome

def tell (notices : List Notice) : Work Unit :=
  modify fun session => { session with notices := session.notices ++ notices }

/-- Keeps what is handed to the console, which may still refuse its markup. -/
def print (printed : Printed) : Work Unit :=
  modify fun session => { session with printed := session.printed ++ [printed] }

/-- What the console was handed, and an empty page for what follows. -/
def takePrinted : Work (List Printed) := do
  let session ← get
  set { session with printed := [] }
  pure session.printed

/-- What an audience was told, and an empty page for what it is told next. -/
def takeEvents (audience : Audience) : Work (List Event) := do
  let session ← get
  set { session with
    notices := session.notices.filter fun notice => notice.audience ≠ audience }
  pure (Notice.eventsFor audience session.notices)

/-- The outcome of something that may fail, which lets what follows go on. -/
def attempt {α : Type} (work : Work α) : Work (Except Failure α) :=
  fun session =>
    let (outcome, after) := work session
    (.ok outcome, after)

/-- The outcome of some work, and what it told an audience itself; what a part of it recorded
is not told again. -/
def record {α : Type} (audience : Audience) (work : Work α) :
    Work (Except Failure α × List Event) := do
  let before ← takeEvents audience
  let outcome ← attempt work
  let events ← takeEvents audience
  tell (Notice.all audience before)
  pure (outcome, events)

def store (name : String) : Work Nat := do
  orMissing ((← get).stores.lookup name)

/-- The store under a name, in the place of the one that had it. -/
def nameStore (name : String) (store : Nat) : Work Unit :=
  modify fun session =>
    { session with stores := (name, store) :: session.stores.filter (·.1 ≠ name) }

def openStore (location : Location) : Work Nat :=
  onArchive (·.openStore location)

def closeStore (store : Nat) : Work Unit :=
  modify fun session => { session with archive := session.archive.close store }

def scan (indexer : Indexer) (patience : Patience) : Work Tally := do
  let session ← get
  let run := indexer.scan session.archive mainThread patience
  set { session with archive := run.archive, notices := session.notices ++ run.notices }
  settle run.outcome

def search (searcher : Searcher) (query : String) (limit? : Option Int) :
    Work (List (Match Similarity)) := do
  let session ← get
  let run := searcher.search session.archive mainThread query limit?
  set { session with archive := run.archive, notices := session.notices ++ run.notices }
  settle run.matches?

def scheduler (number : Nat) : Work Scheduler := do
  orMissing (← get).schedulers[number]?

def setScheduler (number : Nat) (scheduler : Scheduler) : Work Unit :=
  modify fun session => { session with schedulers := session.schedulers.set number scheduler }

/-- Takes over what a scheduled scan leaves. -/
def keepTick (run : TickRun) : Work Unit :=
  modify fun session =>
    { session with archive := run.archive, notices := session.notices ++ run.notices }

/-- A new scheduler, its number being its thread's less one. -/
def makeScheduler (indexer : Indexer) (interval : Double) (audience : Audience) : Work Nat := do
  let number := (← get).schedulers.length
  let scheduler ← settle (Scheduler.make indexer interval (number + 1) audience)
  modify fun session => { session with schedulers := session.schedulers ++ [scheduler] }
  pure number

def startScheduler (number : Nat) : Work Bool := do
  let (after, started) := (← scheduler number).start
  setScheduler number after
  if started then tell [⟨after.audience, .schedulerStarted after.interval⟩]
  pure started

/-- The next background scan of a scheduler, if it runs. -/
def advanceScheduler (number : Nat) : Work (Option Round) := do
  let session ← get
  let (after, run?) := (← scheduler number).background session.archive
  setScheduler number after
  match run? with
  | some run =>
      keepTick run
      pure (some ⟨run.tally?, after.interval⟩)
  | none => pure none

def stopScheduler (number : Nat) : Work SchedulerState := do
  let session ← get
  let (after, run) := (← scheduler number).stop session.archive
  setScheduler number after
  keepTick run
  pure after.state

def tick (number : Nat) : Work (Option Tally) := do
  let session ← get
  let run := (← scheduler number).tick session.archive mainThread
  keepTick run
  pure run.tally?

/-- The answer of a service to a request, whose handler is run on the given thread. -/
def respond (service : Service) (request : Request) (thread : Nat) : Work Response := do
  let session ← get
  let run := service.respond session.archive thread request
  set { session with archive := run.archive, notices := session.notices ++ run.notices }
  pure run.response

def settings (request : SettingsRequest) : Work Settings := do
  settle (Settings.ofRequest (← get).files request)

/-- Where a database lies, as seen from the current directory. -/
def databaseOf (settings : Settings) : Work Location := do
  let current := Location.ofString (← get).files.surroundings.current
  pure (settings.databaseFrom (some current))

/-- Opens the store of an index, in a directory made for it if need be, as the current one. -/
def openDatabase (location : Location) : Work Nat := do
  onFiles (.ensureDirectory location.parent)
  let store ← openStore location
  nameStore mainStore store
  pure store

def indexerFor (store : Nat) (settings : Settings) (audience : Audience) : Work Indexer := do
  let surroundings := (← get).files.surroundings
  let watch := settings.watch.map Location.toString
  settle (Indexer.make surroundings store watch settings.extensions audience)

def schedulerFor (indexer : Indexer) (interval : Double) (audience : Audience) : Work Nat := do
  let number ← makeScheduler indexer interval audience
  modify fun session => { session with scheduler? := some number }
  pure number

/-- The service that settings describe, with its store and its scheduler, as the current one. -/
def makeApplication (settings : Settings) (audience : Audience) : Work Unit := do
  let store ← openDatabase (← databaseOf settings)
  let indexer ← indexerFor store settings audience
  let number ← schedulerFor indexer settings.interval audience
  let searcher := Searcher.make store settings.snippetLength (some settings.searchLimit) audience
  let service : Service := ⟨some store, some searcher, some indexer, audience⟩
  modify fun session =>
    { session with
      indexer? := some indexer
      searcher? := some searcher
      application? := some ⟨service, some (number, store)⟩ }

/-- Starts what starts with the current service, and lets the current scheduler scan. -/
def startup : Work (Option Round) := do
  let application ← orMissing (← get).application?
  if let some (number, _) := application.lifespan? then
    let _ ← startScheduler number
  modify fun session => { session with entered? := application.lifespan? }
  match (← get).scheduler? with
  | none => pure none
  | some number => advanceScheduler number

/-- Ends what started with a service, and tells how the current scheduler is. -/
def shutdown : Work (Option SchedulerState) := do
  if let some (number, store) := (← get).entered? then
    let _ ← stopScheduler number
    closeStore store
  modify fun session => { session with entered? := none }
  match (← get).scheduler? with
  | none => pure none
  | some number => pure (some (← scheduler number).state)

end Session

end FolderIndex
