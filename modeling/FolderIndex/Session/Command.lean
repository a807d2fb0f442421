import FolderIndex.Session.Answer

namespace FolderIndex

/-! The commands. Each works on the session and hands its pages to the console; what runs while a
command waits is given to it. -/

/-- How a command ends that is not broken off. -/
inductive CommandEnding where
  | success
  | failed
  | badParameter (text : String)
deriving DecidableEq, Repr

/-- An ending, where a service was offered, and the results of what ran meanwhile. -/
structure CommandOutcome where
  ending : CommandEnding
  served? : Option ServedAt
  during : List StepResult

namespace Command

open Session

def ended (ending : CommandEnding) : CommandOutcome := ⟨ending, none, []⟩

/-- The settings that the options make. -/
def request (command : Command) : SettingsRequest :=
  { SettingsRequest.empty with
    database? := command.database?
    watch := command.watch
    extensions :=
      if command.extensions.isEmpty then Settings.defaultExtensions else command.extensions
    interval := command.interval
    searchLimit := command.limit?.getD Settings.defaultSearchLimit }

/-- One scan, and its counts. -/
def scanOnce (command : Command) : Work CommandOutcome := do
  let settings ← Session.settings command.request
  if settings.watch.isEmpty then
    print (.line "[yellow]No watch paths given.[/yellow]")
    pure (ended .success)
  else
    let location ← databaseOf settings
    let store ← openDatabase location
    let indexer ← indexerFor store settings .terminal
    print (.line ("Indexing into [bold]" ++ location.toString ++ "[/bold]..."))
    let outcome ← attempt (Session.scan indexer none)
    closeStore store
    match outcome with
    | .ok tally =>
        print (.line
          ("Inserted: " ++ toString tally.inserted ++ ", updated: " ++ toString tally.updated ++
            ", skipped: " ++ toString tally.skipped ++ ", removed: " ++ toString tally.removed))
        pure (ended .success)
    | .error failure =>
        if failure.isDocumented then
          print (.line ("[red]Scan failed:[/red] " ++ failure.message))
          pure (ended .failed)
        else throw failure

/-- The length of an extract in a table. -/
def columnLength : Int := 180

def matchRow (found : Match Similarity) : List String :=
  [found.score.toDouble.toFixed 4, found.path,
    Text.snippet columnLength (Text.onOneLine found.snippet)]

/-- One search of an index that is there, as a table. -/
def searchIndex (command : Command) : Work CommandOutcome := do
  let settings ← Session.settings command.request
  let location ← databaseOf settings
  let present ← settle ((← get).files.exists? location)
  if !present then
    pure (ended (.badParameter ("Database not found: " ++ location.toString)))
  else
    let store ← openStore location
    nameStore mainStore store
    let searcher :=
      Searcher.make store Text.snippetLength (some settings.searchLimit) .terminal
    let outcome ← attempt (Session.search searcher command.query none)
    closeStore store
    let found ← settle outcome
    if found.isEmpty then print (.line "[yellow]No matches found.[/yellow]")
    else print (.table ["Score", "Document", "Snippet"] (found.map matchRow))
    pure (ended .success)

/-- What an index that is there holds, as tables. -/
def listIndex (command : Command) : Work CommandOutcome := do
  let settings ← Session.settings command.request
  let location ← databaseOf settings
  let present ← settle ((← get).files.exists? location)
  if !present then
    print (.line "[yellow]Database not found, nothing indexed yet.[/yellow]")
    pure (ended .success)
  else
    let store ← openStore location
    nameStore mainStore store
    let outcome ← attempt do
      let documents ← onArchive (·.listDocuments store mainThread 0)
      let roots ← onArchive (·.listRoots store mainThread)
      let stats ← onArchive (·.stats store mainThread)
      pure (documents, roots, stats)
    closeStore store
    let (documents, roots, stats) ← settle outcome
    print (.table ["Document", "Updated", "Tokens"]
      (documents.map fun document =>
        [document.path, document.updatedAt, toString document.tokens.length]))
    unless roots.isEmpty do
      print (.table ["Watch root", "Last scan"] (roots.map fun root => [root.path, root.time]))
    let lastIndexed := (stats.lastIndexed?.filter (· ≠ "")).getD "never"
    print (.line (toString stats.documents ++ " documents, last indexed: " ++ lastIndexed))
    pure (ended .success)

/-- A store, and the scheduler that keeps it in line. -/
structure Watching where
  store : Nat
  scheduler : Nat
deriving DecidableEq, Repr

/-- Opens the store and starts the scans, the first of which is run; or says why not. -/
def beginWatching (command : Command) : Work (Except CommandEnding Watching) := do
  let settings ← Session.settings command.request
  if settings.watch.isEmpty then
    pure (.error (.badParameter "At least one --watch path is required"))
  else
    let store ← openDatabase (← databaseOf settings)
    let indexer ← indexerFor store settings .terminal
    let number ← schedulerFor indexer settings.interval .terminal
    print (.line
      ("Watching " ++ toString settings.watch.length ++ " folder(s), Ctrl-C to stop"))
    let _ ← startScheduler number
    let _ ← advanceScheduler number
    pure (.ok ⟨store, number⟩)

/-- Scans until it is stopped. -/
def watchRoots (command : Command) (meanwhile : Work (List StepResult)) : Work CommandOutcome := do
  match ← command.beginWatching with
  | .error ending => pure (ended ending)
  | .ok watching =>
      let during ← meanwhile
      let _ ← stopScheduler watching.scheduler
      closeStore watching.store
      pure ⟨.success, none, during⟩

/-- What is said where there is nothing to serve with. -/
def noServerText : String :=
  "uvicorn is not installed. Install the web extras with \"python -m pip install '.[web]'\""

/-- Makes the service that is going to be served. -/
def makeService (command : Command) : Work Unit := do
  let settings ← Session.settings command.request
  if settings.watch.isEmpty then
    print (.line "[yellow]Warning: no watch paths, the index will stay empty.[/yellow]")
  print (.line
    ("Starting LexFinder on http://" ++ command.host ++ ":" ++ toString command.port))
  makeApplication settings .terminal

/-- Where and how a command offers its service. -/
def servedAt (command : Command) : ServedAt :=
  ⟨command.host, command.port, false, Level.info⟩

/-- Serves until it is stopped. -/
def serveIndex (command : Command) (hasServer : Bool) (meanwhile : Work (List StepResult)) :
    Work CommandOutcome := do
  if !hasServer then
    pure (ended (.badParameter noServerText))
  else
    command.makeService
    let first ← record .caller (Answer.round <$> startup)
    let during ← meanwhile
    let last ← record .caller (Answer.state <$> shutdown)
    pure ⟨.success, some command.servedAt, first :: during ++ [last]⟩

def run (command : Command) (hasServer : Bool) (meanwhile : Work (List StepResult)) :
    Work CommandOutcome :=
  match command.name with
  | .scan => command.scanOnce
  | .search => command.searchIndex
  | .documents => command.listIndex
  | .watch => command.watchRoots meanwhile
  | .serve => command.serveIndex hasServer meanwhile

/-- The level of a command's log. -/
def level (command : Command) : Level :=
  if command.verbose then .debug else .info

/-- A command line from its words to its exit. -/
def runLine (words : List String) (hasServer : Bool) (meanwhile : Work (List StepResult)) :
    Work Answer := do
  match read? words with
  | none => pure (.command 2 [] [] (some .usage) none [])
  | some command =>
      let before ← takePrinted
      let (outcome, told) ← record .terminal (command.run hasServer meanwhile)
      let printed ← takePrinted
      before.forM print
      let events := Event.kept command.level told
      match outcome with
      | .error failure => pure (.command 1 printed events (some (.failure failure)) none [])
      | .ok outcome =>
          match outcome.ending with
          | .success => pure (.command 0 printed events none outcome.served? outcome.during)
          | .failed => pure (.command 1 printed events none outcome.served? outcome.during)
          | .badParameter text =>
              pure (.command 2 printed events (some (.badParameter text)) none [])

end Command

end FolderIndex
