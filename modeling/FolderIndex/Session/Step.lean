import FolderIndex.Session.Command

namespace FolderIndex

/-! The steps of a session, and what each one does. -/

/-- A step. Those of a store name it, and a request the thread that its handler is run on. -/
inductive Step where
  | write (path : String) (octets : List UInt8)
  | makeDirectory (path : String)
  | remove (path : String)
  | move (path target : String)
  | link (path target : String)
  | deny (path : String)
  | allow (path : String)
  | clock (clock : Clock)
  | walk (root : String) (extensions : List String)
  | read (path : String)
  | openStore (store path : String)
  | close (store : String)
  | upsert (store path : String) (content? : Option String) (tokens : List String)
      (hash? : Option String)
  | getHash (store path : String)
  | listPaths (store : String)
  | listDocuments (store : String) (limit : Int)
  | delete (store path : String)
  | recordRoot (store root : String)
  | listRoots (store : String)
  | stats (store : String)
  | transaction (store : String) (fails : Bool) (steps : List Step)
  | insertPending (draft : Draft)
  | drop (store : String) (table : TableName)
  | trigger (store : String) (trigger : Trigger)
  | indexer (store : String) (watch extensions : List String)
  | scan (patience : Patience)
  | searcher (store : String) (snippetLength : Int) (limit? : Option Int)
  | search (query : String) (limit? : Option Int)
  | scheduler (interval : Double)
  | start (hold : Bool)
  | advance
  | stop
  | state
  | tick
  | reindex (patience : Patience)
  | application (request : SettingsRequest)
  | attached (store searcher scheduler : Bool)
  | startup
  | shutdown
  | http (request : Request) (thread : Nat := Session.mainThread)
  | command (words : List String) (hasServer : Bool) (meanwhile : List Step)

namespace Session

def current {α : Type} (part : Session → Option α) : Work α := do
  orMissing (part (← get))

/-- The results of a block of steps in a transaction, up to the insertion of a row that fails,
and the failure that breaks the block off. -/
structure BlockRun where
  results : List StepResult
  failure? : Option Failure

/-- A transaction around a block. A block that is broken off is rolled back; where the store
cannot even do that, its refusal is the failure. -/
def inTransaction (store : Nat) (fails : Bool) (block : Work BlockRun) : Work Answer := do
  let run ← block
  let failure? := run.failure?.or (if fails then some .rolledBack else none)
  match failure? with
  | none =>
      match ← attempt (onArchive fun archive => Archive.bare (archive.commit store)) with
      | .ok _ => pure (.transaction run.results none)
      | .error failure => pure (.transaction run.results (some failure))
  | some failure =>
      match ← attempt (onArchive fun archive => Archive.bare (archive.rollback store)) with
      | .ok _ => pure (.transaction run.results (some failure))
      | .error failure => pure (.transaction run.results (some failure))

/-- A step that contains no other steps. -/
def perform (step : Step) : Work Answer := do
  match step with
  | .write path octets =>
      onFiles (.write (.ofString path) octets)
      pure .done
  | .makeDirectory path =>
      onFiles (.createDirectory (.ofString path))
      pure .done
  | .remove path =>
      onFiles (.remove (.ofString path))
      pure .done
  | .move path target =>
      onFiles (.move (.ofString path) (.ofString target))
      pure .done
  | .link path target =>
      onFiles (.makeLink (.ofString path) target)
      pure .done
  | .deny path =>
      onFiles (.deny path)
      pure .done
  | .allow path =>
      onFiles (.allow path)
      pure .done
  | .clock clock =>
      modify fun session => { session with archive := { session.archive with clock := clock } }
      pure .done
  | .walk root extensions =>
      pure (.walk ((← get).files.walk extensions (.ofString root)))
  | .read path =>
      pure (.octets (← settle ((← get).files.read (.ofString path))))
  | .openStore name path =>
      nameStore name (← Session.openStore (.ofString path))
      pure .done
  | .close name =>
      closeStore (← store name)
      pure .done
  | .upsert name path content? tokens hash? =>
      let store ← store name
      onArchive (·.upsert store path content? tokens hash?)
      pure .done
  | .getHash name path =>
      let store ← store name
      pure (.hash (← onArchive (·.getHash store mainThread path)))
  | .listPaths name =>
      let store ← store name
      pure (.paths (← onArchive (·.listPaths store mainThread)))
  | .listDocuments name limit =>
      let store ← store name
      pure (.documents (← onArchive (·.listDocuments store mainThread limit)))
  | .delete name path =>
      let store ← store name
      pure (.flag (← onArchive (·.delete store path)))
  | .recordRoot name root =>
      let store ← store name
      onArchive (·.recordRoot store root)
      pure .done
  | .listRoots name =>
      let store ← store name
      pure (.roots (← onArchive (·.listRoots store mainThread)))
  | .stats name =>
      let store ← store name
      pure (.stats (← onArchive (·.stats store mainThread)))
  | .drop name table =>
      let store ← store name
      onArchive (·.drop store table)
      pure .done
  | .trigger name trigger =>
      let store ← store name
      onArchive (·.addTrigger store trigger)
      pure .done
  | .indexer name watch extensions =>
      let store ← store name
      let surroundings := (← get).files.surroundings
      let indexer ← settle (Indexer.make surroundings store watch extensions .caller)
      modify fun session => { session with indexer? := some indexer }
      pure (.indexer indexer)
  | .scan patience =>
      let indexer ← current (·.indexer?)
      pure (.tally (some (← Session.scan indexer patience)))
  | .searcher name snippetLength limit? =>
      let searcher := Searcher.make (← store name) snippetLength limit? .caller
      modify fun session => { session with searcher? := some searcher }
      pure (.searcher searcher)
  | .search query limit? =>
      let searcher ← current (·.searcher?)
      pure (.matches (← Session.search searcher query limit?))
  | .scheduler interval =>
      let number ← schedulerFor (← current (·.indexer?)) interval .caller
      pure (.state (some (← Session.scheduler number).state))
  | .start hold =>
      let number ← current (·.scheduler?)
      let started ← startScheduler number
      if started && !hold then pure (.started true (← advanceScheduler number))
      else pure (.started started none)
  | .advance =>
      pure (.round (← advanceScheduler (← current (·.scheduler?))))
  | .stop =>
      pure (.state (some (← stopScheduler (← current (·.scheduler?)))))
  | .state =>
      let scheduler ← Session.scheduler (← current (·.scheduler?))
      pure (.stateAndEvent scheduler.state scheduler.stopEvent)
  | .tick =>
      pure (.tally (← Session.tick (← current (·.scheduler?))))
  | .reindex patience =>
      let scheduler ← Session.scheduler (← current (·.scheduler?))
      pure (.tally (some (← Session.scan scheduler.indexer patience)))
  | .application request =>
      makeApplication (← Session.settings request) .caller
      pure .done
  | .attached withStore withSearcher withScheduler =>
      let session ← get
      let scheduler? := session.scheduler?.bind (session.schedulers[·]?)
      let service : Service := {
        store? := if withStore then session.stores.lookup mainStore else none
        searcher? := if withSearcher then session.searcher? else none
        indexer? := if withScheduler then scheduler?.map (·.indexer) else none
        audience := .caller }
      set { session with application? := some ⟨service, none⟩ }
      pure .done
  | .startup => pure (.round (← Session.startup))
  | .shutdown => pure (.state (← Session.shutdown))
  | .http request thread =>
      let application ← current (·.application?)
      pure (.response (← respond application.service request thread))
  | _ => pure .done

mutual

/-- What a step does. -/
def run : Step → Work Answer
  | .transaction name fails steps => do
      let store ← store name
      inTransaction store fails (runBlock store steps)
  | .command words hasServer meanwhile =>
      Command.runLine words hasServer (runEach meanwhile)
  | step => perform step

/-- The steps of a transaction on a store, up to a row that it refuses. -/
def runBlock (store : Nat) : List Step → Work BlockRun
  | [] => pure ⟨[], none⟩
  | .insertPending draft :: rest => do
      match ← record .caller (onArchive (·.insertPending store draft)) with
      | (.ok _, events) => do
          let run ← runBlock store rest
          pure { run with results := (.ok .done, events) :: run.results }
      | (.error failure, _) => pure ⟨[], some failure⟩
  | step :: rest => do
      let result ← record .caller (run step)
      let run ← runBlock store rest
      pure { run with results := result :: run.results }

/-- The results of steps one after the other, and what each one told its caller. -/
def runEach : List Step → Work (List StepResult)
  | [] => pure []
  | step :: rest => do
      let result ← record .caller (run step)
      let results ← runEach rest
      pure (result :: results)

end

/-- The results of steps one after the other, and what each one logged. -/
def runAll : List Step → Session → List StepResult
  | [], _ => []
  | step :: rest, session =>
      match record .caller (run step) session with
      | (.ok result, after) => result :: runAll rest after
      | (.error failure, after) => (.error failure, []) :: runAll rest after

end Session

end FolderIndex
