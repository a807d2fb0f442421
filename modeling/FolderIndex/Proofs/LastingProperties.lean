import FolderIndex.Proofs.Work
import FolderIndex.Session.Step

namespace FolderIndex.Session

/-! Properties of sessions that last. A property lasts if it is kept where a searcher, a service or a
scheduler is made and where a scheduler goes on, and if it asks for nothing else of a session. Then
all work keeps it, and every session that arises has it. -/

/-- Some work keeps a property, whatever comes of it. -/
def Maintains {α : Type} (holds : Session → Prop) (work : Work α) : Prop :=
  ∀ session, holds session → holds (work session).2

/-- A scheduler after another of which it is a later state. -/
def Continues (earlier later : Scheduler) : Prop :=
  later.indexer = earlier.indexer ∧ later.interval = earlier.interval ∧
    later.audience = earlier.audience

/-- The changes that a property has to outlast. -/
structure Lasting (holds : Session → Prop) : Prop where
  elsewhere : ∀ {before after : Session}, holds before →
    after.searcher? = before.searcher? → after.application? = before.application? →
    after.schedulers = before.schedulers → holds after
  searcher : ∀ {session : Session} (store : Nat) (snippetLength : Int) (limit? : Option Int)
    (audience : Audience), holds session →
      holds { session with searcher? := some (.make store snippetLength limit? audience) }
  application : ∀ {session : Session} (service : Service) (lifespan? : Option (Nat × Nat)),
    holds session → service.searcher? = none ∨ service.searcher? = session.searcher? →
      holds { session with application? := some ⟨service, lifespan?⟩ }
  scheduler : ∀ {session : Session} {indexer : Indexer} {interval : Double} {thread : Nat}
    {audience : Audience} {made : Scheduler}, holds session →
      Scheduler.make indexer interval thread audience = .ok made →
      holds { session with schedulers := session.schedulers ++ [made] }
  progress : ∀ {session : Session} {number : Nat} {earlier later : Scheduler}, holds session →
    session.schedulers[number]? = some earlier → Continues earlier later →
      holds { session with schedulers := session.schedulers.set number later }

theorem continues_start (scheduler : Scheduler) : Continues scheduler scheduler.start.1 := by
  unfold Scheduler.start
  split <;> exact ⟨rfl, rfl, rfl⟩

theorem continues_background (scheduler : Scheduler) (archive : Archive) :
    Continues scheduler (scheduler.background archive).1 := by
  unfold Scheduler.background
  split <;> exact ⟨rfl, rfl, rfl⟩

theorem continues_stop (scheduler : Scheduler) (archive : Archive) :
    Continues scheduler (scheduler.stop archive).1 := by
  unfold Scheduler.stop
  split
  · exact ⟨rfl, rfl, rfl⟩
  · dsimp only
    split <;> exact ⟨rfl, rfl, rfl⟩

variable {α β : Type} {holds : Session → Prop} {work : Work α} {session : Session}

/-! Work that is put together from work that keeps a property. -/

theorem Maintains.pure (value : α) : Maintains holds (pure value : Work α) :=
  fun _ held => held

theorem Maintains.bind {next : α → Work β} (first : Maintains holds work)
    (rest : ∀ value, Maintains holds (next value)) : Maintains holds (work >>= next) := by
  intro session held
  have kept := first session held
  rw [bind_apply]
  split
  · rename_i value after ran
    rw [ran] at kept
    exact rest value after kept
  · rename_i failure after ran
    rw [ran] at kept
    exact kept

theorem Maintains.map {change : α → β} (kept : Maintains holds work) :
    Maintains holds (change <$> work) := by
  rw [map_eq_pure_bind]
  exact kept.bind fun _ => .pure _

theorem Maintains.attempt (kept : Maintains holds work) : Maintains holds (attempt work) :=
  fun session held => kept session held

theorem Maintains.settle (outcome : Except Failure α) : Maintains holds (settle outcome) := by
  intro session held
  rwa [settle_apply]

/-- What follows a look at a session may go by what it saw. -/
theorem Maintains.of_get {next : Session → Work β}
    (rest : ∀ session, holds session → holds (next session session).2) :
    Maintains holds (get >>= next) :=
  fun session held => rest session held

theorem Maintains.get : Maintains holds (get : Work Session) := fun _ held => held

theorem Maintains.orMissing (value? : Option α) : Maintains holds (orMissing value?) := by
  cases value? with
  | some value => exact .pure value
  | none => exact fun _ held => held

theorem Maintains.current (part : Session → Option α) : Maintains holds (current part) :=
  Maintains.get.bind fun _ => .orMissing _

theorem Maintains.store (name : String) : Maintains holds (store name) :=
  Maintains.get.bind fun _ => .orMissing _

theorem Maintains.settings (request : SettingsRequest) : Maintains holds (settings request) :=
  Maintains.get.bind fun _ => .settle _

theorem Maintains.databaseOf (settings : Settings) : Maintains holds (databaseOf settings) :=
  Maintains.get.bind fun _ => .pure _

theorem Maintains.indexerFor (store : Nat) (settings : Settings) (audience : Audience) :
    Maintains holds (indexerFor store settings audience) :=
  Maintains.get.bind fun _ => .settle _

/-- What follows a look at a scheduler may go by its being there. -/
theorem Maintains.of_scheduler {number : Nat} {next : Scheduler → Work β}
    (rest : ∀ session earlier, holds session → session.schedulers[number]? = some earlier →
      holds (next earlier session).2) : Maintains holds (scheduler number >>= next) := by
  intro session held
  cases found : session.schedulers[number]? with
  | none => simpa [scheduler, found, Session.orMissing] using held
  | some earlier => simpa [scheduler, found] using rest session earlier held found

theorem Maintains.scheduler (number : Nat) : Maintains holds (scheduler number) :=
  Maintains.get.bind fun _ => .orMissing _

/-! The work of a session. -/

section

variable (lasting : Lasting holds)

include lasting

theorem maintains_onArchive (operation : Archive → Archive.Outcome α) :
    Maintains holds (onArchive operation) := by
  intro session held
  rw [onArchive_apply]
  exact lasting.elsewhere held rfl rfl rfl

theorem maintains_onFiles (edit : Edit Unit) : Maintains holds (onFiles edit) := by
  refine Maintains.of_get fun session held => ?_
  obtain ⟨outcome, files⟩ := edit session.files
  simp only [bind_apply, set_apply, settle_apply]
  exact lasting.elsewhere held rfl rfl rfl

theorem maintains_modify {change : Session → Session}
    (elsewhere : ∀ session, (change session).searcher? = session.searcher? ∧
      (change session).application? = session.application? ∧
      (change session).schedulers = session.schedulers) :
    Maintains holds (modify change : Work PUnit) := by
  intro session held
  obtain ⟨searcher, application, schedulers⟩ := elsewhere session
  exact lasting.elsewhere held searcher application schedulers

theorem maintains_tell (notices : List Notice) : Maintains holds (tell notices) :=
  maintains_modify lasting fun _ => ⟨rfl, rfl, rfl⟩

theorem maintains_print (printed : Printed) : Maintains holds (print printed) :=
  maintains_modify lasting fun _ => ⟨rfl, rfl, rfl⟩

theorem maintains_nameStore (name : String) (store : Nat) : Maintains holds (nameStore name store) :=
  maintains_modify lasting fun _ => ⟨rfl, rfl, rfl⟩

theorem maintains_closeStore (store : Nat) : Maintains holds (closeStore store) :=
  maintains_modify lasting fun _ => ⟨rfl, rfl, rfl⟩

theorem maintains_keepTick (run : TickRun) : Maintains holds (keepTick run) :=
  maintains_modify lasting fun _ => ⟨rfl, rfl, rfl⟩

theorem maintains_takePrinted : Maintains holds takePrinted :=
  Maintains.of_get fun _ held => lasting.elsewhere held rfl rfl rfl

theorem maintains_takeEvents (audience : Audience) : Maintains holds (takeEvents audience) :=
  Maintains.of_get fun _ held => lasting.elsewhere held rfl rfl rfl

theorem maintains_scan (indexer : Indexer) (patience : Patience) :
    Maintains holds (scan indexer patience) := by
  refine Maintains.of_get fun session held => ?_
  simp only [bind_apply, set_apply, settle_apply]
  exact lasting.elsewhere held rfl rfl rfl

theorem maintains_search (searcher : Searcher) (query : String) (limit? : Option Int) :
    Maintains holds (search searcher query limit?) := by
  refine Maintains.of_get fun session held => ?_
  simp only [bind_apply, set_apply, settle_apply]
  exact lasting.elsewhere held rfl rfl rfl

theorem maintains_respond (service : Service) (request : Request) (thread : Nat) :
    Maintains holds (respond service request thread) :=
  Maintains.of_get fun _ held => lasting.elsewhere held rfl rfl rfl

theorem maintains_record (audience : Audience) (kept : Maintains holds work) :
    Maintains holds (record audience work) :=
  (maintains_takeEvents lasting audience).bind fun _ => kept.attempt.bind fun _ =>
    (maintains_takeEvents lasting audience).bind fun _ => (maintains_tell lasting _).bind fun _ =>
      .pure _

theorem maintains_forM (pages : List Printed) : Maintains holds (pages.forM print) := by
  induction pages with
  | nil => exact .pure _
  | cons page rest ih => exact (maintains_print lasting page).bind fun _ => ih

/-! The work on schedulers. -/

/-- A scheduler that goes on keeps a property, and so does what follows. -/
theorem holds_setScheduler {number : Nat} {earlier later : Scheduler} {next : Work β}
    (held : holds session) (there : session.schedulers[number]? = some earlier)
    (continues : Continues earlier later) (kept : Maintains holds next) :
    holds ((setScheduler number later >>= fun _ => next) session).2 :=
  kept _ (lasting.progress held there continues)

theorem maintains_startScheduler (number : Nat) : Maintains holds (startScheduler number) := by
  refine Maintains.of_scheduler fun session earlier held there => ?_
  refine holds_setScheduler lasting held there (continues_start earlier) ?_
  split
  · exact (maintains_tell lasting _).bind fun _ => .pure _
  · exact .pure _

theorem maintains_advanceScheduler (number : Nat) :
    Maintains holds (advanceScheduler number) := by
  refine Maintains.of_get fun first held => ?_
  refine Maintains.of_scheduler (fun session earlier held there => ?_) first held
  refine holds_setScheduler lasting held there (continues_background earlier first.archive) ?_
  split
  · exact (maintains_keepTick lasting _).bind fun _ => .pure _
  · exact .pure _

theorem maintains_stopScheduler (number : Nat) : Maintains holds (stopScheduler number) := by
  refine Maintains.of_get fun first held => ?_
  refine Maintains.of_scheduler (fun session earlier held there => ?_) first held
  exact holds_setScheduler lasting held there (continues_stop earlier first.archive)
    ((maintains_keepTick lasting _).bind fun _ => .pure _)

theorem maintains_tick (number : Nat) : Maintains holds (tick number) :=
  Maintains.get.bind fun _ => (Maintains.scheduler number).bind fun _ =>
    (maintains_keepTick lasting _).bind fun _ => .pure _

theorem maintains_makeScheduler (indexer : Indexer) (interval : Double) (audience : Audience) :
    Maintains holds (makeScheduler indexer interval audience) := by
  refine Maintains.of_get fun session held => ?_
  rw [bind_apply, settle_apply]
  cases made : Scheduler.make indexer interval (session.schedulers.length + 1) audience with
  | error failure => exact held
  | ok scheduler => exact lasting.scheduler held made

theorem maintains_schedulerFor (indexer : Indexer) (interval : Double) (audience : Audience) :
    Maintains holds (schedulerFor indexer interval audience) :=
  (maintains_makeScheduler lasting indexer interval audience).bind fun _ =>
    Maintains.bind (maintains_modify lasting (by exact fun _ => ⟨rfl, rfl, rfl⟩)) fun _ => .pure _

/-! The work on a service. -/

theorem maintains_openDatabase (location : Location) : Maintains holds (openDatabase location) :=
  (maintains_onFiles lasting _).bind fun _ => (maintains_onArchive lasting _).bind fun _ =>
    (maintains_nameStore lasting mainStore _).bind fun _ => .pure _

theorem maintains_makeApplication (settings : Settings) (audience : Audience) :
    Maintains holds (makeApplication settings audience) := by
  refine (Maintains.databaseOf settings).bind fun location => ?_
  refine (maintains_openDatabase lasting location).bind fun store => ?_
  refine (Maintains.indexerFor store settings audience).bind fun indexer => ?_
  refine (maintains_schedulerFor lasting indexer settings.interval audience).bind fun number => ?_
  intro session held
  have searching := lasting.searcher store settings.snippetLength (some settings.searchLimit)
    audience held
  have serving := lasting.application
    ⟨some store, some (.make store settings.snippetLength (some settings.searchLimit) audience),
      some indexer, audience⟩ (some (number, store)) searching (.inr rfl)
  exact lasting.elsewhere serving rfl rfl rfl

theorem maintains_startup : Maintains holds startup := by
  refine Maintains.get.bind fun _ => (Maintains.orMissing _).bind fun application => ?_
  dsimp only
  split
  case' h_1 => refine (maintains_startScheduler lasting _).bind fun _ => ?_
  all_goals
    refine Maintains.bind (maintains_modify lasting ?_) fun _ => Maintains.get.bind fun _ => ?_
    · exact fun _ => ⟨rfl, rfl, rfl⟩
    · split
      · exact .pure _
      · exact maintains_advanceScheduler lasting _

theorem maintains_shutdown : Maintains holds shutdown := by
  refine Maintains.get.bind fun _ => ?_
  split
  case' h_1 =>
    refine (maintains_stopScheduler lasting _).bind fun _ =>
      (maintains_closeStore lasting _).bind fun _ => ?_
  all_goals
    refine Maintains.bind (maintains_modify lasting ?_) fun _ => Maintains.get.bind fun _ => ?_
    · exact fun _ => ⟨rfl, rfl, rfl⟩
    · split
      · exact .pure _
      · exact (Maintains.scheduler _).bind fun _ => .pure _

/-! The commands. -/

theorem maintains_scanOnce (command : Command) : Maintains holds command.scanOnce := by
  refine (Maintains.settings _).bind fun settings => ?_
  split
  · exact (maintains_print lasting _).bind fun _ => .pure _
  · refine (Maintains.databaseOf settings).bind fun location => ?_
    refine (maintains_openDatabase lasting location).bind fun store => ?_
    refine (Maintains.indexerFor store settings .terminal).bind fun indexer => ?_
    refine (maintains_print lasting _).bind fun _ => ?_
    refine (maintains_scan lasting indexer none).attempt.bind fun outcome => ?_
    refine (maintains_closeStore lasting store).bind fun _ => ?_
    split
    · exact (maintains_print lasting _).bind fun _ => .pure _
    · split
      · exact (maintains_print lasting _).bind fun _ => .pure _
      · exact .settle (.error _)

theorem maintains_searchIndex (command : Command) : Maintains holds command.searchIndex := by
  refine (Maintains.settings _).bind fun settings => ?_
  refine (Maintains.databaseOf settings).bind fun location => ?_
  refine Maintains.get.bind fun _ => (Maintains.settle _).bind fun present => ?_
  split
  · exact .pure _
  · refine (maintains_onArchive lasting _).bind fun store => ?_
    refine (maintains_nameStore lasting mainStore store).bind fun _ => ?_
    refine (maintains_search lasting _ _ _).attempt.bind fun outcome => ?_
    refine (maintains_closeStore lasting store).bind fun _ => ?_
    refine (Maintains.settle outcome).bind fun found => ?_
    split
    · exact (maintains_print lasting _).bind fun _ => .pure _
    · exact (maintains_print lasting _).bind fun _ => .pure _

theorem maintains_listIndex (command : Command) : Maintains holds command.listIndex := by
  refine (Maintains.settings _).bind fun settings => ?_
  refine (Maintains.databaseOf settings).bind fun location => ?_
  refine Maintains.get.bind fun _ => (Maintains.settle _).bind fun present => ?_
  split
  · exact (maintains_print lasting _).bind fun _ => .pure _
  · refine (maintains_onArchive lasting _).bind fun store => ?_
    refine (maintains_nameStore lasting mainStore store).bind fun _ => ?_
    refine Maintains.bind (Maintains.attempt ?_) fun outcome => ?_
    · exact (maintains_onArchive lasting _).bind fun _ => (maintains_onArchive lasting _).bind fun _ =>
        (maintains_onArchive lasting _).bind fun _ => .pure _
    refine (maintains_closeStore lasting store).bind fun _ => ?_
    refine (Maintains.settle outcome).bind fun found => ?_
    have ending : Maintains holds (do
        let lastIndexed := (found.2.2.lastIndexed?.filter (· ≠ "")).getD "never"
        print (.line (toString found.2.2.documents ++ " documents, last indexed: " ++ lastIndexed))
        pure (Command.ended .success)) :=
      (maintains_print lasting _).bind fun _ => .pure _
    refine (maintains_print lasting _).bind fun _ => ?_
    split
    · exact ending
    · exact (maintains_print lasting _).bind fun _ => ending

theorem maintains_beginWatching (command : Command) : Maintains holds command.beginWatching := by
  refine (Maintains.settings _).bind fun settings => ?_
  split
  · exact .pure _
  · refine (Maintains.databaseOf settings).bind fun location => ?_
    refine (maintains_openDatabase lasting location).bind fun store => ?_
    refine (Maintains.indexerFor store settings .terminal).bind fun indexer => ?_
    refine (maintains_schedulerFor lasting indexer settings.interval .terminal).bind fun number => ?_
    exact (maintains_print lasting _).bind fun _ => (maintains_startScheduler lasting number).bind fun _ =>
      (maintains_advanceScheduler lasting number).bind fun _ => .pure _

theorem maintains_makeService (command : Command) : Maintains holds command.makeService := by
  refine (Maintains.settings _).bind fun settings => ?_
  have making : Maintains holds (do
      print (.line
        ("Starting LexFinder on http://" ++ command.host ++ ":" ++ toString command.port))
      makeApplication settings .terminal) :=
    (maintains_print lasting _).bind fun _ => maintains_makeApplication lasting settings .terminal
  dsimp only
  split
  · exact (maintains_print lasting _).bind fun _ => making
  · exact making

theorem maintains_command (command : Command) (hasServer : Bool) {meanwhile : Work (List StepResult)}
    (kept : Maintains holds meanwhile) : Maintains holds (command.run hasServer meanwhile) := by
  unfold Command.run
  split
  · exact maintains_scanOnce lasting command
  · exact maintains_searchIndex lasting command
  · exact maintains_listIndex lasting command
  · refine (maintains_beginWatching lasting command).bind fun begun => ?_
    cases begun with
    | error ending => exact .pure _
    | ok watching =>
        exact kept.bind fun _ => (maintains_stopScheduler lasting _).bind fun _ =>
          (maintains_closeStore lasting _).bind fun _ => .pure _
  · unfold Command.serveIndex
    split
    · exact .pure _
    · refine (maintains_makeService lasting command).bind fun _ => ?_
      refine (maintains_record lasting .caller (maintains_startup lasting).map).bind fun first => ?_
      refine kept.bind fun during => ?_
      exact (maintains_record lasting .caller (maintains_shutdown lasting).map).bind fun _ => .pure _

theorem maintains_runLine (words : List String) (hasServer : Bool)
    {meanwhile : Work (List StepResult)} (kept : Maintains holds meanwhile) :
    Maintains holds (Command.runLine words hasServer meanwhile) := by
  unfold Command.runLine
  split
  · exact .pure _
  · rename_i command read
    refine (maintains_takePrinted lasting).bind fun before => ?_
    refine (maintains_record lasting .terminal
      (maintains_command lasting command hasServer kept)).bind fun told => ?_
    refine (maintains_takePrinted lasting).bind fun printed => ?_
    refine (maintains_forM lasting before).bind fun _ => ?_
    dsimp only
    split
    · exact .pure _
    · split <;> exact .pure _

/-! The steps. -/

theorem maintains_perform (step : Step) : Maintains holds (perform step) := by
  cases step
  case write | makeDirectory | remove | move | link | deny | allow =>
    exact (maintains_onFiles lasting _).bind fun _ => .pure _
  case upsert | getHash | listPaths | listDocuments | delete | recordRoot | listRoots | stats | drop |
      trigger =>
    exact (Maintains.store _).bind fun _ => (maintains_onArchive lasting _).bind fun _ => .pure _
  case clock =>
    refine Maintains.bind (maintains_modify lasting ?_) fun _ => .pure _
    exact fun _ => ⟨rfl, rfl, rfl⟩
  case walk => exact Maintains.get.bind fun _ => .pure _
  case read => exact Maintains.get.bind fun _ => (Maintains.settle _).bind fun _ => .pure _
  case openStore =>
    exact (maintains_onArchive lasting _).bind fun _ =>
      (maintains_nameStore lasting _ _).bind fun _ => .pure _
  case close =>
    exact (Maintains.store _).bind fun _ => (maintains_closeStore lasting _).bind fun _ => .pure _
  case indexer =>
    refine (Maintains.store _).bind fun _ => Maintains.get.bind fun _ =>
      (Maintains.settle _).bind fun _ => ?_
    refine Maintains.bind (maintains_modify lasting ?_) fun _ => .pure _
    exact fun _ => ⟨rfl, rfl, rfl⟩
  case scan =>
    exact (Maintains.current _).bind fun _ => (maintains_scan lasting _ _).bind fun _ => .pure _
  case searcher name snippetLength limit? =>
    refine (Maintains.store name).bind fun store => Maintains.bind ?_ fun _ => .pure _
    exact fun session held => lasting.searcher store snippetLength limit? .caller held
  case search =>
    exact (Maintains.current _).bind fun _ => (maintains_search lasting _ _ _).bind fun _ => .pure _
  case scheduler =>
    exact (Maintains.current _).bind fun _ => (maintains_schedulerFor lasting _ _ _).bind fun _ =>
      (Maintains.scheduler _).bind fun _ => .pure _
  case start =>
    refine (Maintains.current _).bind fun _ => (maintains_startScheduler lasting _).bind fun _ => ?_
    split
    · exact (maintains_advanceScheduler lasting _).bind fun _ => .pure _
    · exact .pure _
  case advance =>
    exact (Maintains.current _).bind fun _ => (maintains_advanceScheduler lasting _).bind fun _ => .pure _
  case stop =>
    exact (Maintains.current _).bind fun _ => (maintains_stopScheduler lasting _).bind fun _ => .pure _
  case state =>
    exact (Maintains.current _).bind fun _ => (Maintains.scheduler _).bind fun _ => .pure _
  case tick =>
    exact (Maintains.current _).bind fun _ => (maintains_tick lasting _).bind fun _ => .pure _
  case reindex =>
    exact (Maintains.current _).bind fun _ => (Maintains.scheduler _).bind fun _ =>
      (maintains_scan lasting _ _).bind fun _ => .pure _
  case application =>
    exact (Maintains.settings _).bind fun _ => (maintains_makeApplication lasting _ _).bind fun _ => .pure _
  case attached withStore withSearcher withScheduler =>
    refine Maintains.of_get fun session held => lasting.application _ none held ?_
    cases withSearcher with
    | false => exact .inl rfl
    | true => exact .inr rfl
  case startup => exact (maintains_startup lasting).bind fun _ => .pure _
  case shutdown => exact (maintains_shutdown lasting).bind fun _ => .pure _
  case http =>
    exact (Maintains.current _).bind fun _ =>
      (maintains_respond lasting _ _ _).bind fun _ => .pure _
  case transaction | insertPending | command => exact .pure _

theorem maintains_inTransaction (store : Nat) (fails : Bool) {block : Work BlockRun}
    (kept : Maintains holds block) : Maintains holds (inTransaction store fails block) := by
  refine kept.bind fun run => ?_
  dsimp only
  split
  · refine (maintains_onArchive lasting _).attempt.bind fun outcome => ?_
    cases outcome <;> exact .pure _
  · refine (maintains_onArchive lasting _).attempt.bind fun outcome => ?_
    cases outcome <;> exact .pure _

-- A transaction and a command hold further steps, so the induction goes over steps and lists of them.
mutual

theorem maintains_run (step : Step) : Maintains holds (run step) := by
  cases step
  case transaction name fails steps =>
    exact (Maintains.store name).bind fun store =>
      maintains_inTransaction lasting store fails (maintains_runBlock store steps)
  case command words hasServer meanwhile =>
    exact maintains_runLine lasting words hasServer (maintains_runEach meanwhile)
  all_goals exact maintains_perform lasting _

theorem maintains_runBlock (store : Nat) (steps : List Step) :
    Maintains holds (runBlock store steps) := by
  match steps with
  | [] => exact .pure _
  | step :: rest =>
      cases step
      case insertPending draft =>
        refine (maintains_record lasting .caller (maintains_onArchive lasting _)).bind fun told => ?_
        split
        · exact (maintains_runBlock store rest).bind fun _ => .pure _
        · exact .pure _
      all_goals
        exact (maintains_record lasting .caller (maintains_run _)).bind fun _ =>
          (maintains_runBlock store rest).bind fun _ => .pure _

theorem maintains_runEach (steps : List Step) : Maintains holds (runEach steps) := by
  match steps with
  | [] => exact .pure _
  | step :: rest =>
      exact (maintains_record lasting .caller (maintains_run step)).bind fun _ =>
        (maintains_runEach rest).bind fun _ => .pure _

end

end

/-- The sessions in which steps are done: a first one, what steps leave, and what a command has left
that waits while others are done. What was told or printed may be taken away. -/
inductive Arises : Session → Prop where
  | initial (surroundings : Surroundings) (clock : Clock) : Arises (.initial surroundings clock)
  | step {session : Session} (step : Step) (arises : Arises session) : Arises (run step session).2
  | watching {session : Session} (command : Command) (arises : Arises session) :
      Arises (command.beginWatching session).2
  | serving {session : Session} (command : Command) (arises : Arises session) :
      Arises (record .caller (Answer.round <$> startup) (command.makeService session).2).2
  | emptied {session : Session} (notices : List Notice) (printed : List Printed)
      (arises : Arises session) : Arises { session with notices := notices, printed := printed }

/-- A property that lasts and that first sessions have is had by all that arise. -/
theorem Lasting.of_arises (lasting : Lasting holds)
    (first : ∀ surroundings clock, holds (.initial surroundings clock)) (arises : session.Arises) :
    holds session := by
  induction arises with
  | initial surroundings clock => exact first surroundings clock
  | step step _ held => exact maintains_run lasting step _ held
  | watching command _ held => exact maintains_beginWatching lasting command _ held
  | serving command _ held =>
      exact maintains_record lasting .caller (maintains_startup lasting).map _
        (maintains_makeService lasting command _ held)
  | emptied notices printed _ held => exact lasting.elsewhere held rfl rfl rfl

end FolderIndex.Session
