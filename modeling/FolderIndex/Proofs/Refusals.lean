import FolderIndex.Proofs.ClosedStores
import FolderIndex.Proofs.Course

namespace FolderIndex

/-! What a closed store refuses. Whatever is done after the close, each call of the store fails
with an error of the store, and so does everything that reaches it. -/

/-- What can be done with stores, and around them. -/
inductive Use where
  | made (call : StoreCall)
  | insertPending (store : Nat) (draft : Draft)
  | commit (store : Nat)
  | rollback (store : Nat)
  | drop (store : Nat) (table : TableName)
  | addTrigger (store : Nat) (trigger : Trigger)
  | scan (indexer : Indexer) (thread : Nat) (patience : Patience)
  | search (searcher : Searcher) (thread : Nat) (query : String) (limit? : Option Int)
  | asked (service : Service) (thread : Nat) (request : Request)
  | elsewhere (files : FileTree) (clock : Clock)

def Use.perform (archive : Archive) : Use → Archive
  | .made call => (archive.perform call).2
  | .insertPending store draft => (archive.insertPending store draft).2
  | .commit store => (archive.commit store).2
  | .rollback store => (archive.rollback store).2
  | .drop store table => (archive.drop store table).2
  | .addTrigger store trigger => (archive.addTrigger store trigger).2
  | .scan indexer thread patience => (indexer.scan archive thread patience).archive
  | .search searcher thread query limit? => (searcher.search archive thread query limit?).archive
  | .asked service thread request => (service.respond archive thread request).archive
  | .elsewhere files clock => { archive with files := files, clock := clock }

/-! Uses of any stores go past a closed one. -/

theorem Archive.Bypasses.rollback (store : Nat) (archive : Archive) (other : Nat) :
    Bypasses store archive (archive.rollback other).2 := by
  unfold Archive.rollback
  split
  · exact .refl store archive
  · exact .setDatabase fun free => free.rollback

namespace Archive.IsShut

variable {archive : Archive} {store : Nat} {progress : Progress}

theorem lookUp (shut : archive.IsShut store) (files : FileTree) (other thread : Nat)
    (path : String) : Bypasses store archive (archive.lookUp files other thread path).2 := by
  rw [lookUp_snd]
  exact shut.getHash other thread path

theorem markRoot (shut : archive.IsShut store) (files : FileTree) (other : Nat) (root : String) :
    Bypasses store archive (archive.markRoot files other root).2 := by
  unfold Archive.markRoot
  split
  · exact shut.recordRoot other root
  · exact Bypasses.trans (.of_files store archive _ _) (.rollback store _ other)

theorem indexOctets (shut : progress.archive.IsShut store) (files : FileTree)
    (other thread : Nat) (path : String) (octets : List UInt8) : Bypasses store progress.archive
      (progress.indexOctets files other thread path octets).1.archive := by
  have looked := shut.lookUp files other thread path
  unfold Progress.indexOctets
  dsimp only
  cases found : progress.archive.lookUp files other thread path with
  | mk result after =>
      rw [found] at looked
      cases result with
      | error failure => exact looked
      | ok previous =>
          dsimp only
          split
          · exact looked
          · have written := (shut.of_bypasses looked).upsert other path
              (some (Text.decodeUtf8 octets)) (Text.tokenize (Text.decodeUtf8 octets))
              (some (digest octets))
            split
            · rename_i outcome
              rw [outcome] at written
              exact looked.trans written
            · rename_i outcome
              rw [outcome] at written
              exact looked.trans written

theorem act (shut : progress.archive.IsShut store) (files : FileTree) (other thread : Nat)
    (action : ScanAction) : Bypasses store progress.archive
      (progress.act files other thread action).1.archive := by
  cases action with
  | poll =>
      simp only [Progress.act, Progress.poll]
      split <;> exact .refl store _
  | visit path =>
      simp only [Progress.act, Progress.visit]
      split
      · exact .refl store _
      · have entered : ({ progress with seen := progress.seen ++ [path] } : Progress).archive.IsShut
            store := shut
        exact entered.indexOctets files other thread path _
  | fail failure => exact .refl store _
  | remove path =>
      have deleted := shut.delete other path
      simp only [Progress.act, Progress.remove]
      cases outcome : progress.archive.delete other path with
      | mk result after =>
          rw [outcome] at deleted
          cases result with
          | error failure => exact deleted
          | ok removed => cases removed <;> exact deleted
  | recordRoot root =>
      have recorded := shut.markRoot files other root
      simp only [Progress.act, Progress.recordRoot]
      cases outcome : progress.archive.markRoot files other root with
      | mk result after =>
          rw [outcome] at recorded
          cases result <;> exact recorded

theorem scan (shut : archive.IsShut store) (indexer : Indexer) (thread : Nat)
    (patience : Patience) :
    Bypasses store archive (indexer.scan archive thread patience).archive := by
  obtain ⟨stage, passed, same⟩ := indexer.scan_archive_mem_stages archive thread patience
  rw [← same]
  refine Indexer.of_mem_stages (fun progress => Bypasses store archive progress.archive)
    (.refl store archive) ?_ ?_ passed
  · intro action _ before bypasses
    exact bypasses.trans ((shut.of_bypasses bypasses).act _ _ _ action)
  · intro before bypasses
    exact bypasses.trans ((shut.of_bypasses bypasses).query _ _ .listPaths Tables.paths)

theorem search (shut : archive.IsShut store) (searcher : Searcher) (thread : Nat)
    (query : String) (limit? : Option Int) :
    Bypasses store archive (searcher.search archive thread query limit?).archive := by
  have listed := shut.listDocuments searcher.store thread 0
  unfold Searcher.search
  dsimp only
  split
  · exact .refl store archive
  · split
    · rename_i outcome
      rw [outcome] at listed
      exact listed
    · rename_i outcome
      rw [outcome] at listed
      exact listed

theorem listing (shut : archive.IsShut store) (other thread : Nat) :
    Bypasses store archive (Service.listing archive other thread).2 := by
  have first := shut.listDocuments other thread 0
  unfold Service.listing
  split
  · rename_i outcome
    rw [outcome] at first
    exact first
  · rename_i between outcome
    rw [outcome] at first
    have second := first.trans
      ((shut.of_bypasses first).query other thread .listRoots Tables.rootScans)
    split
    · rename_i outcome
      rw [← listRoots, outcome] at second
      exact second
    · rename_i outcome
      rw [← listRoots, outcome] at second
      have third := second.trans ((shut.of_bypasses second).query other thread .stats Tables.stats)
      split
      · rename_i outcome
        rw [← stats, outcome] at third
        exact third
      · rename_i outcome
        rw [← stats, outcome] at third
        exact third

theorem call (shut : archive.IsShut store) (service : Service) (thread : Nat)
    (request : Request) (endpoint : Endpoint) :
    Bypasses store archive (service.call archive thread request endpoint).archive := by
  rw [(service.call_told archive thread request endpoint).2]
  cases endpoint with
  | search =>
      unfold Service.underlying
      dsimp only
      split
      · exact shut.search _ thread _ _
      · exact .refl store archive
  | documents =>
      unfold Service.underlying
      cases service.store? with
      | none => exact .refl store archive
      | some other => exact shut.listing other thread
  | reindex =>
      unfold Service.underlying
      cases service.indexer? with
      | none => exact .refl store archive
      | some indexer => exact shut.scan indexer thread none

theorem respond (shut : archive.IsShut store) (service : Service) (thread : Nat)
    (request : Request) : Bypasses store archive (service.respond archive thread request).archive := by
  unfold Service.respond
  split
  · exact .refl store archive
  · dsimp only
    unfold Service.route
    split
    · split
      · exact shut.call service thread request _
      · exact .refl store archive
    · dsimp only
      split <;> exact .refl store archive

theorem use (shut : archive.IsShut store) (use : Use) :
    Bypasses store archive (use.perform archive) := by
  cases use with
  | made call => exact shut.perform call
  | insertPending other draft =>
      rw [Use.perform, insertPending, bare_snd]
      exact shut.changing fun apart _ free => free.write apart
  | commit other =>
      rw [Use.perform, Archive.commit]
      split
      · exact .refl store archive
      · exact .setDatabase fun free => free.commit
  | rollback other => exact .rollback store archive other
  | drop other table =>
      rw [Use.perform, Archive.drop, bare_snd]
      exact shut.transact other _
  | addTrigger other trigger =>
      rw [Use.perform, Archive.addTrigger, bare_snd]
      exact shut.transact other _
  | scan indexer thread patience => exact shut.scan indexer thread patience
  | search searcher thread query limit? => exact shut.search searcher thread query limit?
  | asked service thread request => exact shut.respond service thread request
  | elsewhere files clock => exact .of_files store archive files clock

/-- A closed store stays closed. -/
theorem foldl (shut : archive.IsShut store) (uses : List Use) :
    (uses.foldl Use.perform archive).IsShut store := by
  induction uses generalizing archive with
  | nil => exact shut
  | cons use rest ih => exact ih (shut.of_bypasses (shut.use use))

end Archive.IsShut

/-! What reaches a store. -/

/-- Whether a scan that begins with some actions comes to its store before it is cancelled or
fails, which it does at the first visit of a file that can be read, or with nothing to visit. -/
def ScanAction.comeToStore (files : FileTree) : Patience → List ScanAction → Bool
  | _, [] => true
  | none, .poll :: rest => comeToStore files none rest
  | some 0, .poll :: _ => false
  | some (left + 1), .poll :: rest => comeToStore files (some left) rest
  | _, .visit path :: _ => (files.read (Location.ofString path)).isOk
  | _, .fail _ :: _ => false
  | _, .remove _ :: _ => true
  | _, .recordRoot _ :: _ => true

/-- Whether a scan of some files comes to its store. -/
def Indexer.reaches (indexer : Indexer) (files : FileTree) (patience : Patience) : Bool :=
  !indexer.roots.isEmpty && ScanAction.comeToStore files patience (indexer.visitActions files)

/-- Whether a request comes to a store. -/
def Service.Reaches (service : Service) (files : FileTree) (request : Request) (store : Nat) :
    Endpoint → Prop
  | .search => ∃ searcher query, service.searcher? = some searcher ∧ searcher.store = store ∧
      request.asked? = some query ∧ Text.tokenize query ≠ []
  | .documents => service.store? = some store
  | .reindex => ∃ indexer, service.indexer? = some indexer ∧ indexer.store = store ∧
      indexer.reaches files none = true

/-! Calls of a closed store. -/

/-- The failure of a call that is refused because its store is closed is one of the store. -/
theorem Refusal.store_of_closed {failure : Failure}
    (refused : ofFailure? failure = some .closed) : ∃ cause, failure = .store cause := by
  cases failure with
  | store cause => exact ⟨cause, rfl⟩
  | _ => cases refused

namespace Archive

variable {α : Type} {archive : Archive} {store : Nat} {call : StoreCall}

/-- A call that a closed store refuses: because of its path if that is blank, and else because the
store is closed. The clock may have been read, and that is all. -/
def TurnsAway (archive : Archive) (call : StoreCall) (clock : Clock) (outcome : Outcome α) : Prop :=
  ∃ cause, outcome = (.error (.store cause), { archive with clock := clock }) ∧
    Refusal.ofFailure? (.store cause) =
      some (if call.path?.any Text.isBlankText then .blankPath else .closed)

theorem turnsAway_blank (blank : call.path?.any Text.isBlankText = true) :
    archive.TurnsAway call archive.clock ((.error (.store .blankPath), archive) : Outcome α) :=
  ⟨.blankPath, rfl, by simp [blank, Refusal.ofFailure?]⟩

theorem turnsAway_query (closed : (archive.handle store).closed = true)
    (solid : call.path?.any Text.isBlankText = false) (thread : Nat) (operation : StoreOperation)
    (ask : Tables → Except DatabaseFault α) :
    archive.TurnsAway call archive.clock (archive.query store thread operation ask) := by
  obtain ⟨failure, asked, refused⟩ := query_of_closed closed thread operation ask
  obtain ⟨cause, rfl⟩ := Refusal.store_of_closed refused
  exact ⟨cause, asked, by simpa [solid] using refused⟩

theorem turnsAway_transact (closed : (archive.handle store).closed = true)
    (solid : call.path?.any Text.isBlankText = false) (operation : StoreOperation)
    (change : Tables → Except DatabaseFault (α × Tables)) :
    archive.TurnsAway call archive.clock (named operation (archive.transact store change)) := by
  rw [transact_of_closed closed]
  exact ⟨.refused operation .closed, rfl, by simp [solid, Refusal.ofFailure?]⟩

theorem TurnsAway.of_stamp {clock : Clock} {outcome : Outcome α}
    (away : archive.stamp.2.TurnsAway call clock outcome) : archive.TurnsAway call clock outcome :=
  away

theorem TurnsAway.answering {clock : Clock} {outcome : Outcome α}
    (away : archive.TurnsAway call clock outcome) (answer : α → StoreAnswer) :
    archive.TurnsAway call clock (outcome.answering answer) := by
  obtain ⟨cause, rfl, why⟩ := away
  exact ⟨cause, rfl, why⟩

theorem turnsAway_getHash (closed : (archive.handle store).closed = true) (thread : Nat)
    (path : String) :
    archive.TurnsAway (.getHash store thread path) archive.clock
      (archive.getHash store thread path) := by
  unfold Archive.getHash
  split
  · rename_i blank
    exact turnsAway_blank blank
  · rename_i solid
    exact turnsAway_query closed (by simpa [StoreCall.path?] using solid) thread _ _

theorem turnsAway_listDocuments (closed : (archive.handle store).closed = true) (thread : Nat)
    (limit : Int) :
    archive.TurnsAway (.listDocuments store thread limit) archive.clock
      (archive.listDocuments store thread limit) := by
  have away : archive.TurnsAway (.listDocuments store thread limit) archive.clock
      (archive.query store thread .listDocuments (·.documents limit)) :=
    turnsAway_query closed rfl thread _ _
  obtain ⟨cause, asked, why⟩ := away
  exact ⟨cause, by rw [listDocuments, asked], why⟩

/-- A closed store turns every call away. -/
theorem perform_of_closed (closed : (archive.handle store).closed = true)
    (user : call.user? = some store) : ∃ clock, archive.TurnsAway call clock (archive.perform call) := by
  cases blank : call.path?.any Text.isBlankText with
  | true =>
      rw [perform_of_blank archive blank]
      exact ⟨_, turnsAway_blank blank⟩
  | false =>
      cases call with
      | openStore location => cases user
      | close other => cases user
      | upsert other path content? tokens hash? =>
          cases user
          have solid : Text.isBlankText path = false := blank
          have stamped : (archive.stamp.2.handle store).closed = true := closed
          simp only [Archive.perform, Archive.upsert, solid]
          exact ⟨_, (turnsAway_transact stamped blank _ _).of_stamp.answering fun _ => .done⟩
      | delete other path =>
          cases user
          have solid : Text.isBlankText path = false := blank
          simp only [Archive.perform, Archive.delete, solid]
          exact ⟨_, (turnsAway_transact closed blank _ _).answering .removed⟩
      | recordRoot other root =>
          cases user
          have solid : Text.isBlankText root = false := blank
          have stamped : (archive.stamp.2.handle store).closed = true := closed
          simp only [Archive.perform, Archive.recordRoot, solid]
          exact ⟨_, (turnsAway_transact stamped blank _ _).of_stamp.answering fun _ => .done⟩
      | getHash other thread path =>
          cases user
          exact ⟨_, (turnsAway_getHash closed thread path).answering .hash⟩
      | listPaths other thread =>
          cases user
          exact ⟨_, (turnsAway_query closed blank thread _ _).answering .paths⟩
      | listDocuments other thread limit =>
          cases user
          exact ⟨_, (turnsAway_listDocuments closed thread limit).answering .documents⟩
      | listRoots other thread =>
          cases user
          exact ⟨_, (turnsAway_query closed blank thread _ _).answering .roots⟩
      | stats other thread =>
          cases user
          exact ⟨_, (turnsAway_query closed blank thread _ _).answering .stats⟩

theorem IsShut.close_again (shut : archive.IsShut store) : archive.close store = archive := by
  rw [close_of_closed shut.closed, Database.rollback_of_isFreeOf shut.free]
  exact setDatabase_self

end Archive

/-! Scans of a closed store. -/

namespace Progress

variable {progress : Progress} {files : FileTree} {store : Nat} {actions : List ScanAction}

/-- A scan has done nothing yet that anyone could tell. -/
structure Idles (before after : Progress) : Prop where
  archive : after.archive = before.archive
  events : after.events = before.events

/-- The first file that is looked for in a closed store ends a scan. -/
theorem visit_of_closed (closed : (progress.archive.handle store).closed = true) {path : String}
    (readable : (files.read (Location.ofString path)).isOk = true) (thread : Nat) :
    ∃ after cause, progress.visit files store thread path = (after, some (.store cause)) ∧
      progress.Idles after := by
  obtain ⟨cause, looked, _⟩ := Archive.turnsAway_getHash closed thread path
  unfold Progress.visit
  cases read : files.read (Location.ofString path) with
  | error failure =>
      rw [read] at readable
      cases readable
  | ok octets =>
      dsimp only
      rw [indexOctets, Archive.lookUp_of_error looked]
      exact ⟨_, cause, rfl, rfl, rfl⟩

/-- Visits that come to a closed store end with an error of the store, if with any. -/
theorem run_of_closed (closed : (progress.archive.handle store).closed = true)
    (visiting : ∀ action ∈ actions, (∀ path, action ≠ .remove path) ∧
      ∀ root, action ≠ .recordRoot root)
    (comes : ScanAction.comeToStore files progress.patience actions = true) (thread : Nat) :
    ∃ after failure?, progress.run files store thread actions = (after, failure?) ∧
      progress.Idles after ∧ ∀ failure ∈ failure?, ∃ cause, failure = .store cause := by
  induction actions generalizing progress with
  | nil => exact ⟨progress, none, rfl, ⟨rfl, rfl⟩, nofun⟩
  | cons action rest ih =>
      have later := fun action member => visiting action (List.mem_cons_of_mem _ member)
      cases action with
      | poll =>
          simp only [run, act, poll]
          cases patience : progress.patience with
          | none =>
              rw [patience] at comes
              exact ih closed later (by rwa [patience])
          | some left =>
              rw [patience] at comes
              cases left with
              | zero => cases comes
              | succ left =>
                  let polled : Progress := { progress with patience := some left }
                  have closedToo : (polled.archive.handle store).closed = true := closed
                  obtain ⟨after, failure?, ran, ⟨same, silent⟩, known⟩ := ih closedToo later comes
                  exact ⟨after, failure?, ran, ⟨same, silent⟩, known⟩
      | visit path =>
          have readable : (files.read (Location.ofString path)).isOk = true := by
            simpa [ScanAction.comeToStore] using comes
          obtain ⟨after, cause, visited, idles⟩ := visit_of_closed closed readable thread
          refine ⟨after, some (.store cause), ?_, idles, ?_⟩
          · simp only [run, act]
            rw [visited]
          · rintro failure ⟨⟩
            exact ⟨cause, rfl⟩
      | fail failure => simp [ScanAction.comeToStore] at comes
      | remove path => exact absurd rfl ((visiting _ List.mem_cons_self).1 path)
      | recordRoot root => exact absurd rfl ((visiting _ List.mem_cons_self).2 root)

/-- Visits that do not come to a store end in the same way whatever is stored. -/
theorem run_of_not_comeToStore {patience : Patience}
    (comes : ScanAction.comeToStore files patience actions = false) :
    ∃ failure, ∀ {progress : Progress}, progress.patience = patience → ∀ store thread,
      ∃ after, progress.run files store thread actions = (after, some failure) ∧
        progress.Idles after := by
  induction actions generalizing patience with
  | nil => simp [ScanAction.comeToStore] at comes
  | cons action rest ih =>
      cases action with
      | poll =>
          match patience with
          | none =>
              obtain ⟨failure, ends⟩ := ih comes
              refine ⟨failure, fun {progress} endless store thread => ?_⟩
              simp only [run, act, poll, endless]
              exact ends endless store thread
          | some 0 =>
              refine ⟨.cancelled, fun {progress} spent store thread => ⟨progress, ?_, rfl, rfl⟩⟩
              simp only [run, act, poll, spent]
          | some (left + 1) =>
              obtain ⟨failure, ends⟩ := ih comes
              refine ⟨failure, fun {progress} patient store thread => ?_⟩
              let polled : Progress := { progress with patience := some left }
              have waits : polled.patience = some left := rfl
              obtain ⟨after, ran, same, silent⟩ := ends waits store thread
              simp only [run, act, poll, patient]
              exact ⟨after, ran, same, silent⟩
      | visit path =>
          have unreadable : (files.read (Location.ofString path)).isOk = false := by
            simpa [ScanAction.comeToStore] using comes
          cases read : files.read (Location.ofString path) with
          | ok octets =>
              rw [read] at unreadable
              cases unreadable
          | error failure =>
              refine ⟨failure, fun {progress} _ store thread =>
                ⟨{ progress with seen := progress.seen ++ [path] }, ?_, rfl, rfl⟩⟩
              simp only [run, act, visit, read]
      | fail failure => exact ⟨failure, fun {progress} _ _ _ => ⟨progress, rfl, rfl, rfl⟩⟩
      | remove path => simp [ScanAction.comeToStore] at comes
      | recordRoot root => simp [ScanAction.comeToStore] at comes

end Progress

namespace Indexer

variable {indexer : Indexer} {archive : Archive} {files : FileTree} {patience : Patience}

/-- A scan that comes to a closed store ends there. -/
theorem scan_of_closed (closed : (archive.handle indexer.store).closed = true)
    (reaches : indexer.reaches archive.files patience = true) (thread : Nat) :
    ∃ cause, indexer.scan archive thread patience = ⟨.error (.store cause), archive, []⟩ := by
  obtain ⟨rooted, comes⟩ := (Bool.and_eq_true _ _).mp reaches
  have visiting : ∀ action ∈ indexer.visitActions archive.files,
      (∀ path, action ≠ .remove path) ∧ ∀ root, action ≠ .recordRoot root := by
    intro action member
    constructor <;> rintro _ rfl <;> simp [visitActions, rootActions] at member
  have startClosed : ((Progress.start archive patience).archive.handle indexer.store).closed = true :=
    closed
  obtain ⟨visited, failure?, ran, ⟨same, silent⟩, known⟩ :=
    Progress.run_of_closed startClosed visiting comes thread
  have stays : visited.archive = archive := same
  have quiet : visited.events = [] := silent
  rw [Bool.not_eq_true'] at rooted
  cases failure? with
  | some failure =>
      obtain ⟨cause, rfl⟩ := known failure rfl
      exact ⟨cause, by simp [scan, rooted, pass, ran, stays, quiet, Notice.all]⟩
  | none =>
      have listing : archive.TurnsAway (.listPaths indexer.store thread) archive.clock
          (archive.listPaths indexer.store thread) := Archive.turnsAway_query closed rfl thread _ _
      obtain ⟨cause, listed, _⟩ := listing
      exact ⟨cause, by simp [scan, rooted, pass, ran, reconcile, stays, listed, quiet, Notice.all]⟩

/-- A scan that does not come to its store ends in the same way whatever is stored. -/
theorem scan_of_not_reaches (apart : indexer.reaches files patience = false) :
    ∃ outcome, ∀ {archive : Archive}, archive.files = files → ∀ thread,
      indexer.scan archive thread patience = ⟨outcome, archive, []⟩ := by
  cases rooted : indexer.roots.isEmpty with
  | true => exact ⟨.ok .zero, fun _ thread => by simp [scan, rooted]⟩
  | false =>
      have comes : ScanAction.comeToStore files patience (indexer.visitActions files) = false := by
        simpa [reaches, rooted] using apart
      obtain ⟨failure, ends⟩ := Progress.run_of_not_comeToStore comes
      refine ⟨.error failure, fun {archive} same thread => ?_⟩
      subst same
      have waits : (Progress.start archive patience).patience = patience := rfl
      obtain ⟨after, ran, ⟨stays, quiet⟩⟩ := ends waits indexer.store thread
      have unmoved : after.archive = archive := stays
      have silent : after.events = [] := quiet
      simp [scan, rooted, pass, ran, unmoved, silent, Notice.all]

end Indexer

/-! Scheduled scans, searches and requests that come to a closed store. -/

theorem Scheduler.tick_of_closed {scheduler : Scheduler} {archive : Archive}
    (closed : (archive.handle scheduler.indexer.store).closed = true)
    (reaches : scheduler.indexer.reaches archive.files scheduler.patience = true) (thread : Nat) :
    ∃ cause, scheduler.tick archive thread =
      ⟨none, archive, [⟨scheduler.audience, failureEvent (.store cause)⟩]⟩ := by
  obtain ⟨cause, scanned⟩ := Indexer.scan_of_closed closed reaches thread
  exact ⟨cause, by simp [tick, scanned]⟩

theorem Searcher.search_of_closed {searcher : Searcher} {archive : Archive} {query : String}
    (closed : (archive.handle searcher.store).closed = true) (tokens : Text.tokenize query ≠ [])
    (thread : Nat) (limit? : Option Int) :
    ∃ cause, searcher.search archive thread query limit? = ⟨.error (.store cause), archive, []⟩ := by
  obtain ⟨cause, listed, _⟩ := Archive.turnsAway_listDocuments closed thread 0
  have some : (Text.tokenize query).isEmpty = false := by simpa using tokens
  exact ⟨cause, by simp [search, some, listed]⟩

namespace Service

variable {service : Service} {archive : Archive} {request : Request} {endpoint : Endpoint}
  {store : Nat}

theorem underlying_of_closed (closed : (archive.handle store).closed = true)
    (reaches : service.Reaches archive.files request store endpoint) (thread : Nat) :
    ∃ cause, service.underlying archive thread request endpoint =
      some (.error (.store cause), archive) := by
  cases endpoint with
  | search =>
      obtain ⟨searcher, query, attached, rfl, asked, tokens⟩ := reaches
      let limit := Text.limitOr searcher.defaultLimit (request.parameter? "limit")
      obtain ⟨cause, searched⟩ := Searcher.search_of_closed closed tokens thread (some limit)
      exact ⟨cause, by simp [underlying, attached, asked, limit, searched, Except.map]⟩
  | documents =>
      have attached : service.store? = some store := reaches
      obtain ⟨cause, listed, _⟩ := Archive.turnsAway_listDocuments closed thread 0
      exact ⟨cause, by simp [underlying, attached, listing, listed]⟩
  | reindex =>
      obtain ⟨indexer, attached, rfl, reaches⟩ := reaches
      obtain ⟨cause, scanned⟩ := Indexer.scan_of_closed closed reaches thread
      exact ⟨cause, by simp [underlying, attached, scanned, Except.map]⟩

theorem respond_of_closed (closed : (archive.handle store).closed = true)
    (calls : request.CallsFor endpoint)
    (reaches : service.Reaches archive.files request store endpoint) (thread : Nat) :
    let run := service.respond archive thread request
    run.response = { Response.problem 500 (endpoint.problem 500) with
        allowOrigin? := request.audience? } ∧
      run.archive = archive := by
  have answers := respond_answers calls service archive thread
  obtain ⟨cause, comes⟩ := underlying_of_closed closed reaches thread
  dsimp only at answers ⊢
  have failed := answers.failed.mpr ⟨_, _, comes⟩
  have told := answers.problem (by rw [failed]; decide)
  rw [failed] at told
  have left := answers.archive
  rw [comes] at left
  exact ⟨told, left⟩

end Service

namespace Archive

variable {archive : Archive} {store : Nat}

/-- What a closed store refuses: every call but another close, and all that comes to it. It is
refused with an error of the store, by any thread, and it changes no file and no database. -/
structure Refuses (archive : Archive) (store : Nat) : Prop where
  calls : ∀ call : StoreCall, call.user? = some store →
    ∃ clock, archive.TurnsAway call clock (archive.perform call)
  close : archive.perform (.close store) = (.ok .done, archive)
  scans : ∀ (indexer : Indexer) (thread : Nat) (patience : Patience), indexer.store = store →
    if indexer.reaches archive.files patience then
      ∃ cause, indexer.scan archive thread patience = ⟨.error (.store cause), archive, []⟩
    else ∃ outcome, ∀ (other : Archive) (next : Nat), other.files = archive.files →
      indexer.scan other next patience = ⟨outcome, other, []⟩
  ticks : ∀ (scheduler : Scheduler) (thread : Nat), scheduler.indexer.store = store →
    scheduler.indexer.reaches archive.files scheduler.patience = true →
    ∃ cause, scheduler.tick archive thread =
      ⟨none, archive, [⟨scheduler.audience, Scheduler.failureEvent (.store cause)⟩]⟩
  searches : ∀ (searcher : Searcher) (thread : Nat) (query : String) (limit? : Option Int),
    searcher.store = store → Text.tokenize query ≠ [] →
    ∃ cause, searcher.search archive thread query limit? = ⟨.error (.store cause), archive, []⟩
  requests : ∀ (service : Service) (thread : Nat) (request : Request) (endpoint : Endpoint),
    request.CallsFor endpoint → service.Reaches archive.files request store endpoint →
    let run := service.respond archive thread request
    run.response = { Response.problem 500 (endpoint.problem 500) with
        allowOrigin? := request.audience? } ∧
      run.archive = archive

theorem IsShut.refuses (shut : archive.IsShut store) : archive.Refuses store where
  calls _ user := perform_of_closed shut.closed user
  close := by rw [Archive.perform, shut.close_again]
  scans indexer thread patience same := by
    subst same
    split
    · rename_i reaches
      exact Indexer.scan_of_closed shut.closed reaches thread
    · rename_i apart
      obtain ⟨outcome, ends⟩ := Indexer.scan_of_not_reaches (Bool.not_eq_true _ ▸ apart)
      exact ⟨outcome, fun other next files => ends files next⟩
  ticks scheduler thread same reaches := by
    subst same
    exact Scheduler.tick_of_closed shut.closed reaches thread
  searches searcher thread query limit? same tokens := by
    subst same
    exact Searcher.search_of_closed shut.closed tokens thread limit?
  requests _ thread _ _ calls reaches := Service.respond_of_closed shut.closed calls reaches thread

/-- From its close on, a store refuses whatever comes to it, however it and other stores are used
meanwhile and whatever happens to files. -/
theorem closed_store_refuses (present : store < archive.handles.length) (uses : List Use) :
    (uses.foldl Use.perform (archive.close store)).Refuses store :=
  ((isShut_close present).foldl uses).refuses

/-! A store that is closed while another one is opened on its database. -/

def exampleUses : List Use :=
  [.made (.openStore (.ofString "/h/index.db")), .made (.upsert 0 "/a" (some "x") ["x"] (some "1")),
    .made (.upsert 1 "/b" (some "y") ["y"] (some "2")), .scan exampleIndexer 0 none,
    .made (.close 0), .made (.listPaths 0 7)]

def exampleClosed : Archive := exampleUses.foldl Use.perform (exampleArchive.close 0)

theorem closed_store_beside_open_one :
    0 < exampleArchive.handles.length ∧ exampleClosed.Refuses 0 ∧
    exampleIndexer.reaches exampleClosed.files none = true ∧
    (exampleClosed.listPaths 1 0).1 = .ok ["/b"] :=
  ⟨by decide +kernel, closed_store_refuses (by decide +kernel) exampleUses, by decide +kernel,
    by decide +kernel⟩

end Archive

end FolderIndex
