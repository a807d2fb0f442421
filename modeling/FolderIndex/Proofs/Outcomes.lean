import FolderIndex.Proofs.Reading
import FolderIndex.Proofs.StoreCalls
import FolderIndex.Proofs.Work
import FolderIndex.Session.Step

namespace FolderIndex

/-! What the service answers: which status, by what is attached, by what is asked and by what comes
of it, and what it leaves behind. -/

/-- A request that an endpoint is there for. -/
structure Request.CallsFor (request : Request) (endpoint : Endpoint) : Prop where
  path : Endpoint.at? request.path = some endpoint
  method : request.method = endpoint.method

/-- What a request asks to be searched for. -/
def Request.asked? (request : Request) : Option String :=
  (request.parameter? "q").filter (· ≠ "")

/-- Who may have the answer to a request that names its origin. -/
def Request.audience? (request : Request) : Option String :=
  (request.header? "origin").map fun _ => "*"

/-- What an endpoint says where it has no more to say than its status. -/
def Endpoint.problem : Endpoint → Nat → String
  | _, 503 => Failure.notConfigured.message
  | .search, 400 => "q is required"
  | .search, _ => "search failed"
  | .documents, _ => "listing failed"
  | .reindex, _ => "reindex failed"

namespace Service

/-- Whether the part that an endpoint needs is missing. -/
def lacks (service : Service) : Endpoint → Bool
  | .search => service.searcher?.isNone
  | .documents => service.store?.isNone
  | .reindex => service.indexer?.isNone

/-- What a request comes to: a search, the readings of a listing, or a scan, if the part for it is
there and a search is for something. -/
def underlying (service : Service) (archive : Archive) (thread : Nat) (request : Request) :
    Endpoint → Option (Archive.Outcome Body)
  | .search =>
      match service.searcher?, request.asked? with
      | some searcher, some query =>
          let limit := Text.limitOr searcher.defaultLimit (request.parameter? "limit")
          let run := searcher.search archive thread query (some limit)
          some (run.matches?.map .matches, run.archive)
      | _, _ => none
  | .documents => service.store?.map fun store => listing archive store thread
  | .reindex => service.indexer?.map fun indexer =>
      let run := indexer.scan archive thread none
      (run.outcome.map fun _ => .accepted, run.archive)

/-- The rules by which a service answers: the response to a request and the archive afterwards. -/
structure Answers (service : Service) (endpoint : Endpoint) (request : Request) (thread : Nat)
    (before : Archive) (response : Response) (after : Archive) : Prop where
  missing : response.status = 503 ↔ service.lacks endpoint = true
  unasked : response.status = 400 ↔
    service.lacks endpoint = false ∧ endpoint = .search ∧ request.asked? = none
  failed : response.status = 500 ↔ ∃ failure reached,
    service.underlying before thread request endpoint = some (.error failure, reached)
  done : response.status = 200 ↔ ∃ body reached,
    service.underlying before thread request endpoint = some (.ok body, reached)
  body : ∀ body reached,
    service.underlying before thread request endpoint = some (.ok body, reached) →
      response = { Response.plain 200 body with allowOrigin? := request.audience? }
  problem : response.status ≠ 200 → response =
    { Response.problem response.status (endpoint.problem response.status) with
      allowOrigin? := request.audience? }
  archive : after =
    ((service.underlying before thread request endpoint).map (·.2)).getD before

variable {service : Service} {archive : Archive} {thread : Nat} {request : Request}
  {endpoint : Endpoint}

/-- A request to an endpoint is no question of what a page may do. -/
theorem respond_of_calls (calls : request.CallsFor endpoint) (service : Service)
    (archive : Archive) (thread : Nat) :
    let run := service.call archive thread request endpoint
    service.respond archive thread request =
      { run with response := { run.response with allowOrigin? := request.audience? } } := by
  have apart : request.method ≠ "OPTIONS" := by
    rw [calls.method]
    cases endpoint <;> decide
  have direct : preflight? request = none := by
    unfold preflight?
    cases request.header? "origin" <;>
      cases request.header? "access-control-request-method" <;> simp [apart]
  have routed : service.route archive thread request =
      service.call archive thread request endpoint := by
    unfold route
    simp only [calls.path, calls.method, if_true]
  simp only [respond, direct, routed]
  rfl

/-- The response by what a request comes to. -/
def told (service : Service) (endpoint : Endpoint) : Option (Except Failure Body) → Response
  | some (.ok body) => .plain 200 body
  | some (.error _) => .problem 500 (endpoint.problem 500)
  | none =>
      if service.lacks endpoint then .problem 503 (endpoint.problem 503)
      else .problem 400 (endpoint.problem 400)

theorem search_told (service : Service) (archive : Archive) (thread : Nat) (request : Request) :
    let run := service.search archive thread request
    let outcome? := service.underlying archive thread request .search
    run.response = service.told .search (outcome?.map (·.1)) ∧
      run.archive = (outcome?.map (·.2)).getD archive := by
  have query : (request.parameter? "q").filter (· ≠ "") = request.asked? := rfl
  unfold Service.search underlying
  cases attached : service.searcher? with
  | none => simp only [told, lacks, attached]; exact ⟨rfl, rfl⟩
  | some searcher =>
      cases asked : request.asked? with
      | none =>
          simp only [query, asked, told, lacks, attached]
          exact ⟨rfl, rfl⟩
      | some text =>
          simp only [query, asked]
          cases outcome : (searcher.search archive thread text
            (some (Text.limitOr searcher.defaultLimit (request.parameter? "limit")))).matches? with
          | ok found => exact ⟨rfl, rfl⟩
          | error failure => exact ⟨rfl, rfl⟩

theorem documents_told (service : Service) (archive : Archive) (thread : Nat)
    (request : Request) :
    let run := service.documents archive thread
    let outcome? := service.underlying archive thread request .documents
    run.response = service.told .documents (outcome?.map (·.1)) ∧
      run.archive = (outcome?.map (·.2)).getD archive := by
  unfold Service.documents underlying
  cases attached : service.store? with
  | none => simp only [told, lacks, attached]; exact ⟨rfl, rfl⟩
  | some store =>
      dsimp only [Option.map_some]
      obtain ⟨outcome, after⟩ := listing archive store thread
      cases outcome with
      | ok body => exact ⟨rfl, rfl⟩
      | error failure => exact ⟨rfl, rfl⟩

theorem reindex_told (service : Service) (archive : Archive) (thread : Nat) (request : Request) :
    let run := service.reindex archive thread
    let outcome? := service.underlying archive thread request .reindex
    run.response = service.told .reindex (outcome?.map (·.1)) ∧
      run.archive = (outcome?.map (·.2)).getD archive := by
  unfold Service.reindex underlying
  cases attached : service.indexer? with
  | none => simp only [told, lacks, attached]; exact ⟨rfl, rfl⟩
  | some indexer =>
      dsimp only [Option.map_some]
      cases outcome : (indexer.scan archive thread none).outcome with
      | ok tally => exact ⟨rfl, rfl⟩
      | error failure => exact ⟨rfl, rfl⟩

theorem call_told (service : Service) (archive : Archive) (thread : Nat) (request : Request)
    (endpoint : Endpoint) :
    let run := service.call archive thread request endpoint
    let outcome? := service.underlying archive thread request endpoint
    run.response = service.told endpoint (outcome?.map (·.1)) ∧
      run.archive = (outcome?.map (·.2)).getD archive := by
  cases endpoint with
  | search => exact service.search_told archive thread request
  | documents => exact service.documents_told archive thread request
  | reindex => exact service.reindex_told archive thread request

/-- A request comes to nothing where a part is missing, or a search is for nothing. -/
theorem underlying_eq_none : service.underlying archive thread request endpoint = none ↔
    service.lacks endpoint = true ∨ endpoint = .search ∧ request.asked? = none := by
  cases endpoint with
  | search =>
      unfold underlying lacks
      cases service.searcher? <;> cases request.asked? <;> simp
  | documents => simp [underlying, lacks]
  | reindex => simp [underlying, lacks]

/-- The status of a response tells what a request came to. -/
theorem answers_of_told {outcome? : Option (Archive.Outcome Body)} {response : Response}
    (comes : service.underlying archive thread request endpoint = outcome?)
    (told : response = { service.told endpoint (outcome?.map (·.1)) with
      allowOrigin? := request.audience? }) :
    service.Answers endpoint request thread archive response
      ((outcome?.map (·.2)).getD archive) := by
  have nothing := comes ▸ @underlying_eq_none service archive thread request endpoint
  subst told
  match outcome? with
  | none =>
      have reason := nothing.mp rfl
      by_cases missing : service.lacks endpoint = true
      · constructor <;> simp [Service.told, comes, missing, Response.problem, Response.plain]
      · have present : service.lacks endpoint = false := by simpa using missing
        obtain ⟨rfl, unasked⟩ := reason.resolve_left missing
        constructor <;>
          simp [Service.told, comes, present, unasked, Response.problem, Response.plain]
  | some (.ok body, after) =>
      have asked : ¬ (service.lacks endpoint = true ∨ endpoint = .search ∧ request.asked? = none) :=
        fun reason => by cases nothing.mpr reason
      rw [not_or] at asked
      constructor <;> simp_all [Service.told, Response.plain]
  | some (.error failure, after) =>
      have asked : ¬ (service.lacks endpoint = true ∨ endpoint = .search ∧ request.asked? = none) :=
        fun reason => by cases nothing.mpr reason
      rw [not_or] at asked
      constructor <;> simp_all [Service.told, Response.problem, Response.plain]

/-- A service answers a request to an endpoint by the rules. -/
theorem respond_answers (calls : request.CallsFor endpoint) (service : Service)
    (archive : Archive) (thread : Nat) :
    let run := service.respond archive thread request
    service.Answers endpoint request thread archive run.response run.archive := by
  obtain ⟨response, after⟩ := service.call_told archive thread request endpoint
  rw [respond_of_calls calls]
  dsimp only
  rw [after]
  exact answers_of_told rfl (by rw [response])

end Service

namespace Archive

variable {archive after : Archive} {store thread own : Nat}

/-- What a reading leaves: all databases that were there, and the clock. -/
structure Preserves (before after : Archive) : Prop where
  length : before.databases.length ≤ after.databases.length
  databases : ∀ number < before.databases.length, after.database number = before.database number
  clock : after.clock = before.clock

theorem Preserves.refl (archive : Archive) : archive.Preserves archive :=
  ⟨Nat.le_refl _, fun _ _ => rfl, rfl⟩

theorem Preserves.trans {between : Archive} (first : archive.Preserves between)
    (second : between.Preserves after) : archive.Preserves after :=
  ⟨Nat.le_trans first.length second.length,
    fun number present => (second.databases number (Nat.lt_of_lt_of_le present first.length)).trans
      (first.databases number present),
    second.clock.trans first.clock⟩

theorem Preserves.of_append {files : FileTree} {database : Database} :
    archive.Preserves
      { archive with files := files, databases := archive.databases ++ [database] } :=
  ⟨by simp, fun _ present => (Spares.of_append present).database, rfl⟩

/-- A thread that reads through a store as before, or whose new connection leads to the database
of the store: nobody moved its file away or put another in its place. -/
def ReadsInPlace (archive : Archive) (store thread : Nat) : Prop :=
  (archive.handle store).closed = false → (archive.handle store).address ≠ .memory →
    (archive.handle store).readers.lookup thread = none → ∀ {connection after},
      archive.connect (archive.handle store).address = (.ok connection, after) →
        connection.database = (archive.handle store).writer.database ∨ connection.place? = none

/-- A connection that leads to a database in use, or to none in a file, takes nothing from any. -/
theorem Connects.preserves {outcome : Connecting} (connects : archive.Connects outcome)
    (used : archive.isInUse own = true)
    (leads : ∀ connection, outcome.1 = .ok connection →
      connection.database = own ∨ connection.place? = none) : archive.Preserves outcome.2 := by
  cases connects with
  | alone result files => exact ⟨Nat.le_refl _, fun _ _ => rfl, rfl⟩
  | anew result files tables known => exact .of_append
  | found connection files database placed known =>
      have same : connection.database = own := (leads connection rfl).resolve_right placed
      subst same
      rcases known with rfl | ⟨unused, _⟩
      · rw [setDatabase_self]
        exact ⟨Nat.le_refl _, fun _ _ => rfl, rfl⟩
      · rw [used] at unused
        cases unused

/-- A thread that is known to a store reads in place. -/
theorem readsInPlace_of_known {connection : Connection}
    (known : (archive.handle store).readers.lookup thread = some connection) :
    archive.ReadsInPlace store thread := by
  intro _ _ missing
  rw [known] at missing
  cases missing

theorem clock_withReader (connection : Connection) :
    (archive.withReader store thread connection).clock = archive.clock := by
  unfold withReader
  dsimp only
  split <;> rfl

theorem reader_preserves (inPlace : archive.ReadsInPlace store thread)
    (apart : (archive.handle store).address ≠ .memory) (operation : StoreOperation) :
    let outcome := archive.reader store thread operation
    archive.Preserves outcome.2 ∧
      ∀ connection, outcome.1 = .ok connection → outcome.2.ReadsInPlace store thread := by
  unfold reader
  dsimp only
  cases known : (archive.handle store).readers.lookup thread with
  | some connection =>
      dsimp only
      split
      · exact ⟨.refl _, nofun⟩
      · split
        · exact ⟨.refl _, nofun⟩
        · exact ⟨.refl _, fun _ _ => readsInPlace_of_known known⟩
  | none =>
      dsimp only
      split
      · exact ⟨.refl _, nofun⟩
      · rename_i unclosed
        have opened : (archive.handle store).closed = false := by simpa using unclosed
        have connects := archive.connect_connects (archive.handle store).address
        have leads := fun connection after => @inPlace opened apart known connection after
        have preserved := connects.preserves (isInUse_of_opened opened)
          fun connection same => leads connection _ (Prod.ext same rfl)
        have handles := connects.handles
        cases made : archive.connect (archive.handle store).address with
        | mk result after =>
            rw [made] at handles preserved
            dsimp only at handles preserved
            cases result with
            | error fault => exact ⟨preserved, nofun⟩
            | ok connection =>
                have handle : after.handle store = archive.handle store := by
                  simp only [Archive.handle, handles]
                have own : connection.database = (after.handle store).writer.database ∨
                    connection.place? = none := by
                  rw [handle]
                  exact leads connection after made
                have databases :
                    (after.withReader store thread connection).databases = after.databases :=
                  databases_withReader own
                have openedAfter : (after.handle store).closed = false := by rw [handle, opened]
                have joined : ((after.withReader store thread connection).handle store).readers.lookup
                    thread = some connection := by
                  simp [handle_withReader thread connection openedAfter]
                refine ⟨preserved.trans ⟨?_, ?_, clock_withReader connection⟩,
                  fun _ _ => readsInPlace_of_known joined⟩
                · exact Nat.le_of_eq (congrArg List.length databases).symm
                · intro number _
                  simp only [Archive.database, databases]

/-- A thread that reads in place takes nothing from any database, and goes on to read in place. -/
theorem reading_preserves (inPlace : archive.ReadsInPlace store thread)
    (operation : StoreOperation) :
    archive.Preserves (archive.reading store thread operation).2 ∧
      ∀ tables, (archive.reading store thread operation).1 = .ok tables →
        (archive.reading store thread operation).2.ReadsInPlace store thread := by
  unfold reading
  dsimp only
  split
  · rename_i memory
    have anew : archive.ReadsInPlace store thread := fun _ apart => absurd memory apart
    split
    · exact ⟨.refl _, nofun⟩
    · split
      · exact ⟨.refl _, fun _ _ => anew⟩
      · exact ⟨.refl _, nofun⟩
  · rename_i apart
    obtain ⟨preserved, anew⟩ := reader_preserves inPlace apart operation
    cases made : archive.reader store thread operation with
    | mk result after =>
        rw [made] at preserved anew
        cases result with
        | error failure => exact ⟨preserved, nofun⟩
        | ok connection => exact ⟨preserved, fun _ _ => anew connection rfl⟩

variable {α : Type}

theorem query_preserves (inPlace : archive.ReadsInPlace store thread) (operation : StoreOperation)
    (ask : Tables → Except DatabaseFault α) :
    let outcome := archive.query store thread operation ask
    archive.Preserves outcome.2 ∧
      ∀ value, outcome.1 = .ok value → outcome.2.ReadsInPlace store thread := by
  obtain ⟨preserved, anew⟩ := reading_preserves inPlace operation
  unfold query
  cases read : archive.reading store thread operation with
  | mk result after =>
      rw [read] at preserved anew
      cases result with
      | error failure => exact ⟨preserved, nofun⟩
      | ok tables =>
          dsimp only
          cases ask tables with
          | ok value => exact ⟨preserved, fun _ _ => anew tables rfl⟩
          | error fault => exact ⟨preserved, nofun⟩

theorem listDocuments_preserves (inPlace : archive.ReadsInPlace store thread) (limit : Int) :
    let outcome := archive.listDocuments store thread limit
    archive.Preserves outcome.2 ∧
      ∀ documents, outcome.1 = .ok documents → outcome.2.ReadsInPlace store thread := by
  obtain ⟨preserved, anew⟩ :=
    query_preserves inPlace .listDocuments fun tables => tables.documents limit
  unfold listDocuments
  cases asked : archive.query store thread .listDocuments (·.documents limit) with
  | mk result after =>
      rw [asked] at preserved anew
      cases result with
      | error failure => exact ⟨preserved, nofun⟩
      | ok documents =>
          dsimp only
          split
          · exact ⟨preserved, nofun⟩
          · exact ⟨preserved, fun _ _ => anew documents rfl⟩

/-- A listing takes nothing from any database. -/
theorem listing_preserves (inPlace : archive.ReadsInPlace store thread) :
    archive.Preserves (Service.listing archive store thread).2 := by
  obtain ⟨first, afterFirst⟩ := listDocuments_preserves inPlace 0
  unfold Service.listing
  cases listed : archive.listDocuments store thread 0 with
  | mk result between =>
      rw [listed] at first afterFirst
      cases result with
      | error failure => exact first
      | ok documents =>
          obtain ⟨second, afterSecond⟩ :=
            query_preserves (afterFirst documents rfl) .listRoots Tables.rootScans
          unfold listRoots
          dsimp only
          cases scans : between.query store thread .listRoots Tables.rootScans with
          | mk result last =>
              rw [scans] at second afterSecond
              cases result with
              | error failure => exact first.trans second
              | ok roots =>
                  have third := (query_preserves (afterSecond roots rfl) .stats Tables.stats).1
                  unfold stats
                  dsimp only
                  cases counted : last.query store thread .stats Tables.stats with
                  | mk result final =>
                      rw [counted] at third
                      cases result <;> exact (first.trans second).trans third

theorem search_preserves {searcher : Searcher}
    (inPlace : archive.ReadsInPlace searcher.store thread) (query : String)
    (limit? : Option Int) :
    archive.Preserves (searcher.search archive thread query limit?).archive := by
  have preserved := (listDocuments_preserves inPlace 0).1
  unfold Searcher.search
  dsimp only
  split
  · exact .refl _
  · cases listed : archive.listDocuments searcher.store thread 0 with
    | mk result after =>
        rw [listed] at preserved
        cases result <;> exact preserved

end Archive

namespace Service

variable {service : Service} {archive : Archive} {thread : Nat} {request : Request}
  {endpoint : Endpoint}

/-- The store that an endpoint reads through. -/
def reads? (service : Service) : Endpoint → Option Nat
  | .search => service.searcher?.map (·.store)
  | .documents => service.store?
  | .reindex => none

/-- A request that is to get something leaves every database as it was. -/
theorem Answers.preserves {response : Response} {after : Archive}
    (answers : service.Answers endpoint request thread archive response after)
    (gets : endpoint.method = "GET")
    (inPlace : ∀ store ∈ service.reads? endpoint, archive.ReadsInPlace store thread) :
    archive.Preserves after := by
  rw [answers.archive]
  cases endpoint with
  | search =>
      unfold underlying
      cases attached : service.searcher? with
      | none => exact .refl _
      | some searcher =>
          have place := inPlace searcher.store (by simp [reads?, attached])
          cases request.asked? with
          | none => exact .refl _
          | some query => exact Archive.search_preserves place query _
  | documents =>
      unfold underlying
      cases attached : service.store? with
      | none => exact .refl _
      | some store => exact Archive.listing_preserves (inPlace store (by simp [reads?, attached]))
  | reindex => exact absurd gets (by decide)

end Service

namespace Session

variable {session : Session} {application : Application}

end Session

end FolderIndex
