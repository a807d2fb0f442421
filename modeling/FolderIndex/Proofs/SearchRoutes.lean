import FolderIndex.Proofs.Requests
import FolderIndex.Proofs.SearchCommands

namespace FolderIndex

/-! The three ways to search: by a searcher itself, by a request to a service, and by a command. All
come to the same function of the stored rows, with the limit settled in ways of their own. -/

namespace Service

variable {service : Service} {archive after : Archive} {thread : Nat} {tables : Tables}
  {table : EntryTable} {searcher : Searcher} {request : Request} {query : String}
  {limit? : Option Int}

/-- A request that asks for a search is not one of a page that asks what it may do. -/
theorem respond_of_asks (service : Service) (archive : Archive) (thread : Nat)
    (asks : request.Asks query limit?) :
    let run := service.search archive thread request
    let response := (service.respond archive thread request).response
    response.status = run.response.status ∧ response.body = run.response.body := by
  have endpoint : Endpoint.at? request.path = some .search := by
    rw [asks.path]
    decide
  have direct : preflight? request = none := by
    unfold preflight?
    cases request.header? "origin" <;>
      cases request.header? "access-control-request-method" <;> simp [asks.method]
  have routed : service.route archive thread request =
      service.search archive thread request := by
    simp [route, endpoint, asks.method, Endpoint.method, call]
  simp [respond, direct, routed]

/-- A service whose store can be read answers a search with what its searcher finds. -/
theorem search_answers (attached : service.searcher? = some searcher)
    (read : archive.reading searcher.store thread .listDocuments = (.ok tables, after))
    (entries : tables.entries? = some table) (positive : 0 < searcher.defaultLimit)
    (asks : request.Asks query limit?) (asked : query ≠ "")
    (short : ∀ limit ∈ limit?, (Nat.toDigits 10 limit.natAbs).length ≤ Text.digitLimit) :
    (service.search archive thread request).response =
      .plain 200 (.matches (Searcher.foundIn table.rows searcher.snippetLength
        (Match.resolveLimit searcher.defaultLimit limit?) query)) := by
  have settled := Match.resolveLimit_of_pos searcher.defaultLimit
    (Match.resolveLimit_pos positive limit?)
  have found := Searcher.search_finds read entries query
    (some (Match.resolveLimit searcher.defaultLimit limit?))
  rw [settled] at found
  have given : (some query).filter (fun text => decide (text ≠ "")) = some query := by
    simp [Option.filter, asked]
  simp only [search, attached, asks.query, asks.limit, given, Match.limitOr_toString _ short, found]

end Service

namespace Session

variable {session : Session} {service : Service} {archive after : Archive} {store thread : Nat}
  {audience : Audience} {tables others : Tables} {table : EntryTable} {command : Command}
  {place : List String} {number : Nat} {query : String} {limit? : Option Int}

/-- A searcher, a service and a command that all search the same rows find the same matches. The
limit that they settle on is the same, although the service reads it from text and the command has
it as its default. The rows of the command are those that it hands to the console. -/
theorem search_routes_agree
    (attached : service.searcher? = some
      (Searcher.make store Text.snippetLength (some Settings.defaultSearchLimit) audience))
    (read : archive.reading store thread .listDocuments = (.ok tables, after))
    (entries : tables.entries? = some table)
    (present : session.files.exists? (command.databaseIn session.files) = .ok true)
    (names : session.files.Names (command.databaseIn session.files) place)
    (hosts : session.archive.Hosts place number others)
    (same : table.rows.Perm others.rows) (distinct : (table.rows.map (·.path)).Nodup)
    (asked : query ≠ "")
    (short : ∀ limit ∈ limit?, (Nat.toDigits 10 limit.natAbs).length ≤ Text.digitLimit)
    (searches : command.Searches query limit?) :
    ∃ found : List (Match Similarity),
      (∀ told : Audience, ((Searcher.make store Text.snippetLength none told).search archive
        thread query limit?).matches? = .ok found) ∧
      (∃ request : Request, request.Asks query limit?) ∧
      (∀ request : Request, request.Asks query limit? →
        let response := (service.respond archive thread request).response
        response.status = 200 ∧ response.body = .matches found) ∧
      ∀ (hasServer : Bool) (meanwhile : Work (List StepResult)), ∃ last page,
        command.run hasServer meanwhile session = (.ok (Command.ended .success), last) ∧
        last.printed = session.printed ++ [page] ∧
        (page = .line "[yellow]No matches found.[/yellow]" ↔ found = []) ∧
        (found ≠ [] → page = .table ["Score", "Document", "Snippet"]
          (found.map fun hit => [hit.score.toDouble.toFixed 4, hit.path,
            Text.snippet 180 (Text.onOneLine hit.snippet)])) := by
  let limit := Match.resolveLimit Match.defaultLimit limit?
  refine ⟨Searcher.foundIn table.rows Text.snippetLength limit query, fun told => ?_,
    ⟨_, Request.asks_ofSearch query limit?⟩, fun request asks => ?_, fun hasServer meanwhile => ?_⟩
  · exact Searcher.search_finds read entries query limit?
  · obtain ⟨status, body⟩ := service.respond_of_asks archive thread asks
    have answered := Service.search_answers attached read entries
      (by decide : 0 < Settings.defaultSearchLimit) asks asked short
    rw [answered] at status body
    exact ⟨status, body⟩
  · obtain ⟨last, ran, printed⟩ :=
      Command.run_of_searches searches present names hosts hasServer meanwhile
    rw [← Searcher.foundIn_of_perm same distinct] at printed
    exact ⟨last, _, ran, printed, Command.searchPage_eq _⟩

/-! One row, in the store of a service and in a file, and a search that says it wants no matches. -/

def exampleTables : Tables := ⟨some ⟨[⟨"/a", "Hi, you.", "hi you", "1", "t"⟩], []⟩, some []⟩

def exampleServed : Archive :=
  ⟨⟨.directory [], [], [], [], ⟨"/h", "/"⟩⟩, [.ofTables exampleTables],
    [⟨.memory, ⟨0, none, false⟩, [], false⟩], ⟨0, 1⟩⟩

def exampleService : Service :=
  ⟨some 0, some (Searcher.make 0 Text.snippetLength (some Settings.defaultSearchLimit) .caller),
    none, .caller⟩

def exampleTerminal : Session :=
  { Session.initial ⟨"/h", "/"⟩ ⟨0, 1⟩ with
    archive := ⟨⟨.directory [("h", .directory [("index.db", .index 0)])], [], [], [], ⟨"/h", "/"⟩⟩,
      [.ofTables exampleTables], [], ⟨0, 1⟩⟩ }

def exampleSearch : Command :=
  ⟨.search, "HI", [], [], some "/h/index.db", .ofQuotient 10 1, some 0, "127.0.0.1", 8000, false⟩

theorem exampleSearch_searches : exampleSearch.Searches "HI" (some 0) := by
  have named : Command.named? ["search", "--limit", "0", "--db", "/h/index.db", "HI"] =
      some exampleSearch := by decide +kernel
  exact Command.searches_of_named named

theorem exampleTerminal_hosts :
    exampleTerminal.archive.Hosts ["h", "index.db"] 0 exampleTables where
  clear := ⟨by decide, nofun, by decide, by decide⟩
  indexed := by rfl
  present := by decide
  idle := rfl
  committed := rfl
  whole := by decide
  opened := nofun

theorem exampleTerminal_names :
    exampleTerminal.files.Names (exampleSearch.databaseIn exampleTerminal.files)
      ["h", "index.db"] := by
  refine ⟨by decide, .ofString "/h/index.db", by decide, ?_⟩
  exact exampleTerminal_hosts.clear.leadsTo rfl (by decide) (by decide)

theorem search_with_limit_zero :
    exampleService.searcher? = some
      (Searcher.make 0 Text.snippetLength (some Settings.defaultSearchLimit) .caller) ∧
    exampleServed.reading 0 0 .listDocuments = (.ok exampleTables, exampleServed) ∧
    exampleTerminal.files.exists? (exampleSearch.databaseIn exampleTerminal.files) = .ok true ∧
    exampleTerminal.files.Names (exampleSearch.databaseIn exampleTerminal.files)
      ["h", "index.db"] ∧
    exampleTerminal.archive.Hosts ["h", "index.db"] 0 exampleTables ∧
    (exampleTables.rows.map (·.path)).Nodup ∧ "HI" ≠ "" ∧
    (∀ limit ∈ some (0 : Int), (Nat.toDigits 10 limit.natAbs).length ≤ Text.digitLimit) ∧
    exampleSearch.Searches "HI" (some 0) ∧
    ∃ found : List (Match Similarity), found.map (·.path) = ["/a"] ∧
      (∀ request : Request, request.Asks "HI" (some 0) →
        let response := (exampleService.respond exampleServed 0 request).response
        response.status = 200 ∧ response.body = .matches found) ∧
      ∃ last, exampleSearch.run false (pure []) exampleTerminal =
          (.ok (Command.ended .success), last) ∧
        last.printed =
          [.table ["Score", "Document", "Snippet"] [["0.5000", "/a", "Hi, you."]]] := by
  have attached : exampleService.searcher? = some
      (Searcher.make 0 Text.snippetLength (some Settings.defaultSearchLimit) .caller) := rfl
  have read : exampleServed.reading 0 0 .listDocuments = (.ok exampleTables, exampleServed) := rfl
  have present : exampleTerminal.files.exists? (exampleSearch.databaseIn exampleTerminal.files) =
      .ok true := by decide
  have distinct : (exampleTables.rows.map (·.path)).Nodup := by decide
  have short : ∀ limit ∈ some (0 : Int),
      (Nat.toDigits 10 limit.natAbs).length ≤ Text.digitLimit := by
    rintro _ ⟨⟩
    decide
  obtain ⟨found, looked, _, answered, shown⟩ := search_routes_agree attached read rfl
    present exampleTerminal_names exampleTerminal_hosts (.refl _) distinct
    (by decide : "HI" ≠ "") short exampleSearch_searches
  have computed : (((Searcher.make 0 Text.snippetLength none .caller).search exampleServed 0 "HI"
      (some 0)).matches?.toOption.map (List.map Command.matchRow)) =
        some [["0.5000", "/a", "Hi, you."]] := by decide +kernel
  rw [looked] at computed
  have rows : found.map Command.matchRow = [["0.5000", "/a", "Hi, you."]] :=
    Option.some.inj computed
  obtain ⟨last, page, ran, printed, _, listed⟩ := shown false (pure [])
  have some' : found ≠ [] := by
    rintro rfl
    cases rows
  refine ⟨attached, read, present, exampleTerminal_names, exampleTerminal_hosts, distinct,
    by decide, short, exampleSearch_searches, found, ?_, answered, last, ran, ?_⟩
  · have paths := congrArg (List.map (·[1]?)) rows
    simpa [Command.matchRow] using paths
  · rw [printed, listed some']
    change [] ++ [Printed.table _ (found.map Command.matchRow)] = _
    rw [rows]
    rfl

end Session

end FolderIndex
