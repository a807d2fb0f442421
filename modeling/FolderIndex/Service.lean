import FolderIndex.Request
import FolderIndex.Scheduler
import FolderIndex.Search

namespace FolderIndex

/-! The search service: searches, listings and scans on request. -/

/-- A service, the parts that were attached to it, and who is told of it. -/
structure Service where
  store? : Option Nat
  searcher? : Option Searcher
  indexer? : Option Indexer
  audience : Audience
deriving DecidableEq, Repr

inductive Endpoint where
  | search
  | documents
  | reindex
deriving DecidableEq, Repr

/-- What a response says. -/
inductive Body where
  | text (text : String)
  | error (text : String)
  | accepted
  | matches (found : List (Match Similarity))
  | listing (documents : List Document) (roots : List RootScan) (stats : IndexStats)

structure Response where
  status : Nat
  body : Body
  allow? : Option String
  location? : Option String
  allowOrigin? : Option String

/-- A response, the archive afterwards, and what was logged. -/
structure ServiceRun where
  response : Response
  archive : Archive
  notices : List Notice

namespace Response

def plain (status : Nat) (body : Body) : Response := ⟨status, body, none, none, none⟩

def problem (status : Nat) (text : String) : Response := plain status (.error text)

end Response

namespace Endpoint

def all : List Endpoint := [.search, .reindex, .documents]

def path : Endpoint → List Char
  | .search => "/index/search".toList
  | .documents => "/index/documents".toList
  | .reindex => "/index/reindex".toList

def method : Endpoint → String
  | .search => "GET"
  | .documents => "GET"
  | .reindex => "POST"

/-- The endpoint at a path. A line feed at the end of a path is passed over. -/
def at? (path : List Char) : Option Endpoint :=
  all.find? fun endpoint => path = endpoint.path || path = endpoint.path ++ ['\n']

end Endpoint

namespace Service

/-- A notice to those who are told of a service. -/
def notice (service : Service) (event : Event) : Notice := ⟨service.audience, event⟩

/-- The answer where the part that an endpoint needs is missing. -/
def notConfigured : Response := .problem 503 Failure.notConfigured.message

def search (service : Service) (archive : Archive) (thread : Nat) (request : Request) :
    ServiceRun :=
  match service.searcher? with
  | none => ⟨notConfigured, archive, []⟩
  | some searcher =>
      match (request.parameter? "q").filter (· ≠ "") with
      | none => ⟨.problem 400 "q is required", archive, []⟩
      | some query =>
          let limit := Text.limitOr searcher.defaultLimit (request.parameter? "limit")
          let run := searcher.search archive thread query (some limit)
          match run.matches? with
          | .ok found => ⟨.plain 200 (.matches found), run.archive, run.notices⟩
          | .error failure =>
              ⟨.problem 500 "search failed", run.archive,
                run.notices ++ [service.notice (.searchFailed failure)]⟩

def reindex (service : Service) (archive : Archive) (thread : Nat) : ServiceRun :=
  match service.indexer? with
  | none => ⟨notConfigured, archive, []⟩
  | some indexer =>
      let run := indexer.scan archive thread none
      match run.outcome with
      | .ok tally =>
          ⟨.plain 200 .accepted, run.archive,
            run.notices ++ [service.notice (.reindexFinished tally)]⟩
      | .error failure =>
          ⟨.problem 500 "reindex failed", run.archive,
            run.notices ++ [service.notice (.reindexFailed failure)]⟩

/-- The documents, the root scans and the counts of a store, read one after the other. -/
def listing (archive : Archive) (store thread : Nat) : Archive.Outcome Body :=
  match archive.listDocuments store thread 0 with
  | (.error failure, archive) => (.error failure, archive)
  | (.ok documents, archive) =>
      match archive.listRoots store thread with
      | (.error failure, archive) => (.error failure, archive)
      | (.ok roots, archive) =>
          match archive.stats store thread with
          | (.error failure, archive) => (.error failure, archive)
          | (.ok stats, archive) => (.ok (.listing documents roots stats), archive)

def documents (service : Service) (archive : Archive) (thread : Nat) : ServiceRun :=
  match service.store? with
  | none => ⟨notConfigured, archive, []⟩
  | some store =>
      match listing archive store thread with
      | (.ok body, archive) => ⟨.plain 200 body, archive, []⟩
      | (.error failure, archive) =>
          ⟨.problem 500 "listing failed", archive, [service.notice (.listingFailed failure)]⟩

def call (service : Service) (archive : Archive) (thread : Nat) (request : Request) :
    Endpoint → ServiceRun
  | .search => service.search archive thread request
  | .documents => service.documents archive thread
  | .reindex => service.reindex archive thread

/-- The characters that an address keeps. -/
def addressCharacters : List Char := "_.-~:/%#?=@[]!$&()*+,;".toList ++ [Text.singleQuote]

/-- The path with its slashes at the end taken off, or with one put there. -/
def otherSpelling (path : List Char) : List Char :=
  if path.getLast? = some '/' then (path.reverse.dropWhile (· = '/')).reverse else path ++ ['/']

def address (path query : List Char) : String :=
  let query := if query.isEmpty then [] else '?' :: query
  String.ofList
    (Text.percentEncode addressCharacters ("http://testserver".toList ++ path ++ query))

/-- The answer to a request, by its path and method. A path that names an endpoint but for
slashes at its end is sent on to it. -/
def route (service : Service) (archive : Archive) (thread : Nat) (request : Request) :
    ServiceRun :=
  match Endpoint.at? request.path with
  | some endpoint =>
      if request.method = endpoint.method then service.call archive thread request endpoint
      else
        ⟨{ Response.problem 405 "Method Not Allowed" with allow? := some endpoint.method }, archive, []⟩
  | none =>
      let other := otherSpelling request.path
      if (Endpoint.at? other).isSome then
        ⟨{ Response.plain 307 (.text "") with location? := some (address other request.queryText) },
          archive, []⟩
      else ⟨.problem 404 "Not Found", archive, []⟩

/-- The methods that a page elsewhere may ask for. -/
def sharedMethods : List String :=
  ["DELETE", "GET", "HEAD", "OPTIONS", "PATCH", "POST", "PUT", "QUERY"]

/-- What a page elsewhere asks for and may not have: a method, or the way into a private
network. -/
def sharingProblems (request : Request) (wanted : String) : List String :=
  (if sharedMethods.contains wanted then [] else ["method"]) ++
    if (request.header? "access-control-request-private-network").isSome then ["private-network"]
    else []

/-- The answer to a page elsewhere that asks what it may do, if the request does that. -/
def preflight? (request : Request) : Option Response := do
  let _ ← request.header? "origin"
  let wanted ← request.header? "access-control-request-method"
  if request.method = "OPTIONS" then
    let problems := sharingProblems request wanted
    let response : Response :=
      if problems.isEmpty then .plain 200 (.text "OK")
      else .plain 400 (.text ("Disallowed CORS " ++ String.intercalate ", " problems))
    some { response with allowOrigin? := some "*" }
  else none

/-- The answer to a request. One that names its origin is told that any may have the answer. -/
def respond (service : Service) (archive : Archive) (thread : Nat) (request : Request) :
    ServiceRun :=
  match preflight? request with
  | some response => ⟨response, archive, []⟩
  | none =>
      let run := service.route archive thread request
      let origin? := (request.header? "origin").map fun _ => "*"
      { run with response := { run.response with allowOrigin? := origin? } }

end Service

end FolderIndex
