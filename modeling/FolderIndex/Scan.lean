import FolderIndex.Archive
import FolderIndex.Digest
import FolderIndex.Event
import FolderIndex.FileTree.Walk
import FolderIndex.Settings
import FolderIndex.Text.Token

namespace FolderIndex

/-! Scans: one pass over the watched roots that brings a store in line with their files. A scan
is a list of actions; it ends at the first one that fails, with all effects of those before. -/

/-- The roots and extensions that a store is kept in line with, and who is told of it. -/
structure Indexer where
  store : Nat
  roots : List Location
  extensions : List String
  audience : Audience
deriving DecidableEq, Repr

/-- The root that a text names. -/
def Indexer.rootOf (homes : Homes) (current text : String) : Except Failure Location :=
  if Homes.asksForNull text then .error .nullInPath else .ok (homes.resolve current text)

/-- The roots of the texts that are not blank. -/
def Indexer.rootsOf (homes : Homes) (current : String) (watch : List String) :
    Except Failure (List Location) :=
  (watch.filter fun text => !Text.isBlankText text).mapM (rootOf homes current)

def Indexer.make (surroundings : Surroundings) (store : Nat) (watch extensions : List String)
    (audience : Audience) : Except Failure Indexer := do
  let roots ← rootsOf surroundings.homes surroundings.current watch
  pure ⟨store, roots, extensions, audience⟩

/-- How many more times a scan that asks whether it is cancelled hears that it is not; none
if it always does. -/
abbrev Patience := Option Nat

/-- One action of a scan. -/
inductive ScanAction where
  | poll
  | visit (path : String)
  | fail (failure : Failure)
  | remove (path : String)
  | recordRoot (root : String)
deriving DecidableEq, Repr

/-- The failure of what would use a path that cannot be encoded. -/
def Failure.IsEncodingOf (files : FileTree) (path : String) (failure : Failure) : Prop :=
  ∃ fault, files.encodingFault? path = some fault ∧ failure = .badText fault

namespace Archive

/-- The hash that a store has of a file. The database is asked, but a path that cannot be encoded
is no question. -/
def lookUp (archive : Archive) (files : FileTree) (store thread : Nat) (path : String) :
    Outcome (Option String) :=
  match files.encodingFault? path, archive.getHash store thread path with
  | some fault, (.ok _, after) => (.error (.badText fault), after)
  | _, outcome => outcome

/-- How a root that cannot be encoded fails to be recorded, by how it would be recorded else: the
database may refuse the statement before it comes to the root. -/
def recordFailure (fault : TextFault) : Except Failure Unit → Failure
  | .error (.store (.refused operation cause)) =>
      if cause.comesFirst then .store (.refused operation cause) else .badText fault
  | _ => .badText fault

/-- Records a root. For one that cannot be encoded the transaction is undone. -/
def markRoot (archive : Archive) (files : FileTree) (store : Nat) (root : String) : Outcome Unit :=
  match files.encodingFault? root with
  | none => archive.recordRoot store root
  | some fault =>
      (.error (recordFailure fault (archive.recordRoot store root).1),
        (archive.stamp.2.rollback store).2)

variable {archive after : Archive} {files : FileTree} {store thread : Nat} {path root : String}

/-- Looking a file up does to the archive what asking for its hash does. -/
theorem lookUp_snd :
    (archive.lookUp files store thread path).2 = (archive.getHash store thread path).2 := by
  unfold lookUp
  split
  · rename_i found
    rw [found]
  · rfl

/-- What a store refuses it refuses whatever the path is. -/
theorem lookUp_of_error {failure : Failure}
    (refused : archive.getHash store thread path = (.error failure, after)) :
    archive.lookUp files store thread path = (.error failure, after) := by
  unfold lookUp
  rw [refused]
  split
  · rename_i impossible
    cases impossible
  · rfl

/-- Only a path that can be encoded is looked up. -/
theorem lookUp_eq_ok {hash? : Option String} :
    archive.lookUp files store thread path = (.ok hash?, after) ↔
      files.encodingFault? path = none ∧
        archive.getHash store thread path = (.ok hash?, after) := by
  unfold lookUp
  cases files.encodingFault? path with
  | none => simp
  | some fault =>
      cases archive.getHash store thread path with
      | mk result other => cases result <;> simp

/-- A file is not looked up because the store refuses it, or because its path cannot be encoded. -/
theorem lookUp_eq_error {failure : Failure}
    (failed : archive.lookUp files store thread path = (.error failure, after)) :
    archive.getHash store thread path = (.error failure, after) ∨
      failure.IsEncodingOf files path := by
  unfold lookUp at failed
  split at failed
  · rename_i fault _ _ bad found
    cases failed
    exact .inr ⟨fault, bad, rfl⟩
  · exact .inl failed

/-- Only a root that can be encoded is recorded. -/
theorem markRoot_eq_ok :
    archive.markRoot files store root = (.ok (), after) ↔
      files.encodingFault? root = none ∧ archive.recordRoot store root = (.ok (), after) := by
  unfold markRoot
  cases files.encodingFault? root <;> simp

theorem recordFailure_cases (fault : TextFault) (outcome : Except Failure Unit) :
    outcome = .error (recordFailure fault outcome) ∨
      recordFailure fault outcome = .badText fault := by
  unfold recordFailure
  split
  · split
    · exact .inl rfl
    · exact .inr rfl
  · exact .inr rfl

/-- A root is not recorded because the store refuses it, or because it cannot be encoded. -/
theorem markRoot_eq_error {failure : Failure}
    (failed : archive.markRoot files store root = (.error failure, after)) :
    archive.recordRoot store root = (.error failure, after) ∨
      after = (archive.stamp.2.rollback store).2 ∧
        ((archive.recordRoot store root).1 = .error failure ∨ failure.IsEncodingOf files root) := by
  unfold markRoot at failed
  split at failed
  · exact .inl failed
  · rename_i fault bad
    cases failed
    exact .inr ⟨rfl, (recordFailure_cases fault _).imp_right fun same => ⟨fault, bad, same⟩⟩

end Archive

/-- How far a scan has come. -/
structure Progress where
  archive : Archive
  events : List Event
  tally : Tally
  seen : List String
  patience : Patience

namespace Progress

def start (archive : Archive) (patience : Patience) : Progress :=
  ⟨archive, [], .zero, [], patience⟩

def log (progress : Progress) (event : Event) : Progress :=
  { progress with events := progress.events ++ [event] }

/-- Asks whether the scan is cancelled. -/
def poll (progress : Progress) : Progress × Option Failure :=
  match progress.patience with
  | none => (progress, none)
  | some 0 => (progress, some .cancelled)
  | some (left + 1) => ({ progress with patience := some left }, none)

/-- Brings the document of one file in line with its octets. -/
def indexOctets (progress : Progress) (files : FileTree) (store thread : Nat) (path : String)
    (octets : List UInt8) : Progress × Option Failure :=
  let hash := digest octets
  match progress.archive.lookUp files store thread path with
  | (.error failure, archive) => ({ progress with archive := archive }, some failure)
  | (.ok previous, archive) =>
      let progress := { progress with archive := archive }
      if previous = some hash then
        ({ progress.log (.unchanged path) with tally := progress.tally.count .skipped }, none)
      else
        let content := Text.decodeUtf8 octets
        match progress.archive.upsert store path (some content) (Text.tokenize content)
            (some hash) with
        | (.error failure, archive) => ({ progress with archive := archive }, some failure)
        | (.ok _, archive) =>
            let status := if previous.isNone then FileStatus.inserted else .updated
            ({ { progress with archive := archive }.log (.indexed path) with
                tally := progress.tally.count status }, none)

/-- Reads one file and indexes it. -/
def visit (progress : Progress) (files : FileTree) (store thread : Nat) (path : String) :
    Progress × Option Failure :=
  let progress := { progress with seen := progress.seen ++ [path] }
  match files.read (Location.ofString path) with
  | .error failure => (progress, some failure)
  | .ok octets => progress.indexOctets files store thread path octets

/-- Removes the document of a file that is gone. -/
def remove (progress : Progress) (store : Nat) (path : String) : Progress × Option Failure :=
  match progress.archive.delete store path with
  | (.error failure, archive) => ({ progress with archive := archive }, some failure)
  | (.ok false, archive) => ({ progress with archive := archive }, none)
  | (.ok true, archive) =>
      ({ { progress with archive := archive }.log (.removed path) with
          tally := { progress.tally with removed := progress.tally.removed + 1 } }, none)

def recordRoot (progress : Progress) (files : FileTree) (store : Nat) (root : String) :
    Progress × Option Failure :=
  match progress.archive.markRoot files store root with
  | (.error failure, archive) => ({ progress with archive := archive }, some failure)
  | (.ok _, archive) => ({ progress with archive := archive }, none)

def act (progress : Progress) (files : FileTree) (store thread : Nat) :
    ScanAction → Progress × Option Failure
  | .poll => progress.poll
  | .visit path => progress.visit files store thread path
  | .fail failure => (progress, some failure)
  | .remove path => progress.remove store path
  | .recordRoot root => progress.recordRoot files store root

/-- The actions one after the other, up to the first that fails. -/
def run (progress : Progress) (files : FileTree) (store thread : Nat) :
    List ScanAction → Progress × Option Failure
  | [] => (progress, none)
  | action :: rest =>
      match progress.act files store thread action with
      | (after, none) => after.run files store thread rest
      | failed => failed

/-- Actions behind others run if those before them all succeed. -/
theorem run_append (progress : Progress) (files : FileTree) (store thread : Nat)
    (left right : List ScanAction) :
    progress.run files store thread (left ++ right) =
      match progress.run files store thread left with
      | (after, none) => after.run files store thread right
      | (after, some failure) => (after, some failure) := by
  induction left generalizing progress with
  | nil => rfl
  | cons action rest ih =>
      simp only [List.cons_append, run]
      cases outcome : progress.act files store thread action with
      | mk after failure? =>
          cases failure? with
          | none => exact ih after
          | some failure => rfl

end Progress

/-- The outcome of a scan, the archive afterwards, and what was logged. -/
structure ScanRun where
  outcome : Except Failure Tally
  archive : Archive
  notices : List Notice

namespace Indexer

/-- The visits of one root. Each file is preceded by a poll; a failed walk fails at its end. -/
def rootActions (files : FileTree) (extensions : List String) (root : Location) :
    List ScanAction :=
  let walk := files.walk extensions root
  (walk.found.flatMap fun path => [.poll, .visit path]) ++ (walk.failure?.map .fail).toList

/-- The visits of all roots in order, and a last poll. -/
def visitActions (indexer : Indexer) (files : FileTree) : List ScanAction :=
  indexer.roots.flatMap (rootActions files indexer.extensions) ++ [.poll]

/-- What follows the visits: the stored documents that were not seen go, in order, and the time
of each root is recorded. -/
def closingActions (indexer : Indexer) (stored seen : List String) : List ScanAction :=
  (stored.filter fun path => !seen.contains path).map .remove ++
    indexer.roots.map fun root => .recordRoot root.toString

/-- A scan that has visited all files. -/
def reconcile (indexer : Indexer) (files : FileTree) (thread : Nat) (progress : Progress) :
    Progress × Option Failure :=
  match progress.archive.listPaths indexer.store thread with
  | (.error failure, archive) => ({ progress with archive := archive }, some failure)
  | (.ok stored, archive) =>
      { progress with archive := archive }.run files indexer.store thread
        (indexer.closingActions stored progress.seen)

/-- The scan of at least one root. -/
def pass (indexer : Indexer) (files : FileTree) (thread : Nat) (progress : Progress) :
    Progress × Option Failure :=
  match progress.run files indexer.store thread (indexer.visitActions files) with
  | (visited, none) => indexer.reconcile files thread visited
  | failed => failed

/-- One scan of the files as they are at its start. With no roots there is nothing to do and
nothing is logged. -/
def scan (indexer : Indexer) (archive : Archive) (thread : Nat) (patience : Patience) : ScanRun :=
  if indexer.roots.isEmpty then ⟨.ok .zero, archive, []⟩
  else
    match indexer.pass archive.files thread (.start archive patience) with
    | (progress, some failure) =>
        ⟨.error failure, progress.archive, Notice.all indexer.audience progress.events⟩
    | (progress, none) =>
        ⟨.ok progress.tally, progress.archive,
          Notice.all indexer.audience (progress.events ++ [.scanComplete progress.tally])⟩

end Indexer

end FolderIndex
