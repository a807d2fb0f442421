import FolderIndex.Proofs.Operations
import FolderIndex.Proofs.Provenance

namespace FolderIndex

/-! The plan of a scan, step by step: each path is fetched from the walk, the scan is polled, the
file read, its stored hash looked up, and the file written if that is another one; after a last
poll the stored paths are listed, those that were not visited removed, and the roots recorded.
A scan does the steps of its plan up to the first that fails. -/

inductive ScanStep where
  | fetch (next : Except Failure String)
  | poll
  | read (path : String)
  | lookUp (path : String)
  | write (visit : Visit)
  | list
  | remove (path : String)
  | recordRoot (root : String)

/-- What the steps of a scan depend on, and all that they change. -/
structure ScanState where
  tables : Tables
  clock : Clock
  visits : List Visit
  patience : Patience

namespace Visit

/-- The row that a file is written as. -/
def draft (visit : Visit) (time : String) : Draft :=
  ⟨visit.path, some (Text.decodeUtf8 visit.octets),
    Text.joinWords (Text.tokenize (Text.decodeUtf8 visit.octets)), some (digest visit.octets), time⟩

/-- Whether the hash that is stored for a file is that of its octets. -/
def isCurrent (visit : Visit) (tables : Tables) : Bool :=
  (tables.hashOf visit.path).toOption = some (some (digest visit.octets))

end Visit

namespace ScanState

variable {α : Type}

def changed? (state : ScanState) (change : Tables → Except DatabaseFault (α × Tables)) :
    Option ScanState :=
  match change state.tables with
  | .ok (_, tables) => some { state with tables := tables }
  | .error _ => none

/-- The state when the clock has been read once more. -/
def ticked (state : ScanState) : ScanState :=
  { state with clock := state.clock.read.2 }

def time (state : ScanState) : String :=
  state.clock.read.1.toText

def polled? (state : ScanState) : Option ScanState :=
  match state.patience with
  | none => some state
  | some 0 => none
  | some (left + 1) => some { state with patience := some left }

def visited? (state : ScanState) (files : FileTree) (path : String) : Option ScanState :=
  match files.read (Location.ofString path) with
  | .ok octets => some { state with visits := state.visits ++ [⟨path, octets⟩] }
  | .error _ => none

/-- The state, where a path can be encoded. -/
def spelled? (state : ScanState) (files : FileTree) (path : String) : Option ScanState :=
  match files.encodingFault? path with
  | none => some state
  | some _ => none

/-- The state after a step, where the step can be done. Only what was read is written. -/
def step? (files : FileTree) (state : ScanState) : ScanStep → Option ScanState
  | .fetch (.ok _) => some state
  | .fetch (.error _) => none
  | .poll => state.polled?
  | .read path => state.visited? files path
  | .lookUp path => (state.spelled? files path).bind (·.changed? (Archive.asking (·.hashOf path)))
  | .write visit =>
      if visit ∈ state.visits then state.ticked.changed? (·.insert true (visit.draft state.time))
      else none
  | .list => state.changed? (Archive.asking Tables.paths)
  | .remove path => state.changed? (·.delete path)
  | .recordRoot root =>
      (state.spelled? files root).bind (·.ticked.changed? (·.recordRoot ⟨root, state.time⟩))

/-- The state after some steps, where all of them can be done. -/
def after? (files : FileTree) : ScanState → List ScanStep → Option ScanState
  | state, [] => some state
  | state, step :: rest => (state.step? files step).bind fun reached => reached.after? files rest

/-- Some steps, and what is planned once they are done. -/
def follow (files : FileTree) (state : ScanState) (steps : List ScanStep)
    (more : ScanState → List ScanStep) : List ScanStep :=
  steps ++ ((state.after? files steps).map more).getD []

def indexSteps (tables : Tables) (visit : Visit) : List ScanStep :=
  .lookUp visit.path :: if visit.isCurrent tables then [] else [.write visit]

def readSteps (files : FileTree) (tables : Tables) (path : String) : List ScanStep :=
  .read path ::
    match files.read (Location.ofString path) with
    | .error _ => []
    | .ok octets => indexSteps tables ⟨path, octets⟩

/-- The steps from the fetching of a path on, until the next one is fetched. -/
def stepsOf (files : FileTree) (state : ScanState) : Except Failure String → List ScanStep
  | .error failure => [.fetch (.error failure)]
  | .ok path => .fetch (.ok path) :: .poll :: readSteps files state.tables path

end ScanState

/-- What is fetched from a walk: the paths, and the failure that it ends with, if it does. -/
def Walk.fetches (walk : Walk) : List (Except Failure String) :=
  walk.found.map .ok ++ (walk.failure?.map .error).toList

namespace Indexer

/-- What is fetched from the walks of all roots, one after the other. -/
def fetches (indexer : Indexer) (files : FileTree) : List (Except Failure String) :=
  indexer.roots.flatMap fun root => (files.walk indexer.extensions root).fetches

/-- The steps once all files are visited and the last poll is done. -/
def closingSteps (indexer : Indexer) (state : ScanState) : List ScanStep :=
  .list ::
    match state.tables.paths with
    | .error _ => []
    | .ok stored =>
        (stored.filter fun path => !(state.visits.map (·.path)).contains path).map .remove ++
          indexer.roots.map fun root => .recordRoot root.toString

def planFrom (indexer : Indexer) (files : FileTree) :
    List (Except Failure String) → ScanState → List ScanStep
  | [], state => state.follow files [.poll] indexer.closingSteps
  | next :: rest, state =>
      state.follow files (state.stepsOf files next) (indexer.planFrom files rest)

/-- All steps of a scan of at least one root. -/
def plan (indexer : Indexer) (files : FileTree) (state : ScanState) : List ScanStep :=
  indexer.planFrom files (indexer.fetches files) state

end Indexer

/-- How a scan fails at a step. Where that is one of a store, the failure names it; and a path that
cannot be encoded is none that a store can be asked for. -/
def ScanStep.FailsAt (files : FileTree) (state : ScanState) (failure : Failure) : ScanStep → Prop
  | fetch next => next = .error failure
  | poll => state.patience = some 0 ∧ failure = .cancelled
  | read path => files.read (Location.ofString path) = .error failure
  | lookUp path => failure.IsOfPath files (.getHash path) path
  | write visit => failure.IsOf (.upsert visit.path)
  | list => failure.IsOf .listPaths
  | remove path => failure.IsOf (.delete path)
  | recordRoot root => failure.IsOfPath files (.recordRoot root) root

/-- A scan that has come to a state of its plan. -/
structure Progress.Matches (progress : Progress) (store : Nat) (state : ScanState) : Prop where
  tables : progress.archive.committed store = state.tables
  clock : progress.archive.clock = state.clock
  seen : progress.seen = state.visits.map (·.path)
  patience : progress.patience = state.patience

/-- A part of a scan that goes by some steps. It does all of them, or up to one that fails, with
the effects of those before it and of no others. -/
inductive Follows (files : FileTree) (store : Nat) (held : Archive → Prop) (state : ScanState)
    (steps : List ScanStep) : Progress × Option Failure → Prop where
  | through {progress : Progress} {reached : ScanState}
      (performed : state.after? files steps = some reached)
      (matched : progress.Matches store reached) (bond : held progress.archive) :
      Follows files store held state steps (progress, none)
  | broken {progress : Progress} {failure : Failure} {done later : List ScanStep}
      {failing : ScanStep} {reached : ScanState} (split : steps = done ++ failing :: later)
      (performed : state.after? files done = some reached)
      (fails : failing.FailsAt files reached failure)
      (kept : progress.archive.committed store = reached.tables) :
      Follows files store held state steps (progress, some failure)

namespace ScanState

variable {α : Type} {files : FileTree} {state reached : ScanState}

theorem changed?_eq_some {change : Tables → Except DatabaseFault (α × Tables)} :
    state.changed? change = some reached ↔
      ∃ value tables, change state.tables = .ok (value, tables) ∧
        reached = { state with tables := tables } := by
  unfold changed?
  cases change state.tables with
  | error fault => simp
  | ok result =>
      obtain ⟨value, tables⟩ := result
      constructor
      · rintro ⟨⟩
        exact ⟨value, tables, rfl, rfl⟩
      · rintro ⟨_, _, same, rfl⟩
        cases same
        rfl

/-- A question that is answered leaves the state as it is. -/
theorem changed?_asking {ask : Tables → Except DatabaseFault α} :
    state.changed? (Archive.asking ask) = some reached ↔
      ∃ value, ask state.tables = .ok value ∧ reached = state := by
  rw [changed?_eq_some]
  constructor
  · rintro ⟨value, tables, asked, rfl⟩
    obtain ⟨answered, rfl⟩ := Archive.asking_eq_ok.mp asked
    exact ⟨value, answered, rfl⟩
  · rintro ⟨value, answered, rfl⟩
    exact ⟨value, reached.tables, Archive.asking_eq_ok.mpr ⟨answered, rfl⟩, rfl⟩

theorem step?_read {path : String} :
    state.step? files (.read path) = some reached ↔
      ∃ octets, files.read (Location.ofString path) = .ok octets ∧
        reached = { state with visits := state.visits ++ [⟨path, octets⟩] } := by
  simp only [step?, visited?]
  cases files.read (Location.ofString path) with
  | error failure => simp
  | ok octets => simp [eq_comm]

theorem step?_write {visit : Visit} :
    state.step? files (.write visit) = some reached ↔
      visit ∈ state.visits ∧ ∃ tables,
        state.tables.insert true (visit.draft state.time) = .ok ((), tables) ∧
          reached = { state with tables := tables, clock := state.clock.read.2 } := by
  simp only [step?]
  split
  · rename_i known
    simp only [changed?_eq_some, ticked, known, true_and]
    exact ⟨fun ⟨_, changed⟩ => changed, fun changed => ⟨(), changed⟩⟩
  · rename_i unknown
    simp [unknown]

theorem step?_remove {path : String} :
    state.step? files (.remove path) = some reached ↔
      ∃ removed tables, state.tables.delete path = .ok (removed, tables) ∧
        reached = { state with tables := tables } := by
  simp only [step?]
  exact changed?_eq_some

theorem spelled?_bind {path : String} {next : ScanState → Option ScanState} :
    (state.spelled? files path).bind next = some reached ↔
      files.encodingFault? path = none ∧ next state = some reached := by
  unfold spelled?
  cases files.encodingFault? path <;> simp

theorem step?_lookUp {path : String} :
    state.step? files (.lookUp path) = some reached ↔
      files.encodingFault? path = none ∧
        ∃ hash?, state.tables.hashOf path = .ok hash? ∧ reached = state := by
  rw [step?, spelled?_bind, changed?_asking]

theorem step?_recordRoot {root : String} :
    state.step? files (.recordRoot root) = some reached ↔
      files.encodingFault? root = none ∧
        ∃ tables, state.tables.recordRoot ⟨root, state.time⟩ = .ok ((), tables) ∧
          reached = { state with tables := tables, clock := state.clock.read.2 } := by
  rw [step?, spelled?_bind, changed?_eq_some]
  exact and_congr_right' ⟨fun ⟨_, changed⟩ => changed, fun changed => ⟨(), changed⟩⟩

theorem of_step?_poll (polled : state.step? files .poll = some reached) :
    reached.tables = state.tables ∧ reached.clock = state.clock ∧
      reached.visits = state.visits := by
  simp only [step?, polled?] at polled
  split at polled <;> cases polled <;> exact ⟨rfl, rfl, rfl⟩

theorem after?_singleton (step : ScanStep) :
    state.after? files [step] = state.step? files step := by
  simp only [after?]
  cases state.step? files step <;> rfl

theorem after?_append (left right : List ScanStep) :
    state.after? files (left ++ right) =
      (state.after? files left).bind fun reached => reached.after? files right := by
  induction left generalizing state with
  | nil => rfl
  | cons step rest ih =>
      simp only [List.cons_append, after?]
      cases state.step? files step with
      | none => rfl
      | some reached => exact ih

end ScanState

namespace Progress

/-- What follows a part of a scan, if that does not fail. -/
def andThen (outcome : Progress × Option Failure)
    (next : Progress → Progress × Option Failure) : Progress × Option Failure :=
  match outcome with
  | (progress, none) => next progress
  | (progress, some failure) => (progress, some failure)

variable {files : FileTree} {store thread : Nat} {progress : Progress}

theorem run_cons (action : ScanAction) (rest : List ScanAction) :
    progress.run files store thread (action :: rest) =
      andThen (progress.act files store thread action)
        fun after => after.run files store thread rest := by
  simp only [run, andThen]
  cases progress.act files store thread action with
  | mk after failure? => cases failure? <;> rfl

theorem run_append_eq (left right : List ScanAction) :
    progress.run files store thread (left ++ right) =
      andThen (progress.run files store thread left)
        fun after => after.run files store thread right :=
  run_append progress files store thread left right

end Progress

namespace Follows

variable {files : FileTree} {store thread : Nat} {held next : Archive → Prop}
  {state : ScanState} {steps more : List ScanStep} {outcome : Progress × Option Failure}
  {progress : Progress}

theorem cons {step : ScanStep} {reached : ScanState}
    (performed : state.step? files step = some reached)
    (rest : Follows files store held reached steps outcome) :
    Follows files store held state (step :: steps) outcome := by
  cases rest with
  | through onward matched bond =>
      refine .through ?_ matched bond
      rw [ScanState.after?, performed]
      exact onward
  | @broken _ _ done _ _ _ split onward fails kept =>
      refine .broken (by rw [split, List.cons_append]) (?_ : _ = some _) fails kept
      rw [ScanState.after?, performed]
      exact onward

/-- Parts of a scan go by their steps, one after the other. -/
theorem andThen {goOn : Progress → Progress × Option Failure}
    (first : Follows files store held state steps outcome)
    (second : ∀ {progress reached}, state.after? files steps = some reached →
      progress.Matches store reached → held progress.archive →
        Follows files store next reached more (goOn progress)) :
    Follows files store next state (steps ++ more) (Progress.andThen outcome goOn) := by
  cases first with
  | @through progress reached performed matched bond =>
      have rest := second performed matched bond
      dsimp only [Progress.andThen]
      generalize goOn progress = final at rest ⊢
      cases rest with
      | through onward matchedAfter bondAfter =>
          refine .through ?_ matchedAfter bondAfter
          rw [ScanState.after?_append, performed]
          exact onward
      | broken split onward fails kept =>
          refine .broken (by rw [split, List.append_assoc]) ?_ fails kept
          rw [ScanState.after?_append, performed]
          exact onward
  | @broken progress failure done later failing reached split performed fails kept =>
      have whole : steps ++ more = done ++ failing :: (later ++ more) := by simp [split]
      exact .broken whole performed fails kept

/-- A part of a scan that goes by what is planned once the steps before are done. -/
theorem follow {goOn : Progress → Progress × Option Failure}
    {plan : ScanState → List ScanStep} (first : Follows files store held state steps outcome)
    (second : ∀ {progress reached}, progress.Matches store reached → held progress.archive →
      Follows files store next reached (plan reached) (goOn progress)) :
    Follows files store next state (state.follow files steps plan)
      (Progress.andThen outcome goOn) := by
  apply first.andThen
  intro progress reached performed matched bond
  rw [performed]
  exact second matched bond

end Follows

end FolderIndex
