import FolderIndex.Proofs.Hosting
import FolderIndex.Proofs.IndexMaps

namespace FolderIndex

/-! Stores on one database, as callers see them. Whatever is called, in whatever order and through
whichever stores and threads, the answers are those of two finite maps. -/

/-- A call of a store, which is known by the number that it got when it was opened. Questions are
asked by a thread. -/
inductive StoreCall where
  | openStore (location : Location)
  | close (store : Nat)
  | upsert (store : Nat) (path : String) (content? : Option String) (tokens : List String)
      (hash? : Option String)
  | delete (store : Nat) (path : String)
  | recordRoot (store : Nat) (root : String)
  | getHash (store thread : Nat) (path : String)
  | listPaths (store thread : Nat)
  | listDocuments (store thread : Nat) (limit : Int)
  | listRoots (store thread : Nat)
  | stats (store thread : Nat)
deriving DecidableEq, Repr

/-- The path that a call is about, which must not be blank. -/
def StoreCall.path? : StoreCall → Option String
  | .upsert _ path _ _ _ | .delete _ path | .recordRoot _ path | .getHash _ _ path => some path
  | _ => none

/-- The store that documents and roots are read and changed through by a call. -/
def StoreCall.user? : StoreCall → Option Nat
  | .openStore _ | .close _ => none
  | .upsert store _ _ _ _ | .delete store _ | .recordRoot store _ | .getHash store _ _
  | .listPaths store _ | .listDocuments store _ _ | .listRoots store _ | .stats store _ =>
      some store

inductive StoreAnswer where
  | done
  | opened (store : Nat)
  | removed (one : Bool)
  | hash (hash? : Option String)
  | paths (paths : List String)
  | documents (documents : List Document)
  | roots (roots : List RootScan)
  | stats (stats : IndexStats)
deriving DecidableEq, Repr

/-- Why a store refuses a call. -/
inductive Refusal where
  | blankPath
  | missing (column : Column)
  | closed
  | limitTooLarge
deriving DecidableEq, Repr

/-- The refusal that a failure tells of; a failure of another kind tells of none. -/
def Refusal.ofFailure? : Failure → Option Refusal
  | .store .blankPath => some .blankPath
  | .store .closed => some .closed
  | .store (.refused _ .closed) => some .closed
  | .store (.refused _ (.missingValue column)) => some (.missing column)
  | .limitTooLarge => some .limitTooLarge
  | _ => none

/-- The results of calls made one after the other, and what they come to. -/
def performAll {σ ρ : Type} (perform : σ → StoreCall → ρ × σ) : σ → List StoreCall → List ρ × σ
  | state, [] => ([], state)
  | state, call :: rest =>
      let (result, after) := perform state call
      let (results, final) := performAll perform after rest
      (result :: results, final)

namespace Archive

/-- An outcome whose value is given as an answer. -/
def Outcome.answering {α : Type} (answer : α → StoreAnswer) (outcome : Outcome α) :
    Outcome StoreAnswer :=
  (outcome.1.map answer, outcome.2)

def perform (archive : Archive) : StoreCall → Outcome StoreAnswer
  | .openStore location => (archive.openStore location).answering .opened
  | .close store => (.ok .done, archive.close store)
  | .upsert store path content? tokens hash? =>
      (archive.upsert store path content? tokens hash?).answering fun _ => .done
  | .delete store path => (archive.delete store path).answering .removed
  | .recordRoot store root => (archive.recordRoot store root).answering fun _ => .done
  | .getHash store thread path => (archive.getHash store thread path).answering .hash
  | .listPaths store thread => (archive.listPaths store thread).answering .paths
  | .listDocuments store thread limit =>
      (archive.listDocuments store thread limit).answering .documents
  | .listRoots store thread => (archive.listRoots store thread).answering .roots
  | .stats store thread => (archive.stats store thread).answering .stats

end Archive

/-- Two maps, the stores on them, of which some are closed, and a clock. -/
structure MapStore where
  maps : IndexMaps
  closed : List Bool
  clock : Clock

namespace MapStore

def isClosed (state : MapStore) (store : Nat) : Bool :=
  state.closed.getD store true

/-- The time that is written with what is stored now. -/
def time (state : MapStore) : String :=
  state.clock.read.1.toText

def requirePath (path : String) : Except Refusal Unit :=
  if Text.isBlankText path then .error .blankPath else .ok ()

def requireOpen (state : MapStore) (store : Nat) : Except Refusal Unit :=
  if state.isClosed store then .error .closed else .ok ()

def requireValue (column : Column) (value? : Option String) : Except Refusal String :=
  match value? with
  | some value => .ok value
  | none => .error (.missing column)

/-- The answer to a call and the maps after it, or the reason why it is refused. -/
def outcome (state : MapStore) : StoreCall → Except Refusal (StoreAnswer × IndexMaps)
  | .openStore _ => .ok (.opened state.closed.length, state.maps)
  | .close _ => .ok (.done, state.maps)
  | .upsert store path content? tokens hash? => do
      requirePath path
      state.requireOpen store
      let content ← requireValue .content content?
      let hash ← requireValue .hash hash?
      pure (.done, state.maps.upsert path ⟨content, tokens, hash, state.time⟩)
  | .delete store path => do
      requirePath path
      state.requireOpen store
      pure (.removed (state.maps.documents.contains path), state.maps.delete path)
  | .recordRoot store root => do
      requirePath root
      state.requireOpen store
      pure (.done, state.maps.recordRoot root state.time)
  | .getHash store _ path => do
      requirePath path
      state.requireOpen store
      pure (.hash (state.maps.hashOf path), state.maps)
  | .listPaths store _ => do
      state.requireOpen store
      pure (.paths state.maps.documents.keys, state.maps)
  | .listDocuments store _ limit => do
      state.requireOpen store
      if Archive.greatestLimit < limit then .error .limitTooLarge
      else pure (.documents (state.maps.listed limit), state.maps)
  | .listRoots store _ => do
      state.requireOpen store
      pure (.roots state.maps.rootScans, state.maps)
  | .stats store _ => do
      state.requireOpen store
      pure (.stats state.maps.stats, state.maps)

/-- Which stores are closed after a call. -/
def closedAfter (state : MapStore) : StoreCall → List Bool
  | .openStore _ => state.closed ++ [false]
  | .close store => state.closed.set store true
  | _ => state.closed

/-- The clock after a call: one that stores something under a path looks at the time. -/
def clockAfter (state : MapStore) : StoreCall → Clock
  | .upsert _ path _ _ _ | .recordRoot _ path =>
      if Text.isBlankText path then state.clock else state.clock.read.2
  | _ => state.clock

/-- The result that is told, and the state with the maps after it. A call that is refused changes
neither map. -/
def settle (state : MapStore) :
    Except Refusal (StoreAnswer × IndexMaps) → Except Refusal StoreAnswer × MapStore
  | .ok (answer, maps) => (.ok answer, { state with maps := maps })
  | .error refusal => (.error refusal, state)

def perform (state : MapStore) (call : StoreCall) : Except Refusal StoreAnswer × MapStore :=
  settle ⟨state.maps, state.closedAfter call, state.clockAfter call⟩ (state.outcome call)

end MapStore

namespace Archive

variable {α : Type} {archive after : Archive} {place : List String} {state : MapStore}
  {store thread : Nat} {call : StoreCall}

/-- An archive whose stores are those on two maps: the database in a place represents the maps,
or there is none yet and they are empty. -/
structure Refines (archive : Archive) (place : List String) (state : MapStore) : Prop where
  closed : archive.handles.map (·.closed) = state.closed
  clock : archive.clock = state.clock
  database : archive.Vacant place ∧ state.maps = .empty ∨
    ∃ number tables, archive.Hosts place number tables ∧ tables.Represents state.maps ∧
      (state.closed = [] ∨ tables.isComplete = true)

/-- What comes of a call, as it is told of two maps. -/
structure Follows (archive : Archive) (place : List String) (outcome : Outcome StoreAnswer)
    (told : Except Refusal StoreAnswer × MapStore) : Prop where
  result : outcome.1.mapError Refusal.ofFailure? = told.1.mapError some
  refines : outcome.2.Refines place told.2
  becomes : archive.files.Becomes place outcome.2.files

theorem Refines.closed_handle (refines : archive.Refines place state) (store : Nat) :
    (archive.handle store).closed = state.isClosed store := by
  rw [MapStore.isClosed, ← refines.closed, Archive.handle, List.getD_eq_getElem?_getD,
    List.getD_eq_getElem?_getD, List.getElem?_map]
  cases archive.handles[store]? <;> rfl

theorem Refines.clear (refines : archive.Refines place state) : archive.files.Clear place := by
  rcases refines.database with ⟨vacant, _⟩ | ⟨_, _, hosts, _⟩
  · exact vacant.clear
  · exact hosts.clear

/-- A store that is open is on the database, no table of which is missing. -/
theorem Refines.hosts (refines : archive.Refines place state)
    (open' : state.isClosed store = false) :
    ∃ number tables, archive.Hosts place number tables ∧ tables.Realizes state.maps := by
  rcases refines.database with ⟨vacant, _⟩ | ⟨number, tables, hosts, represents, complete⟩
  · have openHandle : (archive.handle store).closed = false :=
      (refines.closed_handle store).trans open'
    have member := mem_handles_of_opened openHandle
    simp [vacant.handles] at member
  · refine ⟨number, tables, hosts, represents, complete.resolve_left ?_⟩
    intro none
    simp [MapStore.isClosed, none] at open'

theorem Leaves.refines {number : Nat} {tables : Tables} {closed : List Bool} {maps : IndexMaps}
    (left : archive.Leaves place number tables closed after) (realizes : tables.Realizes maps) :
    after.Refines place ⟨maps, closed, archive.clock⟩ :=
  ⟨left.closed, left.clock,
    .inr ⟨number, tables, left.hosts, realizes.toRepresents, .inr realizes.complete⟩⟩

/-! Questions. -/

theorem query_of_closed (closed : (archive.handle store).closed = true) (thread : Nat)
    (operation : StoreOperation) (ask : Tables → Except DatabaseFault α) :
    ∃ failure, archive.query store thread operation ask = (.error failure, archive) ∧
      Refusal.ofFailure? failure = some .closed := by
  obtain ⟨cause, refused, why⟩ := reading_of_closed closed thread operation
  refine ⟨.store cause, by rw [query, refused], ?_⟩
  rcases why with rfl | rfl <;> rfl

theorem Refines.query (refines : archive.Refines place state) (store thread : Nat)
    (operation : StoreOperation)
    {ask : Tables → Except DatabaseFault α} {value : α}
    (answers : ∀ tables : Tables, tables.Realizes state.maps → ask tables = .ok value) :
    (state.isClosed store = true ∧
      ∃ failure, archive.query store thread operation ask = (.error failure, archive) ∧
        Refusal.ofFailure? failure = some .closed) ∨
    (state.isClosed store = false ∧
      ∃ after, archive.query store thread operation ask = (.ok value, after) ∧
        after.Refines place state ∧ archive.files.Becomes place after.files) := by
  cases closed : state.isClosed store with
  | true =>
      exact .inl ⟨rfl, query_of_closed ((refines.closed_handle store).trans closed) _ _ _⟩
  | false =>
      obtain ⟨number, tables, hosts, realizes⟩ := refines.hosts closed
      obtain ⟨after, read, left⟩ :=
        hosts.reading ((refines.closed_handle store).trans closed) thread operation
      have same := left.refines realizes
      rw [refines.closed, refines.clock] at same
      refine .inr ⟨rfl, after, ?_, same, left.becomes⟩
      rw [Archive.query, read]
      dsimp only
      rw [answers tables realizes]

/-- A question is answered by the maps, unless the store is closed. -/
theorem Refines.question (refines : archive.Refines place state) (operation : StoreOperation)
    {ask : Tables → Except DatabaseFault α} {value : α} (answer : α → StoreAnswer)
    (answers : ∀ tables : Tables, tables.Realizes state.maps → ask tables = .ok value) :
    archive.Follows place ((archive.query store thread operation ask).answering answer)
      (state.settle do
        state.requireOpen store
        pure (answer value, state.maps)) := by
  rcases refines.query store thread operation answers with
    ⟨closed, failure, asked, same⟩ | ⟨closed, after, asked, refinesAfter, becomes⟩
  · have refused : state.requireOpen store = .error .closed := if_pos closed
    rw [asked, refused]
    exact ⟨congrArg Except.error same, refines, refines.clear.becomes_self⟩
  · have allowed : state.requireOpen store = .ok () := if_neg (by simp [closed])
    rw [asked, allowed]
    exact ⟨rfl, refinesAfter, becomes⟩

/-! Changes. -/

theorem transact_of_closed (closed : (archive.handle store).closed = true)
    (change : Tables → Except DatabaseFault (α × Tables)) :
    archive.transact store change = (.error .closed, archive) := by
  simp [Archive.transact, changing, closed]

/-- A change through a store that is closed is refused. -/
theorem Refines.transact (refines : archive.Refines place state) (operation : StoreOperation)
    {change : Tables → Except DatabaseFault (α × Tables)} (answer : α → StoreAnswer)
    {told : Except Refusal (StoreAnswer × IndexMaps)}
    (done : ∀ {number tables}, archive.Hosts place number tables → tables.Realizes state.maps →
      (archive.handle store).closed = false →
      archive.Follows place ((named operation (archive.transact store change)).answering answer)
        (state.settle told)) :
    archive.Follows place ((named operation (archive.transact store change)).answering answer)
      (state.settle do
        state.requireOpen store
        told) := by
  cases closed : state.isClosed store with
  | true =>
      have refused : state.requireOpen store = .error .closed := if_pos closed
      rw [transact_of_closed ((refines.closed_handle store).trans closed), refused]
      exact ⟨rfl, refines, refines.clear.becomes_self⟩
  | false =>
      have allowed : state.requireOpen store = .ok () := if_neg (by simp [closed])
      obtain ⟨number, tables, hosts, realizes⟩ := refines.hosts closed
      rw [allowed]
      exact done hosts realizes ((refines.closed_handle store).trans closed)

/-- A change of the tables is one of the maps. -/
theorem Refines.change (refines : archive.Refines place state) (operation : StoreOperation)
    {change : Tables → Except DatabaseFault (α × Tables)} {value : α} {maps : IndexMaps}
    (answer : α → StoreAnswer)
    (changes : ∀ tables : Tables, tables.Realizes state.maps →
      ∃ after : Tables, change tables = .ok (value, after) ∧ after.Realizes maps) :
    archive.Follows place ((named operation (archive.transact store change)).answering answer)
      (state.settle do
        state.requireOpen store
        pure (answer value, maps)) := by
  refine refines.transact operation answer fun {_ tables} hosts realizes open' => ?_
  obtain ⟨after, changed, realizesAfter⟩ := changes tables realizes
  have left := hosts.storing open' after
  have refinesAfter := left.refines realizesAfter
  rw [refines.closed, refines.clock] at refinesAfter
  rw [hosts.transact open', changed]
  exact ⟨rfl, refinesAfter, left.becomes⟩

/-- A change for which a value is missing is refused. -/
theorem Refines.refusal (refines : archive.Refines place state) (operation : StoreOperation)
    {change : Tables → Except DatabaseFault (α × Tables)} {column : Column}
    (answer : α → StoreAnswer)
    (refuses : ∀ tables : Tables, tables.Realizes state.maps →
      change tables = .error (.missingValue column)) :
    archive.Follows place ((named operation (archive.transact store change)).answering answer)
      (state.settle do
        state.requireOpen store
        .error (.missing column)) := by
  refine refines.transact operation answer fun {_ tables} hosts realizes open' => ?_
  rw [hosts.transact open', refuses tables realizes]
  exact ⟨rfl, refines, refines.clear.becomes_self⟩

theorem Refines.stamp (refines : archive.Refines place state) :
    archive.stamp.2.Refines place { state with clock := state.clock.read.2 } := by
  obtain ⟨closed, clock, database⟩ := refines
  refine ⟨closed, by rw [← clock]; rfl, ?_⟩
  rcases database with ⟨⟨clear, free, handles⟩, empty⟩ | ⟨number, tables, hosts, represents⟩
  · exact .inl ⟨⟨clear, free, handles⟩, empty⟩
  · refine .inr ⟨number, tables, ?_, represents⟩
    exact ⟨hosts.clear, hosts.indexed, hosts.present, hosts.idle, hosts.committed, hosts.whole,
      hosts.opened⟩

/-! One call, and all of them. -/

theorem perform_of_blank (archive : Archive) (blank : call.path?.any Text.isBlankText = true) :
    archive.perform call = (.error (.store .blankPath), archive) := by
  cases call <;> simp only [StoreCall.path?, Option.any_some, Option.any_none, Bool.false_eq_true]
    at blank <;>
    simp [Archive.perform, Archive.upsert, Archive.delete, Archive.recordRoot, Archive.getHash,
      blank, Outcome.answering, Except.map]

/-- What is refused for a blank path leaves everything as it is. -/
theorem Refines.blank (refines : archive.Refines place state)
    (blank : call.path?.any Text.isBlankText = true) :
    archive.Follows place (archive.perform call) (state.perform call) := by
  have told : state.perform call = (.error .blankPath, state) := by
    cases call <;> simp only [StoreCall.path?, Option.any_some, Option.any_none, Bool.false_eq_true]
      at blank <;>
      simp [MapStore.perform, MapStore.outcome, MapStore.requirePath, MapStore.closedAfter,
        MapStore.clockAfter, MapStore.settle, blank, bind, Except.bind]
  rw [perform_of_blank archive blank, told]
  exact ⟨rfl, refines, refines.clear.becomes_self⟩

theorem Follows.of_stamp {outcome : Outcome StoreAnswer}
    {told : Except Refusal StoreAnswer × MapStore}
    (follows : archive.stamp.2.Follows place outcome told) : archive.Follows place outcome told :=
  ⟨follows.result, follows.refines, follows.becomes⟩

theorem Refines.time (refines : archive.Refines place state) : archive.stamp.1 = state.time := by
  rw [MapStore.time, ← refines.clock]
  rfl

theorem Refines.upsert (refines : archive.Refines place state) {path : String}
    (solid : Text.isBlankText path = false) (content? : Option String) (tokens : List String)
    (hash? : Option String) :
    archive.Follows place (archive.perform (.upsert store path content? tokens hash?))
      (state.perform (.upsert store path content? tokens hash?)) := by
  let stamped : MapStore := { state with clock := state.clock.read.2 }
  have performed : archive.perform (.upsert store path content? tokens hash?) =
      (named (.upsert path) (archive.stamp.2.transact store
        (·.insert true ⟨path, content?, Text.joinWords tokens, hash?, state.time⟩))).answering
        fun _ => .done := by
    simp [Archive.perform, Archive.upsert, solid, ← refines.time]
  have told : state.perform (.upsert store path content? tokens hash?) =
      stamped.settle (do
        stamped.requireOpen store
        let content ← MapStore.requireValue .content content?
        let hash ← MapStore.requireValue .hash hash?
        pure (.done, state.maps.upsert path ⟨content, tokens, hash, state.time⟩)) := by
    simp only [MapStore.perform, MapStore.outcome, MapStore.requirePath, MapStore.clockAfter, solid]
    rfl
  rw [performed, told]
  apply Follows.of_stamp
  cases content? with
  | none => exact refines.stamp.refusal _ _ fun tables realizes => realizes.insert_of_missing rfl
  | some content =>
      cases hash? with
      | none =>
          exact refines.stamp.refusal _ _ fun tables realizes => realizes.insert_of_missing rfl
      | some hash =>
          exact refines.stamp.change _ (fun _ => .done) fun tables realizes =>
            realizes.insert path ⟨content, tokens, hash, state.time⟩

theorem Refines.recordRoot (refines : archive.Refines place state) {root : String}
    (solid : Text.isBlankText root = false) :
    archive.Follows place (archive.perform (.recordRoot store root))
      (state.perform (.recordRoot store root)) := by
  let stamped : MapStore := { state with clock := state.clock.read.2 }
  have performed : archive.perform (.recordRoot store root) =
      (named (.recordRoot root) (archive.stamp.2.transact store
        (·.recordRoot ⟨root, state.time⟩))).answering fun _ => .done := by
    simp [Archive.perform, Archive.recordRoot, solid, ← refines.time]
  have told : state.perform (.recordRoot store root) =
      stamped.settle (do
        stamped.requireOpen store
        pure (.done, state.maps.recordRoot root state.time)) := by
    simp only [MapStore.perform, MapStore.outcome, MapStore.requirePath, MapStore.clockAfter, solid]
    rfl
  rw [performed, told]
  exact .of_stamp (refines.stamp.change _ (fun _ => .done) fun tables realizes =>
    realizes.recordRoot root state.time)

theorem Refines.delete (refines : archive.Refines place state) {path : String}
    (solid : Text.isBlankText path = false) :
    archive.Follows place (archive.perform (.delete store path))
      (state.perform (.delete store path)) := by
  have performed : archive.perform (.delete store path) =
      (named (.delete path) (archive.transact store (·.delete path))).answering .removed := by
    simp [Archive.perform, Archive.delete, solid]
  have told : state.perform (.delete store path) =
      state.settle (do
        state.requireOpen store
        pure (.removed (state.maps.documents.contains path), state.maps.delete path)) := by
    simp only [MapStore.perform, MapStore.outcome, MapStore.requirePath, solid]
    rfl
  rw [performed, told]
  exact refines.change _ .removed fun tables realizes => realizes.delete path

theorem Refines.getHash (refines : archive.Refines place state) {path : String}
    (solid : Text.isBlankText path = false) :
    archive.Follows place (archive.perform (.getHash store thread path))
      (state.perform (.getHash store thread path)) := by
  have performed : archive.perform (.getHash store thread path) =
      (archive.query store thread (.getHash path) (·.hashOf path)).answering .hash := by
    simp [Archive.perform, Archive.getHash, solid]
  have told : state.perform (.getHash store thread path) =
      state.settle (do
        state.requireOpen store
        pure (.hash (state.maps.hashOf path), state.maps)) := by
    simp only [MapStore.perform, MapStore.outcome, MapStore.requirePath, solid]
    rfl
  rw [performed, told]
  exact refines.question _ .hash fun tables realizes => realizes.hashOf path

theorem Refines.listDocuments (refines : archive.Refines place state) (limit : Int) :
    archive.Follows place (archive.perform (.listDocuments store thread limit))
      (state.perform (.listDocuments store thread limit)) := by
  have answers : ∀ tables : Tables, tables.Realizes state.maps →
      tables.documents limit = .ok (state.maps.listed limit) :=
    fun tables realizes => realizes.documents limit
  rcases refines.query store thread .listDocuments answers with
    ⟨closed, failure, asked, same⟩ | ⟨closed, after, asked, refinesAfter, becomes⟩
  · have performed : archive.perform (.listDocuments store thread limit) =
        (.error failure, archive) := by
      rw [Archive.perform, Archive.listDocuments, asked]
      rfl
    have told : state.perform (.listDocuments store thread limit) = (.error .closed, state) := by
      simp [MapStore.perform, MapStore.outcome, MapStore.requireOpen, closed, MapStore.settle,
        MapStore.closedAfter, MapStore.clockAfter, bind, Except.bind]
    rw [performed, told]
    exact ⟨congrArg Except.error same, refines, refines.clear.becomes_self⟩
  · have performed : archive.perform (.listDocuments store thread limit) =
        (if greatestLimit < limit then .error .limitTooLarge
          else .ok (.documents (state.maps.listed limit)), after) := by
      rw [Archive.perform, Archive.listDocuments, asked]
      dsimp only
      split <;> rfl
    have told : state.perform (.listDocuments store thread limit) =
        (if greatestLimit < limit then .error .limitTooLarge
          else .ok (.documents (state.maps.listed limit)), state) := by
      have allowed : state.requireOpen store = .ok () := if_neg (by simp [closed])
      rw [MapStore.perform, MapStore.outcome, allowed]
      by_cases exceeded : greatestLimit < limit
      · simp only [exceeded, if_true]
        rfl
      · simp only [exceeded, if_false]
        rfl
    rw [performed, told]
    refine ⟨?_, refinesAfter, becomes⟩
    dsimp only
    split <;> rfl

theorem Refines.openStore (refines : archive.Refines place state) {location : Location}
    (names : archive.files.Names location place) :
    archive.Follows place (archive.perform (.openStore location))
      (state.perform (.openStore location)) := by
  have count : archive.handles.length = state.closed.length := by
    rw [← refines.closed, List.length_map]
  rcases refines.database with ⟨vacant, empty⟩ | ⟨number, tables, hosts, represents, _⟩
  · have none : state.closed = [] := by rw [← refines.closed, vacant.handles, List.map_nil]
    obtain ⟨number, after, opened, left⟩ := vacant.openStore names
    have refinesAfter := left.refines Tables.blank_represents.ensure
    rw [refines.clock] at refinesAfter
    have performed : archive.perform (.openStore location) = (.ok (.opened 0), after) := by
      rw [Archive.perform, opened]
      rfl
    have told : state.perform (.openStore location) =
        (.ok (.opened 0), ⟨.empty, [false], state.clock⟩) := by
      simp [MapStore.perform, MapStore.outcome, MapStore.settle, MapStore.closedAfter,
        MapStore.clockAfter, none, empty]
    rw [performed, told]
    exact ⟨rfl, refinesAfter, left.becomes⟩
  · obtain ⟨after, opened, left⟩ := hosts.openStore names
    have refinesAfter := left.refines represents.ensure
    rw [refines.clock, refines.closed] at refinesAfter
    have performed : archive.perform (.openStore location) =
        (.ok (.opened state.closed.length), after) := by
      rw [Archive.perform, opened, count]
      rfl
    rw [performed]
    exact ⟨rfl, refinesAfter, left.becomes⟩

theorem Refines.close (refines : archive.Refines place state) (store : Nat) :
    archive.Follows place (archive.perform (.close store)) (state.perform (.close store)) := by
  cases closed : state.isClosed store with
  | false =>
      obtain ⟨number, tables, hosts, realizes⟩ := refines.hosts closed
      have left := hosts.close ((refines.closed_handle store).trans closed)
      have refinesAfter := left.refines realizes
      rw [refines.closed, refines.clock] at refinesAfter
      exact ⟨rfl, refinesAfter, left.becomes⟩
  | true =>
      have again := close_of_closed ((refines.closed_handle store).trans closed)
      have told : state.perform (.close store) = (.ok .done, state) := by
        have same : state.closed.set store true = state.closed := by
          have kept := set_getD_self state.closed store true
          rwa [← MapStore.isClosed, closed] at kept
        simp [MapStore.perform, MapStore.outcome, MapStore.settle, MapStore.closedAfter,
          MapStore.clockAfter, same]
      have performed : archive.perform (.close store) = (.ok .done,
          archive.setDatabaseOf store ((archive.databaseOf store).rollback store)) := by
        rw [Archive.perform, again]
      rw [performed, told]
      refine ⟨rfl, ⟨refines.closed, refines.clock, ?_⟩, refines.clear.becomes_self⟩
      rcases refines.database with ⟨⟨clear, free, handles⟩, empty⟩ | ⟨number, tables, hosts, others⟩
      · exact .inl ⟨⟨clear, free, handles⟩, empty⟩
      · exact .inr ⟨number, tables, hosts.rolledBack store, others⟩

/-- A call is answered as the maps are, and they are what is stored then. -/
theorem Refines.perform (refines : archive.Refines place state) (call : StoreCall)
    (names : ∀ location, call = .openStore location → archive.files.Names location place) :
    archive.Follows place (archive.perform call) (state.perform call) := by
  cases blank : call.path?.any Text.isBlankText with
  | true => exact refines.blank blank
  | false =>
      cases call with
      | openStore location => exact refines.openStore (names location rfl)
      | close store => exact refines.close store
      | upsert store path content? tokens hash? => exact refines.upsert blank content? tokens hash?
      | delete store path => exact refines.delete blank
      | recordRoot store root => exact refines.recordRoot blank
      | getHash store thread path => exact refines.getHash blank
      | listPaths store thread =>
          exact refines.question .listPaths .paths fun tables realizes => realizes.paths
      | listDocuments store thread limit => exact refines.listDocuments limit
      | listRoots store thread =>
          exact refines.question .listRoots .roots fun tables realizes => realizes.rootScans
      | stats store thread =>
          exact refines.question .stats .stats fun tables realizes => realizes.stats

theorem Refines.performAll (refines : archive.Refines place state) (calls : List StoreCall)
    (names : ∀ location, .openStore location ∈ calls → archive.files.Names location place) :
    let stored := FolderIndex.performAll Archive.perform archive calls
    let told := FolderIndex.performAll MapStore.perform state calls
    stored.1.map (·.mapError Refusal.ofFailure?) = told.1.map (·.mapError some) ∧
      stored.2.Refines place told.2 := by
  induction calls generalizing archive state with
  | nil => exact ⟨rfl, refines⟩
  | cons call rest ih =>
      have first := refines.perform call fun location same => names location (by simp [same])
      -- A call touches the files of the database alone, so later names still lead to it.
      obtain ⟨results, last⟩ := ih first.refines fun location member =>
        (names location (List.mem_cons_of_mem _ member)).becomes first.becomes
      refine ⟨?_, last⟩
      simp only [FolderIndex.performAll, List.map_cons]
      rw [first.result, results]

/-- Where nothing is open yet, a database that represents two maps, or that is still to be made, is
used as they would be: whatever is called, in any order and through any stores on it, all results
are those of the maps, and in the end the maps are what is stored. -/
theorem stores_answer_as_maps {maps : IndexMaps} (unused : archive.handles = [])
    (database : archive.Vacant place ∧ maps = .empty ∨
      ∃ number tables, archive.Hosts place number tables ∧ tables.Represents maps)
    (calls : List StoreCall)
    (names : ∀ location, .openStore location ∈ calls → archive.files.Names location place) :
    let stored := FolderIndex.performAll Archive.perform archive calls
    let told := FolderIndex.performAll MapStore.perform ⟨maps, [], archive.clock⟩ calls
    stored.1.map (·.mapError Refusal.ofFailure?) = told.1.map (·.mapError some) ∧
      stored.2.Refines place told.2 := by
  have refines : archive.Refines place ⟨maps, [], archive.clock⟩ := by
    refine ⟨by rw [unused]; rfl, rfl, ?_⟩
    rcases database with fresh | ⟨number, tables, hosts, represents⟩
    · exact .inl fresh
    · exact .inr ⟨number, tables, hosts, represents, .inl rfl⟩
  exact refines.performAll calls names

/-! Two stores on a file that is still to be made. -/

def exampleWork : Archive :=
  .initial ⟨.directory [("work", .emptyDirectory)], [], [], [], ⟨"/home", "/work"⟩⟩ ⟨0, 1⟩

def exampleFile : Location := ⟨.root, ["work", "index.db"]⟩

def exampleCalls : List StoreCall :=
  [.openStore exampleFile, .openStore exampleFile,
    .upsert 0 "/a.md" (some "one") ["one", "two three"] (some "1"),
    .upsert 1 "/a.md" none [] (some "2"), .close 0, .listDocuments 1 0 0, .delete 1 "/a.md",
    .delete 0 "/a.md"]

theorem exampleWork_vacant : exampleWork.Vacant ["work", "index.db"] := by
  refine ⟨⟨by decide, nofun, ?_, by decide⟩, ?_, rfl⟩
  · decide
  · intro node found
    have none : exampleWork.files.node? ["work", "index.db"] = none := by decide
    rw [none] at found
    cases found

theorem exampleWork_names : exampleWork.files.Names exampleFile ["work", "index.db"] := by
  refine ⟨by decide, exampleFile, by decide, ?_⟩
  exact exampleWork_vacant.clear.leadsTo rfl (by decide) (by decide)

theorem two_stores_share_a_document :
    exampleWork.handles = [] ∧ exampleWork.Vacant ["work", "index.db"] ∧
    (∀ location, .openStore location ∈ exampleCalls →
      exampleWork.files.Names location ["work", "index.db"]) ∧
    (FolderIndex.performAll Archive.perform exampleWork exampleCalls).1.map
        (·.mapError Refusal.ofFailure?) =
      [.ok (.opened 0), .ok (.opened 1), .ok .done, .error (some (.missing .content)), .ok .done,
        .ok (.documents [⟨"/a.md", "one", ["one", "two", "three"], "1",
          "1970-01-01T00:00:00+00:00"⟩]),
        .ok (.removed true), .error (some .closed)] := by
  have names : ∀ location, .openStore location ∈ exampleCalls →
      exampleWork.files.Names location ["work", "index.db"] := by
    intro location member
    have same : location = exampleFile := by simpa [exampleCalls] using member
    exact same ▸ exampleWork_names
  have told := (stores_answer_as_maps rfl (.inl ⟨exampleWork_vacant, rfl⟩) exampleCalls names).1
  refine ⟨rfl, exampleWork_vacant, names, told.trans ?_⟩
  decide +kernel

end Archive

end FolderIndex
