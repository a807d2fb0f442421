import FolderIndex.Proofs.Plan

namespace FolderIndex

/-! Scans go by their plan. -/

/-- What a scan does with what it fetches. -/
def ScanAction.ofFetch : Except Failure String → List ScanAction
  | .ok path => [.poll, .visit path]
  | .error failure => [.fail failure]

theorem Progress.andThen_assoc (outcome : Progress × Option Failure)
    (next last : Progress → Progress × Option Failure) :
    andThen (andThen outcome next) last =
      andThen outcome fun after => andThen (next after) last := by
  obtain ⟨after, failure?⟩ := outcome
  cases failure? <;> rfl

theorem Progress.run_singleton {files : FileTree} {store thread : Nat} {progress : Progress}
    (action : ScanAction) :
    progress.run files store thread [action] = progress.act files store thread action := by
  simp only [run]
  cases progress.act files store thread action with
  | mk after failure? => cases failure? <;> rfl

namespace Follows

variable {files : FileTree} {store thread : Nat} {held : Archive → Prop} {state : ScanState}
  {progress : Progress}

theorem loosen {steps : List ScanStep} {outcome : Progress × Option Failure}
    (follows : Follows files store (·.Linked store thread) state steps outcome) :
    Follows files store (·.Dependable store thread) state steps outcome := by
  cases follows with
  | through performed matched linked =>
      exact .through performed matched (.inr linked.readsOwnWrites)
  | broken split performed fails kept => exact .broken split performed fails kept

theorem poll (matched : progress.Matches store state) (bond : held progress.archive) :
    Follows files store held state [.poll] progress.poll := by
  unfold Progress.poll
  cases patience : progress.patience with
  | none =>
      have performed : state.after? files [.poll] = some state := by
        simp [ScanState.after?, ScanState.step?, ScanState.polled?, ← matched.patience, patience]
      exact .through performed matched bond
  | some left =>
      cases left with
      | zero =>
          have fails : ScanStep.poll.FailsAt files state .cancelled :=
            ⟨by rw [← matched.patience, patience], rfl⟩
          exact .broken (List.nil_append _).symm rfl fails matched.tables
      | succ left =>
          have performed : state.after? files [.poll] =
              some { state with patience := some left } := by
            simp [ScanState.after?, ScanState.step?, ScanState.polled?, ← matched.patience,
              patience]
          exact .through performed ⟨matched.tables, matched.clock, matched.seen, rfl⟩ bond

section Operation

variable {α : Type} {own : Failure → Prop} {clock : Clock}
  {change : Tables → Except DatabaseFault (α × Tables)} {step : ScanStep} {later : Progress}

/-- A step that an operation of the store does. -/
theorem of_ok {value : α} (matched : progress.Matches store state)
    (performs : progress.archive.Performs store thread own clock change
      (.ok value, later.archive))
    (performed : ∀ tables, change state.tables = .ok (value, tables) →
      state.step? files step = some { state with tables := tables, clock := clock })
    (seen : later.seen = progress.seen) (patience : later.patience = progress.patience) :
    Follows files store (·.Linked store thread) state [step] (later, none) := by
  cases performs with
  | done changed linked timed =>
      rw [matched.tables] at changed
      have stepped : state.after? files [step] =
          some { state with tables := later.archive.committed store, clock := clock } := by
        rw [ScanState.after?_singleton]
        exact performed _ changed
      exact .through stepped
        ⟨rfl, timed, seen.trans matched.seen, patience.trans matched.patience⟩ linked

theorem of_error {failure : Failure} (matched : progress.Matches store state)
    (performs : progress.archive.Performs store thread own clock change
      (.error failure, later.archive))
    (fails : own failure → step.FailsAt files state failure) :
    Follows files store held state [step] (later, some failure) := by
  cases performs with
  | failed own kept =>
      exact .broken (List.nil_append _).symm rfl (fails own) (kept.trans matched.tables)

end Operation

theorem remove (matched : progress.Matches store state)
    (linked : progress.archive.Linked store thread) (path : String) :
    Follows files store (·.Linked store thread) state [.remove path]
      (progress.remove store path) := by
  have performs := Archive.delete_performs linked path
  unfold Progress.remove
  cases outcome : progress.archive.delete store path with
  | mk result archive =>
      rw [outcome] at performs
      cases result with
      | error failure => exact of_error matched performs id
      | ok removed =>
          have performed : ∀ tables, state.tables.delete path = .ok (removed, tables) →
              state.step? files (.remove path) =
                some { state with tables := tables, clock := progress.archive.clock } := by
            intro tables changed
            rw [matched.clock]
            exact ScanState.step?_remove.mpr ⟨removed, tables, changed, rfl⟩
          cases removed with
          | false => exact of_ok matched performs performed rfl rfl
          | true => exact of_ok matched performs performed rfl rfl

theorem recordRoot (matched : progress.Matches store state)
    (linked : progress.archive.Linked store thread) (root : String) :
    Follows files store (·.Linked store thread) state [.recordRoot root]
      (progress.recordRoot files store root) := by
  have performs := Archive.markRoot_performs linked files root
  rw [matched.clock] at performs
  unfold Progress.recordRoot
  cases outcome : progress.archive.markRoot files store root with
  | mk result archive =>
      rw [outcome] at performs
      cases result with
      | error failure => exact of_error matched performs id
      | ok value =>
          have spelled := (Archive.markRoot_eq_ok.mp outcome).1
          have performed : ∀ tables, state.tables.recordRoot ⟨root, state.time⟩ = .ok ((), tables) →
              state.step? files (.recordRoot root) =
                some { state with tables := tables, clock := state.clock.read.2 } :=
            fun tables changed =>
              ScanState.step?_recordRoot.mpr ⟨spelled, tables, changed, rfl⟩
          exact of_ok matched performs performed rfl rfl

/-- The file of a visit is looked up, and written if another one is stored. -/
theorem indexOctets (matched : progress.Matches store state)
    (dependable : progress.archive.Dependable store thread) {path : String} {octets : List UInt8}
    (known : ⟨path, octets⟩ ∈ state.visits) :
    Follows files store (·.Dependable store thread) state
      (ScanState.indexSteps state.tables ⟨path, octets⟩)
      (progress.indexOctets files store thread path octets) := by
  have looked := Archive.lookUp_performs dependable files path
  unfold Progress.indexOctets ScanState.indexSteps
  dsimp only
  cases found : progress.archive.lookUp files store thread path with
  | mk result archive =>
      rw [found] at looked
      cases looked with
      | failed own kept =>
          refine .broken (List.nil_append _).symm rfl ?_ (kept.trans matched.tables)
          exact own
      | @done previous _ answered linked timed =>
          obtain ⟨hashed, sameTables⟩ := Archive.asking_eq_ok.mp answered
          have tablesNow := sameTables.trans matched.tables
          have clockNow := timed.trans matched.clock
          rw [matched.tables] at hashed
          have asked : state.step? files (.lookUp path) = some state :=
            ScanState.step?_lookUp.mpr ⟨(Archive.lookUp_eq_ok.mp found).1, previous, hashed, rfl⟩
          have current : Visit.isCurrent ⟨path, octets⟩ state.tables =
              decide (previous = some (digest octets)) := by
            unfold Visit.isCurrent
            rw [hashed]
            simp [Except.toOption]
          rw [current]
          dsimp only
          by_cases same : previous = some (digest octets)
          · rw [if_pos same, decide_eq_true same, if_pos rfl]
            have performed : state.after? files [.lookUp path] = some state := by
              rw [ScanState.after?_singleton, asked]
            exact .through performed ⟨tablesNow, clockNow, matched.seen, matched.patience⟩
              (.inr linked.readsOwnWrites)
          · rw [if_neg same, decide_eq_false same, if_neg Bool.false_ne_true]
            refine .cons asked ?_
            -- The thread has just read through the store, so what it writes it will read.
            have between : Progress.Matches { progress with archive := archive } store state :=
              ⟨tablesNow, clockNow, matched.seen, matched.patience⟩
            have written := Archive.upsert_performs linked path (Text.decodeUtf8 octets)
              (digest octets) (Text.tokenize (Text.decodeUtf8 octets))
            rw [clockNow] at written
            have performed : ∀ tables,
                state.tables.insert true (Visit.draft ⟨path, octets⟩ state.time) =
                  .ok ((), tables) →
                state.step? files (.write ⟨path, octets⟩) =
                  some { state with tables := tables, clock := state.clock.read.2 } :=
              fun tables changed => ScanState.step?_write.mpr ⟨known, tables, changed, rfl⟩
            cases outcome : archive.upsert store path (some (Text.decodeUtf8 octets))
                (Text.tokenize (Text.decodeUtf8 octets)) (some (digest octets)) with
            | mk result final =>
                rw [outcome] at written
                cases result with
                | error failure => exact of_error between written id
                | ok value =>
                    apply loosen
                    exact of_ok between written performed rfl rfl

theorem visit (matched : progress.Matches store state)
    (dependable : progress.archive.Dependable store thread) (path : String) :
    Follows files store (·.Dependable store thread) state
      (ScanState.readSteps files state.tables path) (progress.visit files store thread path) := by
  unfold Progress.visit ScanState.readSteps
  dsimp only
  cases read : files.read (Location.ofString path) with
  | error failure => exact .broken (List.nil_append _).symm rfl read matched.tables
  | ok octets =>
      have entered : state.step? files (.read path) =
          some { state with visits := state.visits ++ [⟨path, octets⟩] } :=
        ScanState.step?_read.mpr ⟨octets, read, rfl⟩
      have seen : progress.seen ++ [path] =
          (state.visits ++ [Visit.mk path octets]).map (·.path) := by
        rw [matched.seen, List.map_append]
        rfl
      have between : Progress.Matches { progress with seen := progress.seen ++ [path] } store
          { state with visits := state.visits ++ [⟨path, octets⟩] } :=
        ⟨matched.tables, matched.clock, seen, matched.patience⟩
      exact .cons entered (indexOctets between dependable (by simp))

/-- What is fetched is acted on as planned. -/
theorem fetched (matched : progress.Matches store state)
    (dependable : progress.archive.Dependable store thread) (next : Except Failure String) :
    Follows files store (·.Dependable store thread) state (state.stepsOf files next)
      (progress.run files store thread (ScanAction.ofFetch next)) := by
  cases next with
  | error failure => exact .broken (List.nil_append _).symm rfl rfl matched.tables
  | ok path =>
      have fetch : state.step? files (.fetch (.ok path)) = some state := rfl
      have polling : Follows files store (·.Dependable store thread) state [.poll] progress.poll :=
        poll matched dependable
      refine .cons fetch ?_
      rw [ScanAction.ofFetch, Progress.run_cons]
      refine polling.andThen ?_
      intro progress reached polled matched dependable
      rw [ScanState.after?_singleton] at polled
      rw [Progress.run_singleton, ← (ScanState.of_step?_poll polled).1]
      exact visit matched dependable path

theorem run_map {α : Type} {action : α → ScanAction} {step : α → ScanStep}
    (each : ∀ item {progress : Progress} {state}, progress.Matches store state →
      progress.archive.Linked store thread →
        Follows files store (·.Linked store thread) state [step item]
          (progress.act files store thread (action item)))
    (items : List α) (matched : progress.Matches store state)
    (linked : progress.archive.Linked store thread) :
    Follows files store (·.Linked store thread) state (items.map step)
      (progress.run files store thread (items.map action)) := by
  induction items generalizing progress state with
  | nil => exact .through rfl matched linked
  | cons item rest ih =>
      rw [List.map_cons, List.map_cons, Progress.run_cons]
      exact (each item matched linked).andThen fun _ matched linked => ih matched linked

end Follows

namespace Indexer

variable {files : FileTree} {thread : Nat} {state : ScanState} {progress : Progress}
  {indexer : Indexer}

theorem reconcile_follows (matched : progress.Matches indexer.store state)
    (dependable : progress.archive.Dependable indexer.store thread) :
    Follows files indexer.store (·.Dependable indexer.store thread) state
      (indexer.closingSteps state) (indexer.reconcile files thread progress) := by
  have performs := Archive.listPaths_performs dependable
  unfold reconcile closingSteps
  cases outcome : progress.archive.listPaths indexer.store thread with
  | mk result archive =>
      rw [outcome] at performs
      cases performs with
      | failed own kept =>
          exact .broken (List.nil_append _).symm rfl own (kept.trans matched.tables)
      | @done stored _ answered linked timed =>
          obtain ⟨listed, sameTables⟩ := Archive.asking_eq_ok.mp answered
          rw [matched.tables] at listed
          have between :
              Progress.Matches { progress with archive := archive } indexer.store state :=
            ⟨sameTables.trans matched.tables, timed.trans matched.clock, matched.seen,
              matched.patience⟩
          refine .cons (ScanState.changed?_asking.mpr ⟨stored, listed, rfl⟩) ?_
          rw [listed]
          dsimp only
          unfold closingActions
          rw [← matched.seen, Progress.run_append_eq]
          apply Follows.loosen
          refine (Follows.run_map (fun path _ _ matched linked => .remove matched linked path)
            _ between linked).andThen ?_
          intro _ _ _ matched linked
          exact Follows.run_map
            (fun root _ _ matched linked => .recordRoot matched linked root.toString)
            indexer.roots matched linked

theorem visitActions_eq (indexer : Indexer) (files : FileTree) :
    indexer.visitActions files = (indexer.fetches files).flatMap ScanAction.ofFetch ++ [.poll] := by
  have visits : ∀ root, rootActions files indexer.extensions root =
      (files.walk indexer.extensions root).fetches.flatMap ScanAction.ofFetch := by
    intro root
    unfold rootActions Walk.fetches
    dsimp only
    rw [List.flatMap_append, List.flatMap_map]
    cases (files.walk indexer.extensions root).failure? with
    | none => rfl
    | some failure => rfl
  unfold visitActions fetches
  rw [List.flatMap_assoc, funext visits]

theorem planFrom_follows (fetches : List (Except Failure String))
    (matched : progress.Matches indexer.store state)
    (dependable : progress.archive.Dependable indexer.store thread) :
    Follows files indexer.store (·.Dependable indexer.store thread) state
      (indexer.planFrom files fetches state)
      (Progress.andThen (progress.run files indexer.store thread
        (fetches.flatMap ScanAction.ofFetch ++ [.poll])) (indexer.reconcile files thread)) := by
  induction fetches generalizing progress state with
  | nil =>
      rw [planFrom, List.flatMap_nil, List.nil_append, Progress.run_singleton]
      have polling : Follows files indexer.store (·.Dependable indexer.store thread) state [.poll]
          progress.poll := .poll matched dependable
      exact polling.follow fun matched dependable => reconcile_follows matched dependable
  | cons next rest ih =>
      rw [planFrom, List.flatMap_cons, List.append_assoc, Progress.run_append_eq,
        Progress.andThen_assoc]
      exact (Follows.fetched matched dependable next).follow ih

/-- A scan reconciles what is stored if all its visits succeed. -/
theorem pass_eq_andThen (files : FileTree) (thread : Nat) (progress : Progress) :
    indexer.pass files thread progress =
      Progress.andThen (progress.run files indexer.store thread (indexer.visitActions files))
        (indexer.reconcile files thread) := by
  unfold pass
  cases progress.run files indexer.store thread (indexer.visitActions files) with
  | mk visited failure? => cases failure? <;> rfl

theorem pass_follows (files : FileTree) (matched : progress.Matches indexer.store state)
    (dependable : progress.archive.Dependable indexer.store thread) :
    Follows files indexer.store (·.Dependable indexer.store thread) state
      (indexer.plan files state) (indexer.pass files thread progress) := by
  rw [pass_eq_andThen, visitActions_eq]
  exact planFrom_follows _ matched dependable

end Indexer

end FolderIndex
