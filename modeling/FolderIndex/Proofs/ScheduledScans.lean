import FolderIndex.Proofs.Lifecycle
import FolderIndex.Proofs.ScanFailures
import FolderIndex.Proofs.TwinScans

namespace FolderIndex

/-! Scheduled scans beside those on demand: they are the same scans, but what the one raises, the
other logs, and goes on. -/

/-! A scan that nobody can cancel is not cancelled. -/

namespace FileTree

variable {tree : FileTree} {extensions : List String} {root location : Location}

theorem read_ne_cancelled : tree.read location ≠ .error .cancelled := by
  intro failed
  unfold read at failed
  dsimp only at failed
  split at failed
  · cases failed
  · split at failed
    · cases failed
    · split at failed
      · cases failed
      · split at failed <;> cases failed

theorem walk_ne_cancelled : (tree.walk extensions root).failure? ≠ some .cancelled := by
  intro failed
  rcases walk_fails failed with ⟨_, same⟩ | unchecked
  · cases same
  · obtain ⟨_, _, _, _, same⟩ := exists?_eq_error_iff.mp unchecked
    cases same

end FileTree

namespace Progress

variable {progress : Progress} {store thread : Nat} {action : ScanAction}

theorem patience_indexOctets (path : String) (octets : List UInt8) :
    (progress.indexOctets files store thread path octets).1.patience = progress.patience := by
  unfold indexOctets
  dsimp only
  split
  · rfl
  · split
    · rfl
    · split <;> rfl

/-- No action makes a scan hear that it is cancelled which could not be before. -/
theorem patience_act (endless : progress.patience = none) (files : FileTree) (store thread : Nat)
    (action : ScanAction) :
    (progress.act files store thread action).1.patience = none := by
  cases action with
  | poll => simp [act, poll, endless]
  | visit path =>
      simp only [act, visit]
      split
      · exact endless
      · exact (patience_indexOctets path _).trans endless
  | fail failure => exact endless
  | remove path =>
      simp only [act, remove]
      split <;> exact endless
  | recordRoot root =>
      simp only [act, recordRoot]
      split <;> exact endless

theorem act_ne_cancelled (endless : progress.patience = none) {files : FileTree}
    (failed : (progress.act files store thread action).2 = some .cancelled) :
    action = .fail .cancelled := by
  have inside : ∀ {path}, ¬ ((∃ cause, Failure.cancelled = .store cause) ∨
      Failure.cancelled.IsEncodingOf files path) := by
    rintro path (⟨_, ⟨⟩⟩ | ⟨_, _, ⟨⟩⟩)
  cases action with
  | poll => simp [act, poll, endless] at failed
  | visit path =>
      simp only [act, visit] at failed
      split at failed
      · rename_i read
        cases failed
        exact absurd read FileTree.read_ne_cancelled
      · exact absurd (indexOctets_fails failed) inside
  | fail failure =>
      cases failed
      rfl
  | remove path =>
      simp only [act, remove] at failed
      split at failed
      · rename_i deleted
        cases failed
        obtain ⟨_, same⟩ := Archive.delete_fails (congrArg Prod.fst deleted)
        cases same
      · cases failed
      · cases failed
  | recordRoot root => exact absurd (recordRoot_fails failed) inside

theorem run_endless (endless : progress.patience = none) (files : FileTree) (store thread : Nat)
    {actions : List ScanAction} (others : .fail .cancelled ∉ actions) :
    (progress.run files store thread actions).1.patience = none ∧
      (progress.run files store thread actions).2 ≠ some .cancelled := by
  induction actions generalizing progress with
  | nil => exact ⟨endless, nofun⟩
  | cons action rest ih =>
      have next := patience_act endless files store thread action
      have first (failed : (progress.act files store thread action).2 = some .cancelled) :
          action = .fail .cancelled := act_ne_cancelled endless failed
      simp only [run]
      generalize progress.act files store thread action = acted at next first
      obtain ⟨after, failure?⟩ := acted
      cases failure? with
      | none => exact ih next (List.not_mem_of_not_mem_cons others)
      | some failure =>
          refine ⟨next, fun cancelled => others ?_⟩
          rw [first cancelled]
          exact List.mem_cons_self

end Progress

namespace Indexer

theorem pass_ne_cancelled (indexer : Indexer) (files : FileTree) (thread : Nat)
    {progress : Progress} (endless : progress.patience = none) :
    (indexer.pass files thread progress).2 ≠ some .cancelled := by
  have others : .fail .cancelled ∉ indexer.visitActions files := by
    intro member
    have among : ∃ root ∈ indexer.roots,
        (files.walk indexer.extensions root).failure? = some .cancelled := by
      simpa [visitActions, rootActions] using member
    obtain ⟨root, _, failed⟩ := among
    exact FileTree.walk_ne_cancelled failed
  have visits := Progress.run_endless endless files indexer.store thread others
  unfold pass
  generalize progress.run files indexer.store thread (indexer.visitActions files) = run at visits
  obtain ⟨visited, failure?⟩ := run
  cases failure? with
  | some failure => exact visits.2
  | none =>
      dsimp only
      unfold reconcile
      split
      · rename_i listed
        intro cancelled
        cases cancelled
        obtain ⟨cause, same⟩ := Archive.query_fails (congrArg Prod.fst listed)
        cases same
      · rename_i stored after listed
        have others : .fail .cancelled ∉ indexer.closingActions stored visited.seen := by
          simp [closingActions]
        have later : { visited with archive := after }.patience = none := visits.1
        exact (Progress.run_endless later files indexer.store thread others).2

/-- A scan that is never told to end does not end as one that was cancelled. -/
theorem scan_ne_cancelled (indexer : Indexer) (archive : Archive) (thread : Nat) :
    (indexer.scan archive thread none).outcome ≠ .error .cancelled := by
  have endless : (Progress.start archive none).patience = none := rfl
  have passed := indexer.pass_ne_cancelled archive.files thread endless
  unfold scan
  split
  · nofun
  · generalize indexer.pass archive.files thread (.start archive none) = run at passed
    obtain ⟨progress, failure?⟩ := run
    cases failure? with
    | none => nofun
    | some failure =>
        intro cancelled
        cases cancelled
        exact passed rfl

end Indexer

/-- How the failure of a scheduled scan is reported: as a warning with its text where it is one that
is documented, and as an error otherwise. -/
structure Event.Reports (event : Event) (failure : Failure) : Prop where
  documented : failure.isDocumented = true →
    event.level = .warning ∧ event.message = "Index scan failed: " ++ failure.message
  unexpected : failure.isDocumented = false →
    event.level = .error ∧ event.message = "Unexpected error during scheduled scan"

/-- A scheduled scan gives what a scan on demand gives. Where that fails there is one more line in
the log, and nothing is raised. -/
structure TickRun.Echoes (run : TickRun) (demanded : ScanRun) (audience : Audience) : Prop where
  returns : ∀ tally, run.tally? = some tally ↔ demanded.outcome = .ok tally
  fails : run.tally? = none ↔ ∃ failure, demanded.outcome = .error failure
  quiet : ∀ tally, demanded.outcome = .ok tally → run.notices = demanded.notices
  logged : ∀ failure, demanded.outcome = .error failure → failure ≠ .cancelled ∧
    ∃ event : Event, event.Reports failure ∧
      run.notices = demanded.notices ++ [⟨audience, event⟩]

namespace Scheduler

variable {scheduler : Scheduler} {archive : Archive} {thread other : Nat}

theorem failureEvent_reports {failure : Failure} (other : failure ≠ .cancelled) :
    (failureEvent failure).Reports failure := by
  have event : failureEvent failure =
      if failure.isDocumented then .scheduledScanFailed failure else .scheduledScanBroken := by
    cases failure <;> first | rfl | contradiction
  rw [event]
  refine ⟨fun documented => ?_, fun unexpected => ?_⟩
  · rw [if_pos documented]
    exact ⟨rfl, rfl⟩
  · rw [if_neg (by simp [unexpected])]
    exact ⟨rfl, rfl⟩

/-- A scheduled scan echoes any scan with the outcome and the log of its own. -/
theorem tick_echoes (going : scheduler.stopEvent = false) {demanded : ScanRun}
    (outcome : (scheduler.reindex archive thread none).outcome = demanded.outcome)
    (notices : (scheduler.reindex archive thread none).notices = demanded.notices) :
    (scheduler.tick archive thread).Echoes demanded scheduler.audience := by
  have endless : scheduler.patience = none := by simp [Scheduler.patience, going]
  have uncancelled := scheduler.indexer.scan_ne_cancelled archive thread
  unfold reindex at outcome notices
  cases ended : demanded.outcome with
  | ok tally =>
      have ran : scheduler.tick archive thread =
          ⟨some tally, (scheduler.indexer.scan archive thread none).archive, demanded.notices⟩ := by
        simp only [tick, endless, outcome, ended, notices]
      rw [ran]
      refine ⟨fun other => ?_, ?_, fun _ _ => rfl, ?_⟩ <;> simp [ended]
  | error failure =>
      have ran : scheduler.tick archive thread =
          ⟨none, (scheduler.indexer.scan archive thread none).archive,
            demanded.notices ++ [⟨scheduler.audience, failureEvent failure⟩]⟩ := by
        simp only [tick, endless, outcome, ended, notices]
      have other : failure ≠ .cancelled := by
        rintro rfl
        exact uncancelled (outcome.trans ended)
      rw [ran]
      refine ⟨by simp [ended], by simp [ended], by simp [ended], fun another same => ?_⟩
      cases ended.symm.trans same
      exact ⟨other, _, failureEvent_reports other, rfl⟩

theorem tick_archive (going : scheduler.stopEvent = false) :
    (scheduler.tick archive thread).archive =
      (scheduler.reindex archive thread none).archive := by
  have endless : scheduler.patience = none := by simp [Scheduler.patience, going]
  unfold tick reindex
  dsimp only
  rw [endless]
  split <;> rfl

/-- A scan on the scheduler's own thread and one on demand, of a database in its place. -/
theorem tick_echoes_across (going : scheduler.stopEvent = false) {place : List String}
    {number : Nat} {tables : Tables} (hosts : archive.Hosts place number tables)
    (open' : (archive.handle scheduler.indexer.store).closed = false) (thread other : Nat) :
    let run := scheduler.tick archive thread
    let demanded := scheduler.reindex archive other none
    run.Echoes demanded scheduler.audience ∧
      Archive.Twins place number scheduler.indexer.store run.archive demanded.archive := by
  obtain ⟨outcome, notices, twins⟩ :=
    scheduler.indexer.scan_on_thread hosts open' thread other none
  refine ⟨tick_echoes going outcome notices, ?_⟩
  rw [tick_archive going]
  exact twins

end Scheduler

/-- A call that comes to a whole scan of what there was then, as if it were the first call of the
scheduler: a scan on demand would have done the same. -/
def Scene.ScansAfresh (scene : Scene) (new : Scheduler) (thread : Nat)
    (answer : Option Tally → Answer) : Prop :=
  let demanded := new.reindex scene.before.archive thread none
  ∃ run : TickRun, run.Echoes demanded new.audience ∧
    scene.answer = .ok (answer run.tally?) ∧
    scene.after.archive = demanded.archive ∧
    scene.after.notices = scene.before.notices ++ run.notices

namespace Scene.Shows

variable {scene : Scene} {number : Nat} {new before : Scheduler}

/-- A call that is answered by a tick of a scheduler that was not stopped is a whole scan. -/
theorem scansAfresh (shows : scene.Shows number new before) (going : .stop ∉ scene.earlier)
    {thread : Nat} {answer : Option Tally → Answer}
    (turn : before.turn scene.before.archive scene.call =
      let run := before.tick scene.before.archive thread
      ⟨.ok (answer run.tally?), run.archive, run.notices⟩) :
    scene.ScansAfresh new thread answer := by
  have event : before.stopEvent = false := by
    rw [shows.lived.stopEvent, decide_eq_false_iff_not]
    exact going
  have same : before.reindex scene.before.archive thread none =
      new.reindex scene.before.archive thread none := by
    unfold Scheduler.reindex
    rw [shows.lived.indexer]
  refine ⟨before.tick scene.before.archive thread, ?_, ?_, ?_, ?_⟩
  · rw [← shows.lived.audience, ← same]
    exact Scheduler.tick_echoes event rfl rfl
  · rw [shows.answer, turn]
  · rw [shows.after, turn, ← same, ← Scheduler.tick_archive event]
    rfl
  · rw [shows.after, turn]
    rfl

end Scene.Shows

namespace Session

variable {session : Session} {number : Nat} {scheduler : Scheduler}

/-- A scheduled scan does what a scan on demand does: in the same state on the same thread, and on
whichever threads where the database is in its place. What fails is logged and not raised; and in
the life of a scheduler, whatever happens in between and however its scans have failed before, each
scheduled scan up to the stop is a whole scan, on the caller's thread as in the background. -/
theorem scheduled_scans_go_on (drives : session.Drives number scheduler) (new : scheduler.IsNew)
    (happenings : List Happening) :
    (∀ going : Scheduler, going.stopEvent = false → ∀ archive thread,
      let run := going.tick archive thread
      let demanded := going.reindex archive thread none
      run.Echoes demanded going.audience ∧ run.archive = demanded.archive) ∧
    (∀ going : Scheduler, going.stopEvent = false → ∀ (archive : Archive) place number tables,
      archive.Hosts place number tables →
      (archive.handle going.indexer.store).closed = false → ∀ thread other,
      let run := going.tick archive thread
      let demanded := going.reindex archive other none
      run.Echoes demanded going.audience ∧
        run.archive.committed going.indexer.store =
          demanded.archive.committed going.indexer.store ∧
        run.archive.clock = demanded.archive.clock) ∧
    ∀ scene ∈ session.scenes [] happenings, .stop ∉ scene.earlier →
      (scene.call = .tick → scene.ScansAfresh scheduler mainThread .tally) ∧
      (scene.call = .elapse → scene.earlier.any SchedulerCall.isStart = true →
        scene.ScansAfresh scheduler scheduler.thread
          fun tally? => .round (some ⟨tally?, scheduler.interval⟩)) := by
  refine ⟨fun going event archive thread => ?_, ?_, fun scene member unstopped => ?_⟩
  · exact ⟨Scheduler.tick_echoes event rfl rfl, Scheduler.tick_archive event⟩
  · intro going event archive place number tables hosts open' thread other
    obtain ⟨echoes, twins⟩ := going.tick_echoes_across event hosts open' thread other
    exact ⟨echoes, twins.committed, twins.clock⟩
  · obtain ⟨before, shows⟩ := shows_of_mem_scenes drives new.lived member
    refine ⟨fun ticked => ?_, fun elapsed started => ?_⟩
    · exact shows.scansAfresh unstopped (by rw [ticked, Scheduler.turn])
    · have running : before.state = .running := by
        rw [shows.lived.state, SchedulerCall.stateAfter, if_neg unstopped, if_pos started]
      refine shows.scansAfresh unstopped ?_
      have loops := shows.lived.loops.mpr running
      rw [elapsed, Scheduler.turn, if_pos loops, shows.lived.thread, shows.lived.interval]

/-! A scheduler of one root, whose store is away for a while. -/

def exampleWatch : Scheduler := { exampleLoop with indexer.roots := [⟨.root, ["a"]⟩] }

def exampleWatchSession : Session := { exampleLoopSession with schedulers := [exampleWatch] }

def exampleOutage : List Happening :=
  [.call (.start true), .meanwhile exampleStart, .call .elapse, .meanwhile exampleArchive,
    .call .tick]

/-- What a scheduled scan gave, where that is the answer. -/
def exampleResult (scene : Scene) : Option (Option Tally) :=
  match scene.answer with
  | .ok (.tally tally?) => some tally?
  | .ok (.round (some round)) => some round.tally?
  | _ => none

theorem exampleWatch_isNew : exampleWatch.IsNew :=
  ⟨exampleWatch.indexer, exampleWatch.interval, 1, .caller, by decide⟩

theorem exampleWatchSession_drives : exampleWatchSession.Drives 0 exampleWatch := ⟨rfl, rfl⟩

theorem exampleStart_vacant : exampleStart.Vacant ["h", "index.db"] := by
  refine ⟨⟨by decide, nofun, by decide, by decide⟩, ?_, rfl⟩
  intro node found
  have none : exampleStart.files.node? ["h", "index.db"] = none := by decide
  rw [none] at found
  cases found

theorem exampleStart_names :
    exampleStart.files.Names (.ofString "/h/index.db") ["h", "index.db"] := by
  refine ⟨by decide, .ofString "/h/index.db", by decide, ?_⟩
  exact exampleStart_vacant.clear.leadsTo rfl (by decide) (by decide)

theorem exampleArchive_hosts :
    ∃ number tables, exampleArchive.Hosts ["h", "index.db"] number tables := by
  obtain ⟨number, after, opened, leaves⟩ := exampleStart_vacant.openStore exampleStart_names
  have same : exampleArchive = after := congrArg Prod.snd opened
  exact ⟨number, _, same ▸ leaves.hosts⟩

theorem scheduled_scan_after_outage :
    exampleWatchSession.Drives 0 exampleWatch ∧ exampleWatch.IsNew ∧
    (exampleWatchSession.scenes [] exampleOutage).map exampleResult =
      [none, some none, some (some ⟨1, 0, 0, 0⟩)] ∧
    exampleWatch.stopEvent = false ∧
    (exampleArchive.handle exampleWatch.indexer.store).closed = false ∧
    (∃ number tables, exampleArchive.Hosts ["h", "index.db"] number tables) ∧
    (exampleWatch.tick exampleArchive 1).Echoes (exampleWatch.reindex exampleArchive 0 none)
      .caller ∧
    ∀ scene ∈ exampleWatchSession.scenes [] exampleOutage, .stop ∉ scene.earlier →
      scene.call = .tick → scene.ScansAfresh exampleWatch mainThread .tally := by
  have unclosed : (exampleArchive.handle exampleWatch.indexer.store).closed = false := by
    decide +kernel
  obtain ⟨_, across, lives⟩ := scheduled_scans_go_on exampleWatchSession_drives exampleWatch_isNew
    exampleOutage
  obtain ⟨number, tables, hosts⟩ := exampleArchive_hosts
  have echoes := (across exampleWatch rfl exampleArchive _ number tables hosts unclosed 1 0).1
  refine ⟨exampleWatchSession_drives, exampleWatch_isNew, by decide +kernel, rfl, unclosed,
    exampleArchive_hosts, echoes, ?_⟩
  intro scene member unstopped
  exact (lives scene member unstopped).1

end Session

end FolderIndex
