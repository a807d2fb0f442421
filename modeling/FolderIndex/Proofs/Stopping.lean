import FolderIndex.Proofs.Lifecycle

namespace FolderIndex

/-! Scans that are cancelled before they begin, as those of a stopped scheduler are. The first thing
that a scan does is to ask whether it goes on, or else to fail: before that it writes nothing. -/

/-- Whether an action ends a scan that is cancelled. -/
def ScanAction.endsCancelled : ScanAction → Bool
  | .poll => true
  | .fail _ => true
  | _ => false

namespace Progress

/-- An action that ends a cancelled scan leaves everything as it was. -/
theorem act_of_endsCancelled {action : ScanAction} (ends : action.endsCancelled = true)
    (archive : Archive) (files : FileTree) (store thread : Nat) :
    ∃ failure, (start archive (some 0)).act files store thread action =
      (start archive (some 0), some failure) := by
  cases action with
  | poll => exact ⟨.cancelled, rfl⟩
  | fail failure => exact ⟨failure, rfl⟩
  | visit path => cases ends
  | remove path => cases ends
  | recordRoot root => cases ends

end Progress

namespace Indexer

variable {indexer : Indexer} {archive : Archive} {thread : Nat}

/-- Before its first visit a scan asks whether it goes on; a walk that finds nothing may fail. -/
theorem visitActions_head (indexer : Indexer) (files : FileTree) :
    ∃ first rest, indexer.visitActions files = first :: rest ∧ first.endsCancelled = true := by
  unfold visitActions
  induction indexer.roots with
  | nil => exact ⟨.poll, [], rfl, rfl⟩
  | cons root others ih =>
      simp only [List.flatMap_cons, rootActions]
      cases files.walk indexer.extensions root with
      | mk found failure? =>
          cases found with
          | cons path later => exact ⟨.poll, _, rfl, rfl⟩
          | nil =>
              cases failure? with
              | some failure => exact ⟨.fail failure, _, rfl, rfl⟩
              | none => simpa using ih

/-- A scan that is cancelled from the start changes nothing at any of its stages. -/
theorem stage_of_cancelled {stage : Progress}
    (passed : stage ∈ indexer.stages archive thread (some 0)) :
    stage = .start archive (some 0) := by
  obtain ⟨first, rest, actions, ends⟩ := indexer.visitActions_head archive.files
  obtain ⟨failure, ended⟩ :=
    Progress.act_of_endsCancelled ends archive archive.files indexer.store thread
  unfold stages at passed
  split at passed
  · exact List.mem_singleton.mp passed
  · simpa [passStages, actions, Progress.stages, Progress.run, ended] using passed

theorem scan_cancelled (indexer : Indexer) (archive : Archive) (thread : Nat) :
    indexer.roots = [] ∧ indexer.scan archive thread (some 0) = ⟨.ok .zero, archive, []⟩ ∨
      indexer.roots ≠ [] ∧
        ∃ failure, indexer.scan archive thread (some 0) = ⟨.error failure, archive, []⟩ := by
  obtain ⟨first, rest, actions, ends⟩ := indexer.visitActions_head archive.files
  obtain ⟨failure, ended⟩ :=
    Progress.act_of_endsCancelled ends archive archive.files indexer.store thread
  by_cases none : indexer.roots = []
  · exact .inl ⟨none, by simp [scan, none]⟩
  · refine .inr ⟨none, failure, ?_⟩
    have some : indexer.roots.isEmpty = false := by simpa using none
    simp only [scan, some, pass, actions, Progress.run, ended]
    rfl

end Indexer

namespace Scheduler

variable {scheduler : Scheduler}

/-- The result of each scheduled scan once no such scan is let run. -/
def idleTally? (indexer : Indexer) : Option Tally :=
  if indexer.roots = [] then some .zero else none

/-- A scheduled scan that has come to nothing: it has one line to log at most, of its failure. -/
structure ComesToNothing (scheduler : Scheduler) (archive : Archive) (thread : Nat) : Prop where
  stages : ∀ stage ∈ scheduler.indexer.stages archive thread scheduler.patience,
    stage.archive = archive ∧ stage.events = [] ∧ stage.seen = []
  unchanged : (scheduler.tick archive thread).archive = archive
  result : (scheduler.tick archive thread).tally? = idleTally? scheduler.indexer
  logged : (scheduler.tick archive thread).notices = [] ∨ ∃ failure,
    (scheduler.tick archive thread).notices = [⟨scheduler.audience, failureEvent failure⟩]

theorem comesToNothing_of_stopped (stopped : scheduler.stopEvent = true) (archive : Archive)
    (thread : Nat) : scheduler.ComesToNothing archive thread := by
  have patience : scheduler.patience = some 0 := by rw [Scheduler.patience, stopped, if_pos rfl]
  have nowhere : ∀ stage ∈ scheduler.indexer.stages archive thread scheduler.patience,
      stage.archive = archive ∧ stage.events = [] ∧ stage.seen = [] := by
    intro stage passed
    rw [patience] at passed
    rw [Indexer.stage_of_cancelled passed]
    exact ⟨rfl, rfl, rfl⟩
  rcases scheduler.indexer.scan_cancelled archive thread with
    ⟨rootless, scanned⟩ | ⟨rooted, failure, scanned⟩ <;> rw [← patience] at scanned
  · exact ⟨nowhere, by simp [tick, scanned], by simp [tick, scanned, idleTally?, rootless],
      .inl (by simp [tick, scanned])⟩
  · exact ⟨nowhere, by simp [tick, scanned], by simp [tick, scanned, idleTally?, rooted],
      .inr ⟨failure, by simp [tick, scanned]⟩⟩

/-- No call of a scheduler whose event is set then changes an archive, but for one on demand. -/
theorem turn_archive_of_stopped {archive : Archive} {call : SchedulerCall}
    (agrees : scheduler.stopEvent = true ↔ scheduler.state = .stopped)
    (stopped : (scheduler.called call).stopEvent = true)
    (scheduled : ∀ patience, call ≠ .reindex patience) :
    (scheduler.turn archive call).archive = archive := by
  cases call with
  | start hold =>
      by_cases idle : scheduler.state = .idle
      · have event : scheduler.stopEvent = true := by simpa [called, idle] using stopped
        rw [agrees, idle] at event
        cases event
      · simp [turn, idle]
  | stop =>
      by_cases before : scheduler.state = .stopped
      · simp [turn, before]
      · cases pending : scheduler.firstPending with
        | false => simp [turn, before, pending]
        | true =>
            have nothing := (comesToNothing_of_stopped stopped archive scheduler.thread).unchanged
            simpa [turn, before, pending] using nothing
  | tick => exact (comesToNothing_of_stopped stopped archive Session.mainThread).unchanged
  | reindex patience => exact absurd rfl (scheduled patience)
  | elapse =>
      by_cases loops : scheduler.loops = true
      · have event : scheduler.stopEvent = true := by simpa [called, loops] using stopped
        have nothing := (comesToNothing_of_stopped event archive scheduler.thread).unchanged
        simpa [turn, loops] using nothing
      · simp [turn, loops]

end Scheduler

namespace Session

variable {session : Session} {number : Nat} {scheduler : Scheduler}

/-- From the stop of a scheduler on, whatever is called and whatever changes around it: scheduled
scans of it write nothing, and give nothing unless there is nothing to scan. Of its calls, that of
the stop included, only a scan on demand goes on as ever. -/
theorem stopped_scheduler_never_writes (drives : session.Drives number scheduler)
    (new : scheduler.IsNew) (happenings : List Happening) :
    ∀ scene ∈ session.scenes [] happenings, (.stop ∈ scene.earlier ∨ scene.call = .stop) →
      (∃ after, scene.after.Drives number after ∧ after.stopEvent = true ∧
        after.indexer = scheduler.indexer ∧
        ∀ archive thread, after.ComesToNothing archive thread) ∧
      ((∀ patience, scene.call ≠ .reindex patience) →
        scene.after.archive = scene.before.archive) ∧
      (scene.call = .tick →
        scene.answer = .ok (.tally (Scheduler.idleTally? scheduler.indexer))) ∧
      ∀ patience, scene.call = .reindex patience →
        let run := scheduler.indexer.scan scene.before.archive mainThread patience
        scene.answer = run.outcome.map (fun tally => .tally (some tally)) ∧
          scene.after.archive = run.archive := by
  intro scene member ended
  obtain ⟨before, shows⟩ := shows_of_mem_scenes drives new.lived member
  have lived := shows.lived.called scene.call
  have stopped : (before.called scene.call).stopEvent = true := by
    rw [lived.stopEvent, decide_eq_true_iff, List.mem_append, List.mem_singleton]
    exact ended.imp_right Eq.symm
  have nothing := Scheduler.comesToNothing_of_stopped stopped
  refine ⟨⟨_, ?_, stopped, lived.indexer, nothing⟩, fun scheduled => ?_, fun ticked => ?_,
    fun patience demanded => ?_⟩
  · rw [shows.after]
    exact shows.drives.turned _ _
  · rw [shows.after]
    exact Scheduler.turn_archive_of_stopped shows.lived.stopEvent_iff stopped scheduled
  · have same : before.called scene.call = before := by rw [ticked, Scheduler.called]
    rw [same] at nothing
    rw [shows.answer, ticked, Scheduler.turn, (nothing _ _).result, shows.lived.indexer]
  · rw [shows.answer, shows.after, demanded, ← shows.lived.indexer]
    exact ⟨rfl, rfl⟩

/-- A scheduler that is stopped before its first scan has come to run, and its calls then. -/
def exampleStops : List Happening :=
  [.call (.start true), .call .stop, .call .tick, .call .elapse, .call (.reindex (some 1))]

theorem stopped_scheduler_scans_on_demand :
    exampleLoopSession.Drives 0 exampleLoop ∧ exampleLoop.IsNew ∧
    (exampleLoopSession.scenes [] exampleStops).map (fun scene =>
        ((scene.before.archive.database 0).committed.rows.length,
          (scene.after.archive.database 0).committed.rows.length)) =
      [(0, 0), (0, 0), (0, 0), (0, 0), (0, 1)] ∧
    ∀ scene ∈ exampleLoopSession.scenes [] exampleStops,
      (.stop ∈ scene.earlier ∨ scene.call = .stop) →
        (∀ patience, scene.call ≠ .reindex patience) →
          scene.after.archive = scene.before.archive := by
  refine ⟨exampleLoopSession_drives, exampleLoop_isNew, by decide +kernel, ?_⟩
  intro scene member ended
  exact (stopped_scheduler_never_writes exampleLoopSession_drives exampleLoop_isNew exampleStops
    scene member ended).2.1

end Session

end FolderIndex
