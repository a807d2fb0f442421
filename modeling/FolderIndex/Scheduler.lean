import FolderIndex.Scan

namespace FolderIndex

/-! Schedulers: a background loop that scans at once and then after every interval, until it is
stopped for good. -/

inductive SchedulerState where
  | idle
  | running
  | stopped
deriving DecidableEq, Repr

def SchedulerState.text : SchedulerState → String
  | .idle => "idle"
  | .running => "running"
  | .stopped => "stopped"

/-- A scheduler of an indexer, and who is told of it. Its background scans run on a thread of
their own, once there is one; the first scan may not have come to run yet. -/
structure Scheduler where
  indexer : Indexer
  interval : Double
  thread : Nat
  state : SchedulerState
  stopEvent : Bool
  hasThread : Bool
  firstPending : Bool
  audience : Audience
deriving DecidableEq, Repr

/-- The outcome of a scan whose failures are logged, the archive afterwards, and the log. -/
structure TickRun where
  tally? : Option Tally
  archive : Archive
  notices : List Notice

namespace Scheduler

/-- A scheduler that has not been started. -/
def make (indexer : Indexer) (interval : Double) (thread : Nat) (audience : Audience) :
    Except Failure Scheduler :=
  if interval.isNonPositive then .error .intervalNotPositive
  else .ok ⟨indexer, interval, thread, .idle, false, false, false, audience⟩

/-- How a failure of a scheduled scan is logged. -/
def failureEvent : Failure → Event
  | .cancelled => .scheduledScanCancelled
  | failure => if failure.isDocumented then .scheduledScanFailed failure else .scheduledScanBroken

/-- How long a scheduled scan goes on: it is cancelled by the stop event alone. -/
def patience (scheduler : Scheduler) : Patience :=
  if scheduler.stopEvent then some 0 else none

/-- A scheduled scan on the given thread. -/
def tick (scheduler : Scheduler) (archive : Archive) (thread : Nat) : TickRun :=
  let run := scheduler.indexer.scan archive thread scheduler.patience
  match run.outcome with
  | .ok tally => ⟨some tally, run.archive, run.notices⟩
  | .error failure =>
      ⟨none, run.archive, run.notices ++ [⟨scheduler.audience, failureEvent failure⟩]⟩

/-- A scan on demand, whose failure is the caller's. -/
def reindex (scheduler : Scheduler) (archive : Archive) (thread : Nat) (patience : Patience) :
    ScanRun :=
  scheduler.indexer.scan archive thread patience

/-- The scheduler after a start, and whether it was this start that set it running. -/
def start (scheduler : Scheduler) : Scheduler × Bool :=
  if scheduler.state = .idle then
    ({ scheduler with state := .running, hasThread := true, firstPending := true }, true)
  else (scheduler, false)

/-- Whether the thread of the loop comes to one more scan: the first one, which it runs in any case,
or one after an interval, which it runs unless the stop event is set. -/
def loops (scheduler : Scheduler) : Bool :=
  scheduler.hasThread && (scheduler.firstPending || !scheduler.stopEvent)

/-- The next background scan, if there is to be one: the first, or that after an interval which has
passed. An interval that is longer than any wait can be does not pass. -/
def background (scheduler : Scheduler) (archive : Archive) : Scheduler × Option TickRun :=
  if scheduler.loops then
    ({ scheduler with firstPending := false }, some (scheduler.tick archive scheduler.thread))
  else (scheduler, none)

/-- The scheduler after a stop, and what the stop lets run: a first scan that had not come to
run, which is cancelled. A stopped scheduler has nothing left to stop. -/
def stop (scheduler : Scheduler) (archive : Archive) : Scheduler × TickRun :=
  if scheduler.state = .stopped then (scheduler, ⟨none, archive, []⟩)
  else
    let after := { scheduler with state := .stopped, stopEvent := true, firstPending := false }
    let ended : Notice := ⟨scheduler.audience, .schedulerStopped⟩
    if scheduler.firstPending then
      let run := after.tick archive scheduler.thread
      (after, { run with notices := run.notices ++ [ended] })
    else (after, ⟨none, archive, [ended]⟩)

end Scheduler

end FolderIndex
