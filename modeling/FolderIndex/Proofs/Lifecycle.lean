import FolderIndex.Proofs.Course
import FolderIndex.Proofs.Work
import FolderIndex.Session.Step

namespace FolderIndex

/-! The life of a scheduler: its calls, one after the other, while files, stores and the clock
change as they like. Which of start and stop were called before says how the scheduler is: it runs
from the first start on, until it is stopped for good. -/

/-- How a scheduler can come from one state to another. -/
inductive SchedulerState.Moves : SchedulerState → SchedulerState → Prop where
  | stay (state : SchedulerState) : Moves state state
  | begin : Moves .idle .running
  | finish : Moves .running .stopped
  | forgo : Moves .idle .stopped

/-- What a scheduler is called for. An interval that has passed calls for the next background
scan. -/
inductive SchedulerCall where
  | start (hold : Bool)
  | stop
  | tick
  | reindex (patience : Patience)
  | elapse
deriving DecidableEq, Repr

namespace SchedulerCall

/-- The step of a session that makes the call. -/
def step : SchedulerCall → Step
  | start hold => .start hold
  | stop => .stop
  | tick => .tick
  | reindex patience => .reindex patience
  | elapse => .advance

def isStart : SchedulerCall → Bool
  | start _ => true
  | _ => false

/-- The state of a scheduler after its calls. -/
def stateAfter (calls : List SchedulerCall) : SchedulerState :=
  if .stop ∈ calls then .stopped else if calls.any isStart then .running else .idle

variable {calls : List SchedulerCall}

theorem stateAfter_eq_stopped : stateAfter calls = .stopped ↔ .stop ∈ calls := by
  unfold stateAfter
  split
  · simp [*]
  · split <;> simp [*]

theorem stateAfter_eq_idle :
    stateAfter calls = .idle ↔ ∀ call ∈ calls, call.isStart = false ∧ call ≠ .stop := by
  unfold stateAfter
  by_cases stopped : .stop ∈ calls
  · simp only [stopped, if_true, reduceCtorEq, false_iff]
    intro neither
    exact (neither _ stopped).2 rfl
  · have apart : ∀ call ∈ calls, call ≠ .stop := fun call member same => stopped (same ▸ member)
    simp only [stopped, if_false, ite_eq_right_iff, reduceCtorEq, imp_false, List.any_eq_true,
      not_exists, not_and, Bool.not_eq_true]
    exact forall₂_congr fun call member => (and_iff_left (apart call member)).symm

/-- A start sets an idle scheduler running, a stop ends it, and nothing else matters. -/
theorem stateAfter_append (calls : List SchedulerCall) (call : SchedulerCall) :
    stateAfter (calls ++ [call]) =
      match call with
      | .stop => .stopped
      | .start _ => if stateAfter calls = .idle then .running else stateAfter calls
      | _ => stateAfter calls := by
  unfold stateAfter
  by_cases stopped : .stop ∈ calls <;> by_cases started : calls.any isStart = true <;>
    cases call <;> simp [stopped, started, isStart]

end SchedulerCall

/-- What comes of a call: the answer, the archive afterwards, and the log. -/
structure Turn where
  answer : Except Failure Answer
  archive : Archive
  notices : List Notice

namespace Scheduler

/-- The scheduler after a call. -/
def called (scheduler : Scheduler) : SchedulerCall → Scheduler
  | .start hold =>
      if scheduler.state = .idle then
        { scheduler with state := .running, hasThread := true, firstPending := hold }
      else scheduler
  | .stop =>
      if scheduler.state = .stopped then scheduler
      else { scheduler with state := .stopped, stopEvent := true, firstPending := false }
  | .elapse => if scheduler.loops then { scheduler with firstPending := false } else scheduler
  | .tick => scheduler
  | .reindex _ => scheduler

/-- What comes of a call. -/
def turn (scheduler : Scheduler) (archive : Archive) : SchedulerCall → Turn
  | .start hold =>
      let begun : Notice := ⟨scheduler.audience, .schedulerStarted scheduler.interval⟩
      if scheduler.state ≠ .idle then ⟨.ok (.started false none), archive, []⟩
      else if hold then ⟨.ok (.started true none), archive, [begun]⟩
      else
        let run := scheduler.tick archive scheduler.thread
        ⟨.ok (.started true (some ⟨run.tally?, scheduler.interval⟩)), run.archive,
          begun :: run.notices⟩
  | .stop =>
      let ended : Notice := ⟨scheduler.audience, .schedulerStopped⟩
      if scheduler.state = .stopped then ⟨.ok (.state (some .stopped)), archive, []⟩
      else if scheduler.firstPending then
        let run := (scheduler.called .stop).tick archive scheduler.thread
        ⟨.ok (.state (some .stopped)), run.archive, run.notices ++ [ended]⟩
      else ⟨.ok (.state (some .stopped)), archive, [ended]⟩
  | .tick =>
      let run := scheduler.tick archive Session.mainThread
      ⟨.ok (.tally run.tally?), run.archive, run.notices⟩
  | .reindex patience =>
      let run := scheduler.reindex archive Session.mainThread patience
      ⟨run.outcome.map fun tally => .tally (some tally), run.archive, run.notices⟩
  | .elapse =>
      if scheduler.loops then
        let run := scheduler.tick archive scheduler.thread
        ⟨.ok (.round (some ⟨run.tally?, scheduler.interval⟩)), run.archive, run.notices⟩
      else ⟨.ok (.round none), archive, []⟩

end Scheduler

namespace Session

variable {session : Session} {number : Nat} {scheduler : Scheduler}

/-- The current scheduler of a session, and its number. -/
structure Drives (session : Session) (number : Nat) (scheduler : Scheduler) : Prop where
  current : session.scheduler? = some number
  found : session.schedulers[number]? = some scheduler

/-- The session after a turn that leaves one of its schedulers as it is given. -/
def turned (session : Session) (number : Nat) (after : Scheduler) (turn : Turn) : Session :=
  { session with
    archive := turn.archive
    schedulers := session.schedulers.set number after
    notices := session.notices ++ turn.notices }

theorem Drives.unique (drives : session.Drives number scheduler) {other : Nat}
    {another : Scheduler} (others : session.Drives other another) : another = scheduler := by
  have same := others.current.symm.trans drives.current
  cases same
  exact Option.some.inj (others.found.symm.trans drives.found)

theorem Drives.set_self (drives : session.Drives number scheduler) :
    session.schedulers.set number scheduler = session.schedulers := by
  obtain ⟨present, rfl⟩ := List.getElem?_eq_some_iff.mp drives.found
  exact List.set_getElem_self present

theorem Drives.turned (drives : session.Drives number scheduler) (after : Scheduler)
    (turn : Turn) : (session.turned number after turn).Drives number after := by
  obtain ⟨present, _⟩ := List.getElem?_eq_some_iff.mp drives.found
  refine ⟨drives.current, ?_⟩
  simp [Session.turned, present]

theorem Drives.scheduler_apply (drives : session.Drives number scheduler) :
    Session.scheduler number session = (.ok scheduler, session) := by
  simp [Session.scheduler, drives.found]

theorem Drives.current_apply (drives : session.Drives number scheduler) :
    Session.current (·.scheduler?) session = (.ok number, session) := by
  simp [Session.current, drives.current]

theorem Drives.start_of_idle (drives : session.Drives number scheduler)
    (idle : scheduler.state = .idle) :
    startScheduler number session =
      (.ok true, session.turned number (scheduler.called (.start true))
        (scheduler.turn session.archive (.start true))) := by
  simp [startScheduler, drives.scheduler_apply, Scheduler.start, Scheduler.called, Scheduler.turn,
    idle, setScheduler, tell, Session.turned]

/-- The next background scan of a scheduler is a tick of it, if its loop comes to one. -/
theorem Drives.advance (drives : session.Drives number scheduler) :
    advanceScheduler number session =
      if scheduler.loops then
        (.ok (some ⟨(scheduler.tick session.archive scheduler.thread).tally?, scheduler.interval⟩),
          session.turned number (scheduler.called .elapse)
            (scheduler.turn session.archive .elapse))
      else (.ok none, session) := by
  by_cases loops : scheduler.loops = true
  · simp [advanceScheduler, drives.scheduler_apply, Scheduler.background, Scheduler.called,
      Scheduler.turn, loops, setScheduler, keepTick, Session.turned]
  · simp [advanceScheduler, drives.scheduler_apply, Scheduler.background, loops, setScheduler,
      drives.set_self]

/-- A call of the current scheduler, as a session makes it. -/
theorem Drives.run_step (drives : session.Drives number scheduler) (call : SchedulerCall) :
    run call.step session =
      ((scheduler.turn session.archive call).answer,
        session.turned number (scheduler.called call)
          (scheduler.turn session.archive call)) := by
  cases call with
  | start hold =>
      change perform (.start hold) session = _
      by_cases idle : scheduler.state = .idle
      · have started := drives.start_of_idle idle
        cases hold with
        | true => simp [perform, drives.current_apply, started, Scheduler.turn, idle]
        | false =>
            -- The first scan is one of the scheduler as the start has left it.
            have begun := drives.turned (scheduler.called (.start true))
              (scheduler.turn session.archive (.start true))
            let running : Scheduler :=
              { scheduler with state := .running, hasThread := true, firstPending := true }
            have loops : running.loops = true := rfl
            have same : running.tick session.archive scheduler.thread =
                scheduler.tick session.archive scheduler.thread := rfl
            simp only [perform, bind_apply, drives.current_apply, started, Bool.not_false,
              Bool.and_self, if_true, begun.advance, pure_apply]
            simp [Scheduler.called, Scheduler.turn, idle, Session.turned, running, loops, same]
      · simp [perform, drives.current_apply, startScheduler, drives.scheduler_apply,
          Scheduler.start, setScheduler, idle, Scheduler.called, Scheduler.turn, Session.turned,
          drives.set_self]
  | stop =>
      change perform .stop session = _
      by_cases stopped : scheduler.state = .stopped
      · simp [perform, drives.current_apply, stopScheduler, drives.scheduler_apply, Scheduler.stop,
          setScheduler, keepTick, stopped, Scheduler.called, Scheduler.turn, Session.turned,
          drives.set_self]
      · cases pending : scheduler.firstPending <;>
          simp [perform, drives.current_apply, stopScheduler, drives.scheduler_apply,
            Scheduler.stop, setScheduler, keepTick, stopped, pending, Scheduler.called,
            Scheduler.turn, Session.turned]
  | tick =>
      change perform .tick session = _
      simp [perform, drives.current_apply, Session.tick, drives.scheduler_apply, keepTick,
        Scheduler.called, Scheduler.turn, Session.turned, drives.set_self]
  | reindex patience =>
      change perform (.reindex patience) session = _
      cases outcome : (scheduler.indexer.scan session.archive mainThread patience).outcome <;>
        simp [perform, drives.current_apply, drives.scheduler_apply, Session.scan,
          Scheduler.called, Scheduler.turn, Scheduler.reindex, Session.turned, drives.set_self,
          outcome, Except.map]
  | elapse =>
      change perform .advance session = _
      by_cases loops : scheduler.loops = true <;>
        simp [perform, drives.current_apply, drives.advance, Scheduler.called, Scheduler.turn,
          loops, Session.turned, drives.set_self]

end Session

/-- What happens while there is a scheduler: it is called, or what lies outside it has changed. -/
inductive Happening where
  | call (call : SchedulerCall)
  | meanwhile (archive : Archive)

/-- A call in the life of a scheduler: the calls before it, what it found, and what came of it. -/
structure Scene where
  earlier : List SchedulerCall
  call : SchedulerCall
  before : Session
  answer : Except Failure Answer
  after : Session

/-- Whether the call has set the scheduler running. -/
def Scene.hasStarted (scene : Scene) : Bool :=
  match scene.answer with
  | .ok (.started started _) => started
  | _ => false

/-- The calls of the current scheduler of a session, as they are made one after the other. -/
def Session.scenes (session : Session) (earlier : List SchedulerCall) : List Happening → List Scene
  | [] => []
  | .call call :: rest =>
      let ran := run call.step session
      ⟨earlier, call, session, ran.1, ran.2⟩ :: ran.2.scenes (earlier ++ [call]) rest
  | .meanwhile archive :: rest => { session with archive := archive }.scenes earlier rest

namespace Scheduler

variable {new scheduler : Scheduler} {calls : List SchedulerCall}

def IsNew (scheduler : Scheduler) : Prop :=
  ∃ indexer interval thread audience, make indexer interval thread audience = .ok scheduler

/-- What a scheduler that was new has become by its calls. -/
structure Lived (new : Scheduler) (calls : List SchedulerCall) (scheduler : Scheduler) : Prop where
  indexer : scheduler.indexer = new.indexer
  interval : scheduler.interval = new.interval
  thread : scheduler.thread = new.thread
  audience : scheduler.audience = new.audience
  state : scheduler.state = SchedulerCall.stateAfter calls
  stopEvent : scheduler.stopEvent = decide (.stop ∈ calls)
  loops : scheduler.loops = true ↔ scheduler.state = .running

theorem IsNew.idle (new : scheduler.IsNew) :
    scheduler.state = .idle ∧ scheduler.stopEvent = false := by
  obtain ⟨_, _, _, _, made⟩ := new
  unfold make at made
  split at made <;> cases made
  exact ⟨rfl, rfl⟩

theorem IsNew.not_loops (new : scheduler.IsNew) : scheduler.loops = false := by
  obtain ⟨_, _, _, _, made⟩ := new
  unfold make at made
  split at made <;> cases made
  rfl

theorem IsNew.lived (new : scheduler.IsNew) : scheduler.Lived [] scheduler :=
  ⟨rfl, rfl, rfl, rfl, new.idle.1, new.idle.2, by simp [new.not_loops, new.idle.1]⟩

/-- The stop event is set where the scheduler is stopped. -/
theorem Lived.stopEvent_iff (lived : new.Lived calls scheduler) :
    scheduler.stopEvent = true ↔ scheduler.state = .stopped := by
  rw [lived.stopEvent, lived.state, SchedulerCall.stateAfter_eq_stopped, decide_eq_true_iff]

/-- While a scheduler runs its thread goes on, whether its first scan is pending or done. -/
theorem Lived.loops_first (lived : new.Lived calls scheduler) (loops : scheduler.loops = true) :
    { scheduler with firstPending := false }.loops = true := by
  have event : scheduler.stopEvent = false := by
    rw [Bool.eq_false_iff, ne_eq, lived.stopEvent_iff, lived.loops.mp loops]
    exact nofun
  have thread : scheduler.hasThread = true := (Bool.and_eq_true_iff.mp loops).1
  simp [Scheduler.loops, event, thread]

/-- A call that moves nothing leaves the scheduler as it is. -/
theorem Lived.unmoved (lived : new.Lived calls scheduler) {call : SchedulerCall}
    (state : SchedulerCall.stateAfter (calls ++ [call]) = scheduler.state)
    (stopped : call = .stop → .stop ∈ calls) : new.Lived (calls ++ [call]) scheduler where
  indexer := lived.indexer
  interval := lived.interval
  thread := lived.thread
  audience := lived.audience
  state := state.symm
  stopEvent := by
    have same : .stop ∈ calls ++ [call] ↔ .stop ∈ calls := by
      rw [List.mem_append, List.mem_singleton]
      exact ⟨fun either => either.elim id fun last => stopped last.symm, .inl⟩
    rw [decide_eq_decide.mpr same]
    exact lived.stopEvent
  loops := lived.loops

/-- Each call makes of a scheduler what its calls so far and this one make of it. -/
theorem Lived.called (lived : new.Lived calls scheduler) (call : SchedulerCall) :
    new.Lived (calls ++ [call]) (scheduler.called call) := by
  have state := SchedulerCall.stateAfter_append calls call
  rw [← lived.state] at state
  cases call with
  | start hold =>
      dsimp only [Scheduler.called] at state ⊢
      split at state
      · rename_i idle
        rw [if_pos idle]
        have event : scheduler.stopEvent = decide (.stop ∈ calls ++ [.start hold]) := by
          simpa using lived.stopEvent
        have unset : scheduler.stopEvent = false := by
          rw [Bool.eq_false_iff, ne_eq, lived.stopEvent_iff, idle]
          exact nofun
        exact ⟨lived.indexer, lived.interval, lived.thread, lived.audience, state.symm, event,
          by simp [Scheduler.loops, unset]⟩
      · rename_i begun
        rw [if_neg begun]
        exact lived.unmoved state nofun
  | stop =>
      simp only [Scheduler.called]
      split
      · rename_i stopped
        have known := SchedulerCall.stateAfter_eq_stopped.mp (lived.state.symm.trans stopped)
        exact lived.unmoved (state.trans stopped.symm) fun _ => known
      · exact ⟨lived.indexer, lived.interval, lived.thread, lived.audience, state.symm, by simp,
          by simp [Scheduler.loops]⟩
  | tick => exact lived.unmoved state nofun
  | reindex patience => exact lived.unmoved state nofun
  | elapse =>
      have same : new.Lived (calls ++ [.elapse]) scheduler := lived.unmoved state nofun
      simp only [Scheduler.called]
      split
      · rename_i loops
        exact ⟨same.indexer, same.interval, same.thread, same.audience, same.state, same.stopEvent,
          iff_of_true (lived.loops_first loops) (lived.loops.mp loops)⟩
      · exact same

theorem called_moves (scheduler : Scheduler) (call : SchedulerCall) :
    scheduler.state.Moves (scheduler.called call).state := by
  have stopping (state : SchedulerState) (moving : state ≠ .stopped) : state.Moves .stopped := by
    cases state with
    | idle => exact .forgo
    | running => exact .finish
    | stopped => contradiction
  cases call with
  | start hold =>
      simp only [called]
      split
      · rename_i idle
        rw [idle]
        exact .begin
      · exact .stay _
  | stop =>
      simp only [called]
      split
      · exact .stay _
      · exact stopping _ ‹_›
  | tick => exact .stay _
  | reindex patience => exact .stay _
  | elapse =>
      simp only [called]
      split <;> exact .stay _

end Scheduler

/-- What is known of a call in the life of a scheduler that was new: what the scheduler had become
by then, and that the call was a turn of it. -/
structure Scene.Shows (scene : Scene) (number : Nat) (new before : Scheduler) : Prop where
  drives : scene.before.Drives number before
  lived : new.Lived scene.earlier before
  answer : scene.answer = (before.turn scene.before.archive scene.call).answer
  after : scene.after = scene.before.turned number (before.called scene.call)
    (before.turn scene.before.archive scene.call)

namespace Session

variable {session : Session} {number : Nat} {new scheduler : Scheduler}
  {earlier : List SchedulerCall} {happenings : List Happening}

theorem shows_of_mem_scenes (drives : session.Drives number scheduler)
    (lived : new.Lived earlier scheduler) {scene : Scene}
    (member : scene ∈ session.scenes earlier happenings) :
    ∃ before, scene.Shows number new before := by
  induction happenings generalizing session scheduler earlier with
  | nil => cases member
  | cons happening rest ih =>
      cases happening with
      | call call =>
          have ran := drives.run_step call
          rcases List.mem_cons.mp member with rfl | later
          · exact ⟨scheduler, drives, lived, congrArg Prod.fst ran, congrArg Prod.snd ran⟩
          · rw [ran] at later
            exact ih (drives.turned _ _) (lived.called call) later
      | meanwhile archive =>
          have kept : { session with archive := archive }.Drives number scheduler :=
            ⟨drives.current, drives.found⟩
          exact ih kept lived member

theorem earlier_subset_of_mem_scenes {scene : Scene}
    (member : scene ∈ session.scenes earlier happenings) : earlier ⊆ scene.earlier := by
  induction happenings generalizing session earlier with
  | nil => cases member
  | cons happening rest ih =>
      cases happening with
      | call call =>
          rcases List.mem_cons.mp member with rfl | later
          · exact fun _ same => same
          · exact List.Subset.trans (List.subset_append_left earlier [call]) (ih later)
      | meanwhile archive => exact ih member

/-- Whatever was called is known to be among the earlier calls later on. -/
theorem pairwise_scenes (session : Session) (earlier : List SchedulerCall)
    (happenings : List Happening) :
    (session.scenes earlier happenings).Pairwise
      fun first later => first.call ∈ later.earlier := by
  induction happenings generalizing session earlier with
  | nil => exact List.Pairwise.nil
  | cons happening rest ih =>
      cases happening with
      | call call =>
          refine List.pairwise_cons.mpr ⟨fun later member => ?_, ih _ _⟩
          exact earlier_subset_of_mem_scenes member (by simp)
      | meanwhile archive => exact ih _ _

end Session

/-- What a call in the life of a scheduler does to it, and an interval that passes to all else. -/
structure Scene.Orderly (scene : Scene) (before after : Scheduler) : Prop where
  earlier : before.state = SchedulerCall.stateAfter scene.earlier
  state : after.state = SchedulerCall.stateAfter (scene.earlier ++ [scene.call])
  event : after.stopEvent = true ↔ after.state = .stopped
  moves : before.state.Moves after.state
  started : scene.hasStarted = true ↔
    scene.call.isStart = true ∧ ∀ call ∈ scene.earlier, call.isStart = false ∧ call ≠ .stop
  ticked : scene.call = .tick → after = before
  reindexed : ∀ patience, scene.call = .reindex patience → after = before
  elapsed : scene.call = .elapse →
    if before.state = .running then
      let run := before.tick scene.before.archive before.thread
      scene.answer = .ok (.round (some ⟨run.tally?, before.interval⟩)) ∧
        scene.after.archive = run.archive ∧
        scene.after.notices = scene.before.notices ++ run.notices
    else scene.answer = .ok (.round none) ∧ scene.after = scene.before

namespace Scene.Shows

variable {scene : Scene} {number : Nat} {new before : Scheduler}

theorem hasStarted_iff (shows : scene.Shows number new before) :
    scene.hasStarted = true ↔ scene.call.isStart = true ∧ before.state = .idle := by
  unfold hasStarted
  rw [shows.answer]
  generalize scene.before.archive = archive
  cases scene.call with
  | start hold =>
      by_cases idle : before.state = .idle <;> cases hold <;>
        simp [Scheduler.turn, SchedulerCall.isStart, idle]
  | stop =>
      by_cases stopped : before.state = .stopped <;> cases pending : before.firstPending <;>
        simp [Scheduler.turn, SchedulerCall.isStart, stopped, pending]
  | tick => simp [Scheduler.turn, SchedulerCall.isStart]
  | reindex patience =>
      cases outcome : (before.reindex archive Session.mainThread patience).outcome <;>
        simp [Scheduler.turn, SchedulerCall.isStart, outcome, Except.map]
  | elapse =>
      by_cases loops : before.loops = true <;> simp [Scheduler.turn, SchedulerCall.isStart, loops]

theorem elapsed (shows : scene.Shows number new before) (elapse : scene.call = .elapse) :
    if before.state = .running then
      let run := before.tick scene.before.archive before.thread
      scene.answer = .ok (.round (some ⟨run.tally?, before.interval⟩)) ∧
        scene.after.archive = run.archive ∧
        scene.after.notices = scene.before.notices ++ run.notices
    else scene.answer = .ok (.round none) ∧ scene.after = scene.before := by
  rw [shows.answer, shows.after, elapse]
  -- The loop asks for its thread and its event, which agree with the state.
  split
  · rename_i running
    have loops := shows.lived.loops.mpr running
    simp [Scheduler.turn, loops, Session.turned]
  · rename_i resting
    have rests : ¬ before.loops = true := fun loops => resting (shows.lived.loops.mp loops)
    simp [Scheduler.turn, Scheduler.called, rests, Session.turned, shows.drives.set_self]

theorem orderly (shows : scene.Shows number new before) :
    scene.Orderly before (before.called scene.call) where
  earlier := shows.lived.state
  state := (shows.lived.called scene.call).state
  event := (shows.lived.called scene.call).stopEvent_iff
  moves := before.called_moves scene.call
  started := by
    rw [shows.hasStarted_iff, shows.lived.state, SchedulerCall.stateAfter_eq_idle]
  ticked same := by rw [same, Scheduler.called]
  reindexed patience same := by rw [same, Scheduler.called]
  elapsed := shows.elapsed

end Scene.Shows

namespace Session

variable {session : Session} {number : Nat} {scheduler : Scheduler}

/-- However a new scheduler is called, and whatever becomes of its scans: its event is set where it
is stopped, it goes from idle to running to stopped or from idle to stopped at once, one start at
most sets it running, scans on the caller's thread leave it as it is, and an interval that passes
is one scan in the background while it runs and nothing otherwise. -/
theorem scheduler_runs_once_until_stopped (drives : session.Drives number scheduler)
    (new : scheduler.IsNew) (happenings : List Happening) :
    (scheduler.state = .idle ∧ scheduler.stopEvent = false) ∧
    (∀ scene ∈ session.scenes [] happenings, ∃ before after,
      scene.before.Drives number before ∧ scene.after.Drives number after ∧
        scene.Orderly before after) ∧
    ((session.scenes [] happenings).filter (·.hasStarted)).length ≤ 1 := by
  have orderly : ∀ scene ∈ session.scenes [] happenings, ∃ before after,
      scene.before.Drives number before ∧ scene.after.Drives number after ∧
        scene.Orderly before after := by
    intro scene member
    obtain ⟨before, shows⟩ := shows_of_mem_scenes drives new.lived member
    refine ⟨before, _, shows.drives, ?_, shows.orderly⟩
    rw [shows.after]
    exact shows.drives.turned _ _
  refine ⟨new.idle, orderly, ?_⟩
  have started {scene : Scene} (member : scene ∈ session.scenes [] happenings)
      (hasStarted : scene.hasStarted = true) :
      scene.call.isStart = true ∧ ∀ call ∈ scene.earlier, call.isStart = false := by
    obtain ⟨_, _, _, _, scene⟩ := orderly scene member
    obtain ⟨start, first⟩ := scene.started.mp hasStarted
    exact ⟨start, fun call member => (first call member).1⟩
  -- Of two calls that set it running, the second would have the first before it.
  have pairwise := (pairwise_scenes session [] happenings).filter (·.hasStarted)
  match found : (session.scenes [] happenings).filter (·.hasStarted) with
  | [] => simp [found]
  | [only] => simp [found]
  | first :: second :: rest =>
      rw [found] at pairwise
      have known : first.call ∈ second.earlier := List.rel_of_pairwise_cons pairwise (by simp)
      have both : ∀ scene ∈ [first, second],
          scene ∈ session.scenes [] happenings ∧ scene.hasStarted = true := by
        intro scene member
        refine List.mem_filter.mp (found ▸ ?_)
        simp only [List.mem_cons, List.not_mem_nil, or_false] at member ⊢
        exact member.imp_right .inl
      obtain ⟨firstMember, firstStarted⟩ := both first (by simp)
      obtain ⟨secondMember, secondStarted⟩ := both second (by simp)
      have start := (started firstMember firstStarted).1
      rw [(started secondMember secondStarted).2 first.call known] at start
      cases start

/-! A scheduler that is started, scans, is started again, stopped, and started once more. -/

def exampleLoop : Scheduler :=
  ⟨exampleIndexer, ⟨0x3FF0000000000000⟩, 1, .idle, false, false, false, .caller⟩

def exampleLoopSession : Session :=
  { Session.initial ⟨"/h", "/"⟩ ⟨0, 1⟩ with
    archive := exampleArchive
    schedulers := [exampleLoop]
    scheduler? := some 0 }

theorem exampleLoop_isNew : exampleLoop.IsNew :=
  ⟨exampleIndexer, ⟨0x3FF0000000000000⟩, 1, .caller, by decide⟩

theorem exampleLoopSession_drives : exampleLoopSession.Drives 0 exampleLoop := ⟨rfl, rfl⟩

def exampleHappenings : List Happening :=
  [.call (.start true), .call .elapse, .call (.start false), .call .stop,
    .meanwhile exampleStart, .call .elapse, .call (.start false), .call .tick]

theorem scheduler_started_once :
    exampleLoopSession.Drives 0 exampleLoop ∧ exampleLoop.IsNew ∧
    (exampleLoopSession.scenes [] exampleHappenings).map (·.hasStarted) =
      [true, false, false, false, false, false, false] ∧
    (∀ scene ∈ exampleLoopSession.scenes [] exampleHappenings, ∃ before after,
      scene.before.Drives 0 before ∧ scene.after.Drives 0 after ∧
        scene.Orderly before after) ∧
    ((exampleLoopSession.scenes [] exampleHappenings).filter (·.hasStarted)).length ≤ 1 := by
  have runs := scheduler_runs_once_until_stopped exampleLoopSession_drives exampleLoop_isNew
    exampleHappenings
  exact ⟨exampleLoopSession_drives, exampleLoop_isNew, by decide +kernel, runs.2⟩

end Session

end FolderIndex
