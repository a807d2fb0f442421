import FolderIndex.Proofs.Doubles
import FolderIndex.Proofs.LastingProperties
import FolderIndex.Proofs.Lifecycle

namespace FolderIndex

/-! The intervals at which a scheduler scans. What is a number and not above zero is refused
wherever a scheduler or its settings are made, so no loop ever waits for it. What is no number is
not refused. -/

/-- A length of time as it is asked for, in seconds. -/
inductive Span where
  | whole (seconds : Int)
  | binary (seconds : Double)

namespace Span

/-- The length as it is kept. -/
def kept : Span → Double
  | whole seconds => .ofInteger seconds
  | binary seconds => seconds

/-- The number of seconds, if it is a number. -/
def value? : Span → Option (WithBot (WithTop ℚ))
  | whole seconds => some (WithBot.some (WithTop.some (seconds : ℚ)))
  | binary seconds => seconds.value?

def IsNumber (span : Span) : Prop :=
  ∃ value, span.value? = some value

def IsPositive (span : Span) : Prop :=
  ∃ value, span.value? = some value ∧ 0 < value

variable {span : Span}

theorem IsPositive.isNumber : span.IsPositive → span.IsNumber
  | ⟨value, known, _⟩ => ⟨value, known⟩

theorem isNonPositive_kept_iff :
    span.kept.isNonPositive = true ↔ span.IsNumber ∧ ¬ span.IsPositive := by
  have known : span.kept.isNonPositive = true ↔ ∃ value, span.value? = some value ∧ value ≤ 0 := by
    cases span with
    | whole seconds =>
        have least : WithBot.some (WithTop.some (seconds : ℚ)) ≤ 0 ↔ (seconds : ℚ) ≤ 0 :=
          WithBot.coe_le_coe.trans WithTop.coe_le_coe
        simp only [kept, value?, Double.isNonPositive_ofInteger, Option.some.injEq,
          exists_eq_left', least, Int.cast_nonpos]
    | binary seconds => exact Double.isNonPositive_iff
  rw [known]
  constructor
  · rintro ⟨value, known, least⟩
    refine ⟨⟨value, known⟩, ?_⟩
    rintro ⟨other, same, more⟩
    rw [known] at same
    exact absurd more (not_lt.mpr (Option.some.inj same ▸ least))
  · rintro ⟨⟨value, known⟩, none⟩
    exact ⟨value, known, not_lt.mp fun more => none ⟨value, known, more⟩⟩

end Span

/-- Something is made for a time just if that is a number above zero, and is refused otherwise. -/
structure Guards {α : Type} (build : Double → Except Failure α) (refusal : Failure)
    (span : Span) : Prop where
  takes : span.IsPositive → ∃ built, build span.kept = .ok built
  refuses : ¬ span.IsPositive → build span.kept = .error refusal

/-- A guard that asks no more than whether a time is zero or below guards against every number, and
against nothing else. -/
theorem guards_iff_isNumber {α : Type} {build : Double → Except Failure α} {refusal : Failure}
    {span : Span}
    (refuses : span.kept.isNonPositive = true → build span.kept = .error refusal)
    (takes : span.kept.isNonPositive = false → ∃ built, build span.kept = .ok built) :
    Guards build refusal span ↔ span.IsNumber := by
  constructor
  · intro guards
    by_contra unknown
    have admitted : span.kept.isNonPositive = false :=
      Bool.eq_false_iff.mpr fun refused => unknown (Span.isNonPositive_kept_iff.mp refused).1
    obtain ⟨built, made⟩ := takes admitted
    rw [guards.refuses fun above => unknown above.isNumber] at made
    contradiction
  · intro known
    refine ⟨fun above => takes (Bool.eq_false_iff.mpr fun refused => ?_),
      fun least => refuses (Span.isNonPositive_kept_iff.mpr ⟨known, least⟩)⟩
    exact (Span.isNonPositive_kept_iff.mp refused).2 above

/-- What is not refused as an interval: a number above zero, or what is no number. -/
def Double.IsAdmitted (interval : Double) : Prop :=
  ∀ value, interval.value? = some value → 0 < value

theorem Double.isAdmitted_iff {interval : Double} :
    interval.IsAdmitted ↔ interval.isNonPositive = false := by
  rw [IsAdmitted, Bool.eq_false_iff, ne_eq, isNonPositive_iff]
  constructor
  · rintro above ⟨value, known, least⟩
    exact absurd least (not_le.mpr (above value known))
  · intro none value known
    exact not_le.mp fun least => none ⟨value, known, least⟩

namespace Settings

variable {files : FileTree} {request : SettingsRequest} {settings : Settings}
  {watch : List Location}

theorem ofRequest_of_isNonPositive (request : SettingsRequest)
    (read : watchLocations files.surroundings.homes request.watch = .ok watch)
    (refused : request.interval.isNonPositive = true) :
    ofRequest files request = .error .scanIntervalNotPositive := by
  simp [ofRequest, read, refused, bind, Except.bind]

theorem ofRequest_of_admitted (request : SettingsRequest)
    (read : watchLocations files.surroundings.homes request.watch = .ok watch)
    (admitted : request.interval.isNonPositive = false) :
    ∃ settings, ofRequest files request = .ok settings := by
  simp [ofRequest, read, admitted, bind, Except.bind, pure, Except.pure]

/-- Settings have the interval that they were asked for, which was not refused. -/
theorem interval_of_ofRequest (made : ofRequest files request = .ok settings) :
    settings.interval = request.interval ∧ settings.interval.IsAdmitted := by
  rw [Double.isAdmitted_iff]
  unfold ofRequest at made
  cases read : watchLocations files.surroundings.homes request.watch with
  | error failure =>
      rw [read] at made
      cases made
  | ok watch =>
      cases timed : request.interval.isNonPositive with
      | true => simp [read, timed, bind, Except.bind] at made
      | false =>
          obtain rfl : _ = settings := by
            simpa [read, timed, bind, Except.bind, pure, Except.pure] using made
          exact ⟨rfl, timed⟩

/-- Wherever their roots can be read, settings are refused for their interval alone. -/
theorem guards_ofRequest_iff (request : SettingsRequest) (span : Span)
    (read : watchLocations files.surroundings.homes request.watch = .ok watch) :
    Guards (fun interval => ofRequest files { request with interval := interval })
      .scanIntervalNotPositive span ↔ span.IsNumber :=
  guards_iff_isNumber (ofRequest_of_isNonPositive { request with interval := span.kept } read)
    (ofRequest_of_admitted { request with interval := span.kept } read)

end Settings

namespace Scheduler

variable {indexer : Indexer} {interval : Double} {thread : Nat} {audience : Audience}
  {scheduler : Scheduler}

theorem guards_make_iff (indexer : Indexer) (thread : Nat) (audience : Audience) (span : Span) :
    Guards (fun interval => make indexer interval thread audience) .intervalNotPositive span ↔
      span.IsNumber :=
  guards_iff_isNumber (fun refused => if_pos refused)
    (fun admitted => ⟨_, if_neg (by simp [admitted])⟩)

theorem interval_of_make (made : make indexer interval thread audience = .ok scheduler) :
    scheduler.interval = interval ∧ interval.IsAdmitted := by
  rw [Double.isAdmitted_iff]
  unfold make at made
  split at made
  · contradiction
  · rename_i admitted
    cases made
    exact ⟨rfl, Bool.eq_false_iff.mpr admitted⟩

end Scheduler

/-- The round that an answer of a scheduler tells of. -/
def Answer.round? : Answer → Option Round
  | .round round? => round?
  | .started _ first? => first?
  | _ => none

/-- Whatever a scheduler is called for, after a round it waits for its interval. -/
theorem Scheduler.waited_of_turn {scheduler : Scheduler} {archive : Archive} {call : SchedulerCall}
    {answer : Answer} {round : Round} (answered : (scheduler.turn archive call).answer = .ok answer)
    (told : answer.round? = some round) : round.waited = scheduler.interval := by
  cases call with
  | start hold =>
      simp only [turn] at answered
      split at answered
      · cases answered
        cases told
      · split at answered <;> cases answered <;> cases told
        rfl
  | stop =>
      simp only [turn] at answered
      split at answered
      · cases answered
        cases told
      · split at answered <;> cases answered <;> cases told
  | tick =>
      cases answered
      cases told
  | reindex patience =>
      cases outcome : (scheduler.reindex archive Session.mainThread patience).outcome with
      | error failure => simp [turn, outcome, Except.map] at answered
      | ok tally =>
          simp only [turn, outcome, Except.map, Except.ok.injEq] at answered
          cases answered
          cases told
  | elapse =>
      simp only [turn] at answered
      split at answered <;> cases answered <;> cases told
      rfl

namespace Session

variable {session after : Session} {number : Nat} {scheduler : Scheduler} {round : Round}

/-- Whether no scheduler of a session has an interval that is to be refused. -/
def IsTimed (session : Session) : Prop :=
  ∀ scheduler ∈ session.schedulers, scheduler.interval.IsAdmitted

theorem isTimed_lasting : Lasting IsTimed where
  elsewhere held _ _ same := by
    rw [IsTimed, same]
    exact held
  searcher _ _ _ _ held := held
  application _ _ held _ := held
  scheduler held made scheduler member := by
    rcases List.mem_append.mp member with earlier | new
    · exact held scheduler earlier
    · obtain ⟨same, admitted⟩ := Scheduler.interval_of_make made
      rw [List.mem_singleton.mp new, same]
      exact admitted
  progress held found continues scheduler member := by
    rcases List.mem_or_eq_of_mem_set member with other | rfl
    · exact held scheduler other
    · rw [continues.2.1]
      exact held _ (List.mem_of_getElem? found)

theorem isTimed_initial (surroundings : Surroundings) (clock : Clock) :
    (initial surroundings clock).IsTimed := nofun

/-- A background scan is followed by the interval of its scheduler. -/
theorem waited_of_advance (ran : advanceScheduler number session = (.ok (some round), after)) :
    ∃ scheduler, session.schedulers[number]? = some scheduler ∧
      round.waited = scheduler.interval := by
  cases found : session.schedulers[number]? with
  | none =>
      simp only [advanceScheduler, Session.scheduler, orMissing, found, bind_apply, get_apply,
        throw_apply] at ran
      cases ran
  | some scheduler =>
      obtain ⟨_, same, _⟩ := continues_background scheduler session.archive
      refine ⟨scheduler, rfl, ?_⟩
      cases begun : (scheduler.background session.archive).2 with
      | none =>
          simp only [advanceScheduler, Session.scheduler, orMissing_apply, found, bind_apply,
            get_apply, setScheduler, modify_apply, begun, pure_apply] at ran
          cases ran
      | some run =>
          simp only [advanceScheduler, Session.scheduler, orMissing_apply, found, bind_apply,
            get_apply, setScheduler, modify_apply, begun, keepTick, pure_apply] at ran
          cases ran
          exact same

/-- A scheduler that is made is the current one, and new. -/
theorem drives_of_schedulerFor {indexer : Indexer} {interval : Double} {audience : Audience}
    (ran : schedulerFor indexer interval audience session = (.ok number, after)) :
    ∃ scheduler, after.Drives number scheduler ∧ scheduler.IsNew ∧
      scheduler.interval = interval := by
  cases made : Scheduler.make indexer interval (session.schedulers.length + 1) audience with
  | error failure =>
      simp only [schedulerFor, makeScheduler, bind_apply, get_apply, settle_apply, made] at ran
      cases ran
  | ok scheduler =>
      simp only [schedulerFor, makeScheduler, bind_apply, get_apply, settle_apply, made,
        modify_apply, pure_apply] at ran
      cases ran
      refine ⟨scheduler, ⟨rfl, ?_⟩, ⟨_, _, _, _, made⟩, (Scheduler.interval_of_make made).1⟩
      simp

/-- The service that settings describe has a new scheduler with their interval. -/
theorem drives_of_makeApplication {settings : Settings} {audience : Audience}
    (ran : makeApplication settings audience session = (.ok (), after)) :
    ∃ number scheduler, after.Drives number scheduler ∧ scheduler.IsNew ∧
      scheduler.interval = settings.interval := by
  obtain ⟨location, located, _, ran⟩ := of_bind_eq_ok ran
  obtain ⟨store, opened, _, ran⟩ := of_bind_eq_ok ran
  obtain ⟨indexer, indexed, _, ran⟩ := of_bind_eq_ok ran
  obtain ⟨number, scheduled, making, ran⟩ := of_bind_eq_ok ran
  obtain ⟨scheduler, drives, new, same⟩ := drives_of_schedulerFor making
  cases ran
  exact ⟨number, scheduler, ⟨drives.current, drives.found⟩, new, same⟩

/-- After each round of its life a scheduler waits for the interval that it was made with. -/
theorem waited_of_mem_scenes (drives : session.Drives number scheduler) (new : scheduler.IsNew)
    {happenings : List Happening} {scene : Scene} {answer : Answer}
    (member : scene ∈ session.scenes [] happenings) (answered : scene.answer = .ok answer)
    (told : answer.round? = some round) : round.waited = scheduler.interval := by
  obtain ⟨before, shows⟩ := shows_of_mem_scenes drives new.lived member
  rw [← shows.lived.interval]
  exact Scheduler.waited_of_turn (shows.answer.symm.trans answered) told

/-- Exactly for times that are numbers, schedulers, settings and the settings of commands are made if
the time is above zero and refused otherwise; and a service has a scheduler with the interval of its
settings. So after each round of a scheduler's life, and of any scheduler in a session that arises,
the loop waits for the interval that the scheduler was made with, which is above zero if it is a
number. -/
theorem loops_wait_for_admitted_intervals (span : Span) :
    (∀ indexer thread audience,
      Guards (fun interval => Scheduler.make indexer interval thread audience)
        .intervalNotPositive span ↔ span.IsNumber) ∧
    (∀ files (request : SettingsRequest) watch,
      Settings.watchLocations files.surroundings.homes request.watch = .ok watch →
      (Guards (fun interval => Settings.ofRequest files { request with interval := interval })
        .scanIntervalNotPositive span ↔ span.IsNumber)) ∧
    (∀ files (command : Command) watch,
      Settings.watchLocations files.surroundings.homes command.watch = .ok watch →
      (Guards
        (fun interval => Settings.ofRequest files { command with interval := interval }.request)
        .scanIntervalNotPositive span ↔ span.IsNumber)) ∧
    (∀ files request settings, Settings.ofRequest files request = .ok settings →
      settings.interval = request.interval ∧ settings.interval.IsAdmitted) ∧
    (∀ settings audience session after,
      makeApplication settings audience session = (.ok (), after) →
      ∃ number scheduler, after.Drives number scheduler ∧ scheduler.IsNew ∧
        scheduler.interval = settings.interval) ∧
    (∀ (session : Session) number scheduler, session.Drives number scheduler → scheduler.IsNew →
      ∀ happenings, ∀ scene ∈ session.scenes [] happenings, ∀ answer round,
        scene.answer = .ok answer → answer.round? = some round →
        round.waited = scheduler.interval ∧ round.waited.IsAdmitted) ∧
    (∀ session : Session, session.Arises →
      (∀ scheduler ∈ session.schedulers, scheduler.interval.IsAdmitted) ∧
      ∀ number round after, advanceScheduler number session = (.ok (some round), after) →
        round.waited.IsAdmitted) := by
  refine ⟨fun indexer thread audience => Scheduler.guards_make_iff indexer thread audience span,
    fun files request watch read => Settings.guards_ofRequest_iff request span read,
    fun files command watch read => Settings.guards_ofRequest_iff command.request span read,
    fun files request settings made => Settings.interval_of_ofRequest made,
    fun settings audience session after ran => drives_of_makeApplication ran, ?_, ?_⟩
  · intro session number scheduler drives new happenings scene member answer round answered told
    have waited := waited_of_mem_scenes drives new member answered told
    obtain ⟨_, _, _, _, made⟩ := new
    obtain ⟨same, admitted⟩ := Scheduler.interval_of_make made
    rw [waited, same]
    exact ⟨rfl, admitted⟩
  · intro session arises
    have timed := isTimed_lasting.of_arises isTimed_initial arises
    refine ⟨timed, fun number round after ran => ?_⟩
    obtain ⟨scheduler, found, waited⟩ := waited_of_advance ran
    rw [waited]
    exact timed scheduler (List.mem_of_getElem? found)

/-! Settings, a command and a session with a started scheduler, each with one interval. -/

def exampleSettings (interval : Double) : SettingsRequest :=
  { SettingsRequest.empty with database? := some ":memory:", interval := interval }

def exampleWatching (interval : Double) : Command :=
  ⟨.watch, "", [], [".md"], none, interval, none, "127.0.0.1", 8000, false⟩

def exampleTimed (interval : Double) : Session :=
  let opened := (run (.openStore "main" ":memory:") (.initial ⟨"/home/user", "/work"⟩ ⟨0, 1⟩)).2
  let watching := (run (.indexer "main" ["/work"] [".md"]) opened).2
  let scheduled := (run (.scheduler interval) watching).2
  (run (.start false) scheduled).2

theorem exampleTimed_arises (interval : Double) : (exampleTimed interval).Arises :=
  .step _ (.step _ (.step _ (.step _ (.initial _ _))))

theorem exampleHappenings_tell :
    ∃ scene ∈ exampleLoopSession.scenes [] exampleHappenings, ∃ answer round,
      scene.answer = .ok answer ∧ answer.round? = some round := by
  have told : ((exampleLoopSession.scenes [] exampleHappenings).any fun scene =>
      (scene.answer.toOption.bind (·.round?)).isSome) = true := by decide +kernel
  obtain ⟨scene, member, told⟩ := List.any_eq_true.mp told
  obtain ⟨round, told⟩ := Option.isSome_iff_exists.mp told
  obtain ⟨answer, answered, told⟩ := Option.bind_eq_some_iff.mp told
  refine ⟨scene, member, answer, round, ?_, told⟩
  cases outcome : scene.answer with
  | error failure => simp [outcome, Except.toOption] at answered
  | ok other => simpa [outcome, Except.toOption] using answered

theorem loops_wait_for_a_second :
    let files := FileTree.initial ⟨"/home/user", "/work"⟩
    let never := (Span.whole 0).kept
    let second := (Span.whole 1).kept
    (Scheduler.make exampleIndexer never 1 .caller = .error .intervalNotPositive ∧
      ∃ scheduler, Scheduler.make exampleIndexer second 1 .caller = .ok scheduler) ∧
    (Settings.ofRequest files (exampleSettings never) = .error .scanIntervalNotPositive ∧
      Settings.ofRequest files (exampleWatching never).request = .error .scanIntervalNotPositive ∧
      ∃ settings, Settings.ofRequest files (exampleWatching second).request = .ok settings) ∧
    (∃ settings after number scheduler,
      Settings.ofRequest files (exampleSettings second) = .ok settings ∧
      settings.interval.IsAdmitted ∧
      makeApplication settings .caller (exampleTimed second) = (.ok (), after) ∧
      after.Drives number scheduler ∧ scheduler.interval = second) ∧
    (∃ scene ∈ exampleLoopSession.scenes [] exampleHappenings, ∃ answer round,
      scene.answer = .ok answer ∧ answer.round? = some round ∧
      round.waited = exampleLoop.interval ∧ round.waited.IsAdmitted) ∧
    ∃ round after, advanceScheduler 0 (exampleTimed second) = (.ok (some round), after) ∧
      round.waited = second ∧ round.waited.IsAdmitted := by
  intro files never second
  have refused : ¬ (Span.whole 0).IsPositive := fun ⟨_, known, more⟩ =>
    absurd more (Option.some.inj known ▸ lt_irrefl _)
  have taken : (Span.whole 1).IsPositive := ⟨1, rfl, zero_lt_one⟩
  have unwatched : Settings.watchLocations files.surroundings.homes [] = .ok [] := rfl
  obtain ⟨refusing, unsettled, uncommanded, _⟩ := loops_wait_for_admitted_intervals (.whole 0)
  obtain ⟨making, settling, commanding, settled, served, scenes, arising⟩ :=
    loops_wait_for_admitted_intervals (.whole 1)
  have counted : (Span.whole 0).IsNumber := ⟨0, rfl⟩
  obtain ⟨settings, made⟩ := ((settling files (exampleSettings never) [] unwatched).mpr
    taken.isNumber).takes taken
  obtain ⟨same, admitted⟩ := settled files (exampleSettings second) settings made
  refine ⟨⟨((refusing exampleIndexer 1 .caller).mpr counted).refuses refused,
      ((making exampleIndexer 1 .caller).mpr taken.isNumber).takes taken⟩,
    ⟨((unsettled files (exampleSettings never) [] unwatched).mpr counted).refuses refused,
      ((uncommanded files (exampleWatching never) [] unwatched).mpr counted).refuses refused,
      ((commanding files (exampleWatching never) [] unwatched).mpr taken.isNumber).takes taken⟩,
    ?_, ?_, ?_⟩
  · have runs : (makeApplication settings .caller (exampleTimed second)).1 = .ok () := by
      cases made
      decide +kernel
    have ran : makeApplication settings .caller (exampleTimed second) = (.ok (), _) :=
      Prod.ext runs rfl
    obtain ⟨number, scheduler, drives, _, waits⟩ := served _ _ _ _ ran
    exact ⟨settings, _, number, scheduler, made, admitted, ran, drives, waits.trans same⟩
  · obtain ⟨scene, member, answer, round, answered, told⟩ := exampleHappenings_tell
    exact ⟨scene, member, answer, round, answered, told,
      scenes _ _ _ exampleLoopSession_drives exampleLoop_isNew _ _ member _ _ answered told⟩
  · have ran : advanceScheduler 0 (exampleTimed second) =
        (.ok (some ⟨some ⟨0, 0, 0, 0⟩, second⟩), (advanceScheduler 0 (exampleTimed second)).2) :=
      Prod.ext (by decide +kernel) rfl
    exact ⟨_, _, ran, rfl, (arising _ (exampleTimed_arises second)).2 _ _ _ ran⟩

/-- What is no number is refused nowhere, and a loop waits for it. -/
theorem loop_waits_for_no_number :
    let files := FileTree.initial ⟨"/home/user", "/work"⟩
    Double.nan.value? = none ∧ Double.nan.isPositive = false ∧
    (∃ scheduler, Scheduler.make exampleIndexer Double.nan 1 .caller = .ok scheduler) ∧
    (∃ settings, Settings.ofRequest files (exampleSettings Double.nan) = .ok settings ∧
      settings.interval = Double.nan) ∧
    Command.read? ["watch", "--ext", ".md", "--interval", "nan"] =
      some (exampleWatching Double.nan) ∧
    (∃ settings, Settings.ofRequest files (exampleWatching Double.nan).request = .ok settings ∧
      settings.interval = Double.nan) ∧
    (advanceScheduler 0 (exampleTimed Double.nan)).1 =
      .ok (some ⟨some ⟨0, 0, 0, 0⟩, Double.nan⟩) := by
  refine ⟨rfl, rfl, ⟨_, rfl⟩, ⟨_, rfl, rfl⟩, ?_, ⟨_, rfl, rfl⟩, ?_⟩ <;> decide +kernel

end Session

end FolderIndex
