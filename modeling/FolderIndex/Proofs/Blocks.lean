import FolderIndex.Proofs.Seats
import FolderIndex.Proofs.StoreCalls
import FolderIndex.Proofs.Work
import FolderIndex.Session.Step

namespace FolderIndex

/-! Transaction blocks: what is done in one is kept in a ledger, of which a block that ends well
commits what is pending, and one that is broken off discards it. -/

/-- What can be asked of a store. -/
inductive Question where
  | hash (path : String)
  | paths
  | documents (limit : Int)
  | roots
  | stats
deriving DecidableEq, Repr

/-- A step of a block: a row put in as it is, a change through the store of the block, or a
question, which any store may be asked. -/
inductive BlockStep where
  | insert (draft : Draft)
  | upsert (path : String) (content? : Option String) (tokens : List String)
      (hash? : Option String)
  | delete (path : String)
  | recordRoot (root : String)
  | ask (store : String) (question : Question)
deriving DecidableEq, Repr

namespace Question

def toStep (store : String) : Question → Step
  | .hash path => .getHash store path
  | .paths => .listPaths store
  | .documents limit => .listDocuments store limit
  | .roots => .listRoots store
  | .stats => .stats store

/-- An answer that tables give, its fault named by the operation. -/
def told {α : Type} (operation : StoreOperation) (answer : α → Answer)
    (given : Except DatabaseFault α) : Except Failure Answer :=
  match given with
  | .ok value => .ok (answer value)
  | .error fault => .error (.store (.refused operation fault))

/-- The answer to a question about tables. -/
def answer (tables : Tables) : Question → Except Failure Answer
  | .hash path =>
      if Text.isBlankText path then .error (.store .blankPath)
      else told (.getHash path) .hash (tables.hashOf path)
  | .paths => told .listPaths .paths tables.paths
  | .documents limit =>
      match tables.documents limit with
      | .ok listed =>
          if Archive.greatestLimit < limit then .error .limitTooLarge else .ok (.documents listed)
      | .error fault => .error (.store (.refused .listDocuments fault))
  | .roots => told .listRoots .roots tables.rootScans
  | .stats => told .stats .stats tables.stats

end Question

namespace BlockStep

def toStep (name : String) : BlockStep → Step
  | .insert draft => .insertPending draft
  | .upsert path content? tokens hash? => .upsert name path content? tokens hash?
  | .delete path => .delete name path
  | .recordRoot root => .recordRoot name root
  | .ask store question => question.toStep store

/-- The failure that a block is broken off with: that of a row that is refused. -/
def breaking? : BlockStep → Except Failure Answer → Option Failure
  | .insert _, .error failure => some failure
  | _, _ => none

/-- The row that a step puts in as it is. -/
def draft? : BlockStep → Option Draft
  | .insert draft => some draft
  | _ => none

/-- Whether a step commits and discards nothing: it puts a row in as it is, or asks. -/
def isBare : BlockStep → Bool
  | .insert _ | .ask _ _ => true
  | _ => false

end BlockStep

/-- The tables with rows put in one after the other. -/
def Tables.insertAll (tables : Tables) : List Draft → Except DatabaseFault Tables
  | [] => .ok tables
  | draft :: rest =>
      match tables.insert false draft with
      | .ok (_, after) => after.insertAll rest
      | .error fault => .error fault

/-- How a block ended: the results of its steps, the failure that it was broken off with, and the
ledger. -/
structure BlockEnd where
  results : List StepResult
  failure? : Option Failure
  ledger : Ledger

namespace Ledger

variable {α : Type}

/-- A change in a transaction of its own, which takes in or takes down what is pending. -/
def operate (ledger : Ledger) (operation : StoreOperation) (answer : α → Answer)
    (change : Tables → Except DatabaseFault (α × Tables)) : Except Failure Answer × Ledger :=
  (Question.told operation answer (ledger.transact change).1, (ledger.transact change).2)

/-- The time that is written with what is stored now, and the ledger when the clock was read. -/
def stamp (ledger : Ledger) : String × Ledger :=
  (ledger.clock.read.1.toText, { ledger with clock := ledger.clock.read.2 })

/-- The result of a step. A blank path is refused before anything is done. -/
def perform (seat : Seat) (ledger : Ledger) : BlockStep → Except Failure Answer × Ledger
  | .insert draft =>
      let (outcome, after) := ledger.write (·.insert false draft)
      ((outcome.mapError .database).map fun _ => .done, after)
  | .upsert path content? tokens hash? =>
      if Text.isBlankText path then (.error (.store .blankPath), ledger)
      else
        let (time, ledger) := ledger.stamp
        ledger.operate (.upsert path) (fun _ => .done)
          (·.insert true ⟨path, content?, Text.joinWords tokens, hash?, time⟩)
  | .delete path =>
      if Text.isBlankText path then (.error (.store .blankPath), ledger)
      else ledger.operate (.delete path) .flag (·.delete path)
  | .recordRoot root =>
      if Text.isBlankText root then (.error (.store .blankPath), ledger)
      else
        let (time, ledger) := ledger.stamp
        ledger.operate (.recordRoot root) (fun _ => .done) (·.recordRoot ⟨root, time⟩)
  | .ask _ question => (question.answer (seat.shown ledger), ledger)

/-- The steps one after the other, up to a row that is refused. -/
def performAll (seat : Seat) : Ledger → List BlockStep → BlockEnd
  | ledger, [] => ⟨[], none, ledger⟩
  | ledger, step :: rest =>
      let (result, after) := ledger.perform seat step
      match step.breaking? result with
      | some failure => ⟨[], some failure, after⟩
      | none =>
          let ending := performAll seat after rest
          { ending with results := (result, []) :: ending.results }

/-- A block of steps, which may fail when all of them are done. -/
def block (seat : Seat) (ledger : Ledger) (fails : Bool) (steps : List BlockStep) : BlockEnd :=
  let ending := ledger.performAll seat steps
  match ending.failure?.or (if fails then some .rolledBack else none) with
  | none => ⟨ending.results, none, ending.ledger.commit⟩
  | some failure => ⟨ending.results, some failure, ending.ledger.rollback⟩

/-- Whether a block that only puts rows in and asks came to its end, or was broken off by a row. -/
def PutsIn (ledger : Ledger) (drafts : List Draft) (ending : BlockEnd) : Prop :=
  match ledger.current.insertAll drafts with
  | .ok tables => ending.failure? = none ∧ ending.ledger.current = tables
  | .error fault => ending.failure? = some (.database fault)

/-- Rows that are put in and questions commit nothing. -/
theorem performAll_of_bare {seat : Seat} {ledger : Ledger} {steps : List BlockStep}
    (bare : ∀ step ∈ steps, step.isBare = true) :
    ledger.PutsIn (steps.filterMap (·.draft?)) (ledger.performAll seat steps) ∧
      (ledger.performAll seat steps).ledger.committed = ledger.committed := by
  induction steps generalizing ledger with
  | nil => exact ⟨⟨rfl, rfl⟩, rfl⟩
  | cons step rest ih =>
      have others := fun other member => bare other (List.mem_cons_of_mem _ member)
      cases step with
      | ask store question => exact ih others
      | insert draft =>
          cases outcome : ledger.current.insert false draft with
          | error fault =>
              simp [PutsIn, Tables.insertAll, outcome, performAll, perform, write,
                BlockStep.breaking?, BlockStep.draft?, Except.mapError, Except.map]
          | ok result =>
              let next : Ledger := { ledger with pending? := some result.2 }
              have went : ledger.perform seat (.insert draft) = (.ok .done, next) := by
                simp only [perform, write, outcome]
                rfl
              have putIn : next.PutsIn _ (next.performAll seat rest) := (ih others).1
              have kept : (next.performAll seat rest).ledger.committed = next.committed :=
                (ih others).2
              have inserted : ledger.current.insertAll (draft :: rest.filterMap (·.draft?)) =
                  next.current.insertAll (rest.filterMap (·.draft?)) := by
                simp only [Tables.insertAll, outcome]
                rfl
              simp only [performAll, went, BlockStep.breaking?]
              refine ⟨?_, kept⟩
              unfold PutsIn at putIn ⊢
              change match ledger.current.insertAll (draft :: rest.filterMap (·.draft?)) with
                | .ok tables => _
                | .error fault => _
              rw [inserted]
              exact putIn
      | _ => exact absurd (bare _ List.mem_cons_self) Bool.false_ne_true

end Ledger

namespace Archive

variable {α : Type} {archive : Archive} {seat : Seat} {own store : Nat} {ledger : Ledger}

/-- An outcome whose value is given as the answer of a step. -/
def Outcome.giving (answer : α → Answer) (outcome : Outcome α) : Outcome Answer :=
  (outcome.1.map answer, outcome.2)

/-- The answer of a store to a question. -/
def answerTo (archive : Archive) (store thread : Nat) : Question → Outcome Answer
  | .hash path => (archive.getHash store thread path).giving .hash
  | .paths => (archive.listPaths store thread).giving .paths
  | .documents limit => (archive.listDocuments store thread limit).giving .documents
  | .roots => (archive.listRoots store thread).giving .roots
  | .stats => (archive.stats store thread).giving .stats

theorem Keeps.asked (keeps : archive.Keeps seat own ledger) (serves : archive.Serves seat store)
    (alone : seat.place? = none → store = own) (thread : Nat) (operation : StoreOperation)
    (ask : Tables → Except DatabaseFault α) (answer : α → Answer) :
    ∃ after, (archive.query store thread operation ask).giving answer =
        (Question.told operation answer (ask (seat.shown ledger)), after) ∧
      archive.Moves seat own ledger after := by
  obtain ⟨after, asked, moves⟩ := keeps.query serves alone thread operation ask
  refine ⟨after, ?_, moves⟩
  rw [asked]
  cases ask (seat.shown ledger) <;> rfl

/-- A question is answered by the tables that are shown. -/
theorem Keeps.answerTo (keeps : archive.Keeps seat own ledger)
    (serves : archive.Serves seat store) (alone : seat.place? = none → store = own) (thread : Nat)
    (question : Question) :
    ∃ after, archive.answerTo store thread question =
        (question.answer (seat.shown ledger), after) ∧
      archive.Moves seat own ledger after := by
  cases question with
  | hash path =>
      by_cases blank : Text.isBlankText path = true
      · refine ⟨archive, ?_, keeps.stays⟩
        simp only [Archive.answerTo, Archive.getHash, Question.answer, if_pos blank]
        rfl
      · simp only [Archive.answerTo, Archive.getHash, Question.answer, if_neg blank]
        exact keeps.asked serves alone thread _ _ _
  | paths => exact keeps.asked serves alone thread _ _ _
  | documents limit =>
      obtain ⟨after, asked, moves⟩ :=
        keeps.query serves alone thread .listDocuments (·.documents limit)
      refine ⟨after, ?_, moves⟩
      simp only [Archive.answerTo, Archive.listDocuments, Question.answer, asked]
      cases (seat.shown ledger).documents limit with
      | error fault => rfl
      | ok listed =>
          dsimp only [Except.mapError]
          split <;> rfl
  | roots => exact keeps.asked serves alone thread _ _ _
  | stats => exact keeps.asked serves alone thread _ _ _

theorem Keeps.operate (keeps : archive.Keeps seat own ledger) (serves : archive.Serves seat own)
    (operation : StoreOperation) (answer : α → Answer)
    (change : Tables → Except DatabaseFault (α × Tables)) :
    ∃ after, (named operation (archive.transact own change)).giving answer =
        ((ledger.operate operation answer change).1, after) ∧
      archive.Moves seat own (ledger.operate operation answer change).2 after := by
  obtain ⟨after, done, moves⟩ := keeps.transact serves change
  refine ⟨after, ?_, moves⟩
  unfold Ledger.operate
  rw [done]
  cases (ledger.transact change).1 <;> rfl

theorem Moves.of_stamp {next : Ledger} {after : Archive}
    (moves : archive.stamp.2.Moves seat own next after) : archive.Moves seat own next after :=
  ⟨moves.keeps, fun serves => moves.serves ⟨serves.present, serves.sits⟩⟩

theorem Keeps.stamp (keeps : archive.Keeps seat own ledger) :
    archive.stamp.2.Keeps seat own ledger.stamp.2 ∧ archive.stamp.1 = ledger.stamp.1 := by
  have clock := keeps.clock
  refine ⟨⟨⟨keeps.shows.committed, keeps.shows.pending⟩, ?_⟩, ?_⟩
  · change archive.clock.read.2 = ledger.clock.read.2
    rw [clock]
  · change archive.clock.read.1.toText = ledger.clock.read.1.toText
    rw [clock]

theorem Keeps.upsert (keeps : archive.Keeps seat own ledger) (serves : archive.Serves seat own)
    (path : String) (content? : Option String) (tokens : List String) (hash? : Option String) :
    let step := BlockStep.upsert path content? tokens hash?
    ∃ after, (archive.upsert own path content? tokens hash?).giving (fun _ => .done) =
        ((ledger.perform seat step).1, after) ∧
      archive.Moves seat own (ledger.perform seat step).2 after := by
  intro step
  by_cases blank : Text.isBlankText path = true
  · simp only [step, Archive.upsert, Ledger.perform, if_pos blank]
    exact ⟨archive, rfl, keeps.stays⟩
  · obtain ⟨stamped, time⟩ := keeps.stamp
    obtain ⟨after, done, moves⟩ := stamped.operate ⟨serves.present, serves.sits⟩ (.upsert path)
      (fun _ => .done)
      (·.insert true ⟨path, content?, Text.joinWords tokens, hash?, archive.stamp.1⟩)
    rw [time] at done moves
    simp only [step, Archive.upsert, Ledger.perform, if_neg blank, time]
    exact ⟨after, done, moves.of_stamp⟩

theorem Keeps.delete (keeps : archive.Keeps seat own ledger) (serves : archive.Serves seat own)
    (path : String) :
    ∃ after, (archive.delete own path).giving .flag =
        ((ledger.perform seat (.delete path)).1, after) ∧
      archive.Moves seat own (ledger.perform seat (.delete path)).2 after := by
  by_cases blank : Text.isBlankText path = true
  · simp only [Archive.delete, Ledger.perform, if_pos blank]
    exact ⟨archive, rfl, keeps.stays⟩
  · simp only [Archive.delete, Ledger.perform, if_neg blank]
    exact keeps.operate serves (.delete path) .flag (·.delete path)

theorem Keeps.recordRoot (keeps : archive.Keeps seat own ledger)
    (serves : archive.Serves seat own) (root : String) :
    ∃ after, (archive.recordRoot own root).giving (fun _ => .done) =
        ((ledger.perform seat (.recordRoot root)).1, after) ∧
      archive.Moves seat own (ledger.perform seat (.recordRoot root)).2 after := by
  by_cases blank : Text.isBlankText root = true
  · simp only [Archive.recordRoot, Ledger.perform, if_pos blank]
    exact ⟨archive, rfl, keeps.stays⟩
  · obtain ⟨stamped, time⟩ := keeps.stamp
    obtain ⟨after, done, moves⟩ := stamped.operate ⟨serves.present, serves.sits⟩
      (.recordRoot root) (fun _ => .done) (·.recordRoot ⟨root, archive.stamp.1⟩)
    rw [time] at done moves
    simp only [Archive.recordRoot, Ledger.perform, if_neg blank, time]
    exact ⟨after, done, moves.of_stamp⟩

theorem Keeps.insertPending (keeps : archive.Keeps seat own ledger)
    (serves : archive.Serves seat own) (draft : Draft) :
    ∃ after, archive.insertPending own draft =
        ((ledger.write (·.insert false draft)).1.mapError .database, after) ∧
      archive.Moves seat own (ledger.write (·.insert false draft)).2 after := by
  obtain ⟨after, done, moves⟩ := keeps.write serves (·.insert false draft)
  refine ⟨after, ?_, moves⟩
  rw [Archive.insertPending, done]
  cases (ledger.write (·.insert false draft)).1 <;> rfl

end Archive

namespace Session

open Archive

variable {α : Type} {session : Session} {name : String} {own store : Nat} {seat : Seat}
  {ledger : Ledger}

@[simp] theorem store_apply (named : session.stores.lookup name = some store) :
    Session.store name session = (.ok store, session) := by
  simp [Session.store, named]

/-- An operation of a store that is named, as a step gives its outcome. -/
theorem through_store (session : Session) (named : session.stores.lookup name = some store)
    (operation : Nat → Archive → Outcome α) (answer : α → Answer) :
    (Session.store name >>= fun store => onArchive (operation store) >>= fun value =>
        pure (answer value)) session =
      (((operation store session.archive).giving answer).1,
        { session with archive := ((operation store session.archive).giving answer).2 }) := by
  rw [bind_of_ok (store_apply named), bind_apply, onArchive_apply]
  obtain ⟨outcome, after⟩ := operation store session.archive
  cases outcome <;> rfl

theorem run_question (session : Session) (named : session.stores.lookup name = some store)
    (question : Question) :
    run (question.toStep name) session =
      ((session.archive.answerTo store mainThread question).1,
        { session with
          archive := (session.archive.answerTo store mainThread question).2 }) := by
  cases question with
  | hash path =>
      simp only [Question.toStep, run, Session.perform]
      exact through_store _ named (fun store archive => archive.getHash store mainThread path) .hash
  | paths =>
      simp only [Question.toStep, run, Session.perform]
      exact through_store _ named (fun store archive => archive.listPaths store mainThread) .paths
  | documents limit =>
      simp only [Question.toStep, run, Session.perform]
      exact through_store _ named
        (fun store archive => archive.listDocuments store mainThread limit) .documents
  | roots =>
      simp only [Question.toStep, run, Session.perform]
      exact through_store _ named (fun store archive => archive.listRoots store mainThread) .roots
  | stats =>
      simp only [Question.toStep, run, Session.perform]
      exact through_store _ named (fun store archive => archive.stats store mainThread) .stats

/-- What a step of a block does, where it is no insertion. -/
theorem run_blockStep (named : session.stores.lookup name = some own)
    (keeps : session.archive.Keeps seat own ledger) (serves : session.archive.Serves seat own)
    {step : BlockStep}
    (asked : ∀ other question, step = .ask other question → ∃ store,
      session.stores.lookup other = some store ∧ session.archive.Serves seat store ∧
        (seat.place? = none → store = own))
    (uninserted : ∀ draft, step ≠ .insert draft) :
    ∃ after, (∀ notices, run (step.toStep name) { session with notices := notices } =
        ((ledger.perform seat step).1, { session with notices := notices, archive := after })) ∧
      session.archive.Moves seat own (ledger.perform seat step).2 after := by
  cases step with
  | insert draft => exact absurd rfl (uninserted draft)
  | upsert path content? tokens hash? =>
      obtain ⟨after, done, moves⟩ := keeps.upsert serves path content? tokens hash?
      refine ⟨after, fun notices => ?_, moves⟩
      simp only [BlockStep.toStep, run, Session.perform]
      refine (through_store { session with notices := notices } named
        (fun store archive => archive.upsert store path content? tokens hash?) fun _ => .done).trans
        ?_
      rw [done]
  | delete path =>
      obtain ⟨after, done, moves⟩ := keeps.delete serves path
      refine ⟨after, fun notices => ?_, moves⟩
      simp only [BlockStep.toStep, run, Session.perform]
      refine (through_store { session with notices := notices } named
        (fun store archive => archive.delete store path) .flag).trans ?_
      rw [done]
  | recordRoot root =>
      obtain ⟨after, done, moves⟩ := keeps.recordRoot serves root
      refine ⟨after, fun notices => ?_, moves⟩
      simp only [BlockStep.toStep, run, Session.perform]
      refine (through_store { session with notices := notices } named
        (fun store archive => archive.recordRoot store root) fun _ => .done).trans ?_
      rw [done]
  | ask other question =>
      obtain ⟨store, known, serving, alone⟩ := asked other question rfl
      obtain ⟨after, answered, moves⟩ := keeps.answerTo serving alone mainThread question
      refine ⟨after, fun notices => ?_, moves⟩
      have told := run_question { session with notices := notices } known question
      simp only [BlockStep.toStep, told, answered]
      rfl

theorem eventsFor_apart (audience : Audience) (notices : List Notice) :
    Notice.eventsFor audience (notices.filter fun notice => notice.audience ≠ audience) = [] := by
  simp [Notice.eventsFor, List.filter_filter]

/-- Work that changes the archive alone tells nobody anything. -/
theorem record_of_archive {work : Work α} {outcome : Except Failure α} {after : Archive}
    (audience : Audience)
    (ran : ∀ notices, work { session with notices := notices } =
      (outcome, { session with notices := notices, archive := after })) :
    ∃ notices, record audience work session =
      (.ok (outcome, []), { session with notices := notices, archive := after }) := by
  let apart (notices : List Notice) := notices.filter fun notice => notice.audience ≠ audience
  refine ⟨apart (apart session.notices) ++
    Notice.all audience (Notice.eventsFor audience session.notices), ?_⟩
  simp only [record, takeEvents, tell, bind_apply, get_apply, set_apply, pure_apply, attempt_apply,
    modify_apply, ran, eventsFor_apart, apart]

/-- The stores that are asked in a block, on the database that it is about. In memory there is
but the store of the block. -/
def Reaches (session : Session) (seat : Seat) (own : Nat) (steps : List BlockStep) : Prop :=
  ∀ other question, .ask other question ∈ steps → ∃ store,
    session.stores.lookup other = some store ∧ session.archive.Serves seat store ∧
      (seat.place? = none → store = own)

variable {steps rest : List BlockStep} {step : BlockStep} {after : Archive}
  {notices : List Notice}

theorem Reaches.of_cons (reaches : session.Reaches seat own (step :: rest))
    (serves : ∀ {store}, session.archive.Serves seat store → after.Serves seat store) :
    Reaches { session with archive := after, notices := notices } seat own rest := by
  intro other question member
  obtain ⟨store, known, serving, alone⟩ := reaches other question (List.mem_cons_of_mem _ member)
  exact ⟨store, known, serves serving, alone⟩

/-- What is left of a block when the result of its first step is known. -/
def goOn (own : Nat) (step : BlockStep) (result : Except Failure Answer) (rest : List Step) :
    Work BlockRun :=
  match step.breaking? result with
  | some failure => pure ⟨[], some failure⟩
  | none => do
      let run ← runBlock own rest
      pure { run with results := (result, []) :: run.results }

/-- The first step of a block is that of its ledger. -/
theorem runBlock_cons (named : session.stores.lookup name = some own)
    (keeps : session.archive.Keeps seat own ledger) (serves : session.archive.Serves seat own)
    (reaches : session.Reaches seat own (step :: steps)) (rest : List Step) :
    ∃ after notices, runBlock own (step.toStep name :: rest) session =
        goOn own step (ledger.perform seat step).1 rest
          { session with archive := after, notices := notices } ∧
      session.archive.Moves seat own (ledger.perform seat step).2 after := by
  by_cases insertion : ∃ draft, step = .insert draft
  · obtain ⟨draft, rfl⟩ := insertion
    obtain ⟨after, inserted, moves⟩ := keeps.insertPending serves draft
    have ran : ∀ notices : List Notice,
        onArchive (·.insertPending own draft) { session with notices := notices } =
          ((ledger.write (·.insert false draft)).1.mapError .database,
            { session with notices := notices, archive := after }) := by
      intro notices
      rw [onArchive_apply, inserted]
    obtain ⟨notices, recorded⟩ := record_of_archive .caller ran
    refine ⟨after, notices, ?_, moves⟩
    have first : (BlockStep.insert draft).toStep name = .insertPending draft := rfl
    rw [first, runBlock, bind_of_ok recorded]
    simp only [Ledger.perform]
    cases (ledger.write (·.insert false draft)).1 <;> rfl
  · have asked : ∀ other question, step = .ask other question → ∃ store,
        session.stores.lookup other = some store ∧ session.archive.Serves seat store ∧
          (seat.place? = none → store = own) :=
      fun other question same => reaches other question (by simp [same])
    obtain ⟨after, ran, moves⟩ := run_blockStep named keeps serves asked
      fun draft same => insertion ⟨draft, same⟩
    obtain ⟨notices, recorded⟩ := record_of_archive .caller ran
    refine ⟨after, notices, ?_, moves⟩
    have unbroken : step.breaking? (ledger.perform seat step).1 = none := by
      cases step with
      | insert draft => exact absurd ⟨draft, rfl⟩ insertion
      | _ => rfl
    rw [runBlock, bind_of_ok recorded, goOn, unbroken]
    intro draft same
    cases step with
    | insert draft => exact insertion ⟨draft, rfl⟩
    | ask other question => cases question <;> cases same
    | _ => cases same

/-- The steps of a block are those of its ledger. -/
theorem runBlock_follows (named : session.stores.lookup name = some own)
    (keeps : session.archive.Keeps seat own ledger) (serves : session.archive.Serves seat own)
    (reaches : session.Reaches seat own steps) :
    let ending := ledger.performAll seat steps
    ∃ after notices, runBlock own (steps.map (·.toStep name)) session =
        (.ok ⟨ending.results, ending.failure?⟩,
          { session with archive := after, notices := notices }) ∧
      session.archive.Moves seat own ending.ledger after := by
  induction steps generalizing session ledger with
  | nil =>
      refine ⟨session.archive, session.notices, ?_, keeps.stays⟩
      rw [List.map_nil, runBlock]
      rfl
  | cons step rest ih =>
      obtain ⟨after, notices, went, moves⟩ :=
        runBlock_cons named keeps serves reaches (rest.map (·.toStep name))
      rw [List.map_cons, went]
      unfold goOn Ledger.performAll
      dsimp only
      cases step.breaking? (ledger.perform seat step).1 with
      | some failure => exact ⟨after, notices, rfl, moves⟩
      | none =>
          let reached : Session := { session with archive := after, notices := notices }
          have onward : reached.Reaches seat own rest := reaches.of_cons moves.serves
          have known : reached.stores.lookup name = some own := named
          obtain ⟨final, told, others, last⟩ := ih known moves.keeps (moves.serves serves) onward
          refine ⟨final, told, ?_, moves.trans last⟩
          exact (bind_of_ok others).trans rfl

/-- A transaction block on a store, in memory or on a file, does to its database what is kept in
the ledger, and gives the results that are told by it. Where only rows are put in and questions are
asked, all of the rows are there in the end or none is. -/
theorem transaction_follows_ledger (fails : Bool)
    (named : session.stores.lookup name = some own) (serves : session.archive.Serves seat own)
    (reaches : session.Reaches seat own steps)
    (idle : (session.archive.database seat.number).pending? = none) :
    let start : Ledger :=
      ⟨(session.archive.database seat.number).committed, none, session.archive.clock⟩
    let ending := start.block seat fails steps
    (∃ after notices, run (.transaction name fails (steps.map (·.toStep name))) session =
        (.ok (.transaction ending.results ending.failure?),
          { session with archive := after, notices := notices }) ∧
      session.archive.Moves seat own ending.ledger after ∧ ending.ledger.pending? = none) ∧
    ((∀ step ∈ steps, step.isBare = true) →
      match start.committed.insertAll (steps.filterMap (·.draft?)) with
      | .error fault =>
          ending.failure? = some (.database fault) ∧ ending.ledger.committed = start.committed
      | .ok tables =>
          ending.failure? = (if fails then some .rolledBack else none) ∧
            ending.ledger.committed = if fails then start.committed else tables) := by
  intro start ending
  have keeps : session.archive.Keeps seat own start := ⟨⟨rfl, idle⟩, rfl⟩
  obtain ⟨reached, notices, ran, moves⟩ := runBlock_follows named keeps serves reaches
  constructor
  · simp only [ending, Ledger.block]
    rw [run, bind_of_ok (store_apply named), inTransaction, bind_of_ok ran]
    dsimp only
    cases (start.performAll seat steps).failure?.or (if fails then some .rolledBack else none) with
    | none =>
        obtain ⟨after, committed, last⟩ := moves.keeps.commit (moves.serves serves)
        refine ⟨after, notices, ?_, moves.trans last, rfl⟩
        simp [committed, Archive.bare]
    | some failure =>
        obtain ⟨after, discarded, last⟩ := moves.keeps.rollback (moves.serves serves)
        refine ⟨after, notices, ?_, moves.trans last, rfl⟩
        simp [discarded, Archive.bare]
  · intro bare
    have putIn := (Ledger.performAll_of_bare bare : start.PutsIn _ (start.performAll seat steps) ∧ _).1
    have kept : (start.performAll seat steps).ledger.committed = start.committed :=
      (Ledger.performAll_of_bare bare).2
    have whole : start.current = start.committed := rfl
    unfold Ledger.PutsIn at putIn
    rw [whole] at putIn
    simp only [ending, Ledger.block]
    cases inserted : start.committed.insertAll (steps.filterMap (·.draft?)) with
    | error fault =>
        simp only [inserted] at putIn
        simp only [putIn]
        exact ⟨rfl, kept⟩
    | ok tables =>
        simp only [inserted] at putIn
        simp only [putIn.1]
        cases fails with
        | true => exact ⟨rfl, kept⟩
        | false => exact ⟨rfl, putIn.2⟩

/-! A file that two stores are on. In a block of one of them a row is committed with a document that
is stored, another is discarded with one that is refused, and a last one breaks the block off. -/

def exampleShared : Archive :=
  ((exampleWork.openStore exampleFile).2.openStore exampleFile).2

def exampleSharing : Session :=
  { Session.initial ⟨"/home", "/work"⟩ ⟨0, 1⟩ with
    archive := exampleShared
    stores := [("b", 1), ("a", 0)] }

def exampleDraft (path : String) : Draft := ⟨path, some "", "", some "0", ""⟩

def exampleBlock : List BlockStep :=
  [.insert (exampleDraft "/x"), .ask "b" (.hash "/x"),
    .upsert "/a" (some "one") ["one"] (some "1"), .ask "b" (.hash "/x"),
    .insert (exampleDraft "/y"), .upsert "/c" none [] none, .insert (exampleDraft "/z"),
    .insert (exampleDraft "/a"), .delete "/x"]

theorem exampleShared_serves {store : Nat} (one : store < 2) :
    exampleShared.Serves ⟨0, some ["work", "index.db"]⟩ store := by
  obtain ⟨number, first, opened, left⟩ := exampleWork_vacant.openStore exampleWork_names
  obtain ⟨second, openedAgain, leftAgain⟩ :=
    left.hosts.openStore (exampleWork_names.becomes left.becomes)
  have same : exampleShared = second := by
    rw [exampleShared, opened, openedAgain]
  have closed : exampleShared.handles.map (·.closed) = [false, false] := by
    rw [same, leftAgain.closed, left.closed]
    rfl
  have hosts := leftAgain.hosts
  rw [← same] at hosts
  have unclosed : (exampleShared.handle store).closed = false := by
    rw [closed_handle, closed]
    match store, one with
    | 0, _ | 1, _ => rfl
  have serves := hosts.serves unclosed
  have zero : ∀ store < 2, (exampleShared.handle store).writer.database = 0 := by decide +kernel
  have same : number = 0 := by
    rw [← zero store one, serves.sits.writer]
    rfl
  exact same ▸ serves

theorem transaction_broken_off_by_duplicate :
    exampleSharing.stores.lookup "a" = some 0 ∧
    exampleSharing.archive.Serves ⟨0, some ["work", "index.db"]⟩ 0 ∧
    exampleSharing.Reaches ⟨0, some ["work", "index.db"]⟩ 0 exampleBlock ∧
    (exampleShared.database 0).pending? = none ∧
    ∃ results after notices,
      run (.transaction "a" false (exampleBlock.map (·.toStep "a"))) exampleSharing =
        (.ok (.transaction results (some (.database .duplicatePath))),
          { exampleSharing with archive := after, notices := notices }) ∧
      results.length = 7 ∧ (after.database 0).pending? = none ∧
      (after.database 0).committed.rows.map (·.path) = ["/x", "/a"] := by
  have serves := exampleShared_serves (show 0 < 2 by decide)
  have reaches : exampleSharing.Reaches ⟨0, some ["work", "index.db"]⟩ 0 exampleBlock := by
    intro other question member
    have same : other = "b" := by
      simp [exampleBlock] at member
      exact member.1
    exact ⟨1, same ▸ rfl, exampleShared_serves (by decide), nofun⟩
  have idle : (exampleShared.database 0).pending? = none := by decide +kernel
  have named : exampleSharing.stores.lookup "a" = some 0 := rfl
  let start : Ledger := ⟨(exampleShared.database 0).committed, none, exampleShared.clock⟩
  let ending := start.block ⟨0, some ["work", "index.db"]⟩ false exampleBlock
  have failure : ending.failure? = some (.database .duplicatePath) := by decide +kernel
  have count : ending.results.length = 7 := by decide +kernel
  have stored : ending.ledger.committed.rows.map (·.path) = ["/x", "/a"] := by decide +kernel
  obtain ⟨⟨after, notices, ran, moves, settled⟩, _⟩ :=
    transaction_follows_ledger false named serves reaches idle
  refine ⟨named, serves, reaches, idle, ending.results, after, notices, ?_, count, ?_, ?_⟩
  · rw [← failure]
    exact ran
  · rw [moves.keeps.shows.pending, settled]
    rfl
  · rw [moves.keeps.shows.committed]
    exact stored

end Session

end FolderIndex
