import FolderIndex.Proofs.Provenance

namespace FolderIndex

/-! The courses that the life of an archive can take, as far as documents come into it by scans
alone: scans by any indexers, cut off at any of their stages, and between them whatever else
happens to files, clocks and stores. -/

inductive Deed where
  | changeFiles (files : FileTree)
  | setClock (clock : Clock)
  | openStore (location : Location)
  | closeStore (store : Nat)
  | read (store thread : Nat) (operation : StoreOperation)
  | recordRoot (store : Nat) (root : String)
  | addTrigger (store : Nat) (trigger : Trigger)
  | drop (store : Nat) (table : TableName)

def Deed.perform (archive : Archive) : Deed → Archive
  | changeFiles files => { archive with files := files }
  | setClock clock => { archive with clock := clock }
  | openStore location => (archive.openStore location).2
  | closeStore store => archive.close store
  | read store thread operation => (archive.reading store thread operation).2
  | recordRoot store root => (archive.recordRoot store root).2
  | addTrigger store trigger => (archive.addTrigger store trigger).2
  | drop store table => (archive.drop store table).2

/-- An archive, and all files that scans have come to so far. -/
structure Moment where
  archive : Archive
  visits : List Visit

/-- The moments that the course of an archive can come to. A scan may be met at any of its
stages, and may end there. -/
inductive Reached (start : Archive) : Moment → Prop where
  | start : Reached start ⟨start, []⟩
  | deed {before : Moment} (earlier : Reached start before) (deed : Deed) :
      Reached start ⟨deed.perform before.archive, before.visits⟩
  | scan {before : Moment} (earlier : Reached start before) {indexer : Indexer}
      (made : indexer.IsMade) (thread : Nat) (patience : Patience) {stage : Progress}
      (passed : stage ∈ indexer.stages before.archive thread patience) :
      Reached start
        ⟨stage.archive, before.visits ++ before.archive.files.visits stage.seen⟩

namespace Reached

variable {start : Archive} {before moment : Moment} {thread : Nat}

/-- A scan that has come to its end, in whatever way, has added its visits to those before. -/
theorem after_scan (earlier : Reached start before) {indexer : Indexer} (made : indexer.IsMade)
    (thread : Nat) (patience : Patience) :
    ∃ visits, Reached start
      ⟨(indexer.scan before.archive thread patience).archive, before.visits ++ visits⟩ := by
  obtain ⟨stage, passed, same⟩ :=
    indexer.scan_archive_mem_stages before.archive thread patience
  exact ⟨_, same ▸ earlier.scan made thread patience passed⟩

theorem after_tick (earlier : Reached start before) {scheduler : Scheduler}
    (made : scheduler.indexer.IsMade) (thread : Nat) :
    ∃ visits, Reached start
      ⟨(scheduler.tick before.archive thread).archive, before.visits ++ visits⟩ := by
  obtain ⟨visits, scanned⟩ := earlier.after_scan made thread scheduler.patience
  refine ⟨visits, ?_⟩
  unfold Scheduler.tick
  dsimp only
  split <;> exact scanned

theorem after_reindex (earlier : Reached start before) {scheduler : Scheduler}
    (made : scheduler.indexer.IsMade) (thread : Nat) (patience : Patience) :
    ∃ visits, Reached start
      ⟨(scheduler.reindex before.archive thread patience).archive, before.visits ++ visits⟩ :=
  earlier.after_scan made thread patience

theorem deed_keeps {archive : Archive} {visits : List Visit}
    (reflects : archive.Holds (Tables.Reflect visits)) (deed : Deed) :
    (deed.perform archive).Holds (Tables.Reflect visits) := by
  have blank : Tables.blank.Reflect visits := Tables.reflect_of_no_rows rfl
  cases deed with
  | changeFiles files => exact reflects
  | setClock clock => exact reflects
  | openStore location => exact reflects.openStore blank Tables.Reflect.ensure location
  | closeStore store => exact reflects.close blank store
  | read store thread operation => exact reflects.reading blank store thread operation
  | recordRoot store root =>
      exact reflects.recordRoot blank store root
        fun time => Tables.reflect_keeps_recordRoot ⟨root, time⟩
  | addTrigger store trigger =>
      exact reflects.addTrigger blank store trigger (Tables.reflect_keeps_addTrigger trigger)
  | drop store table =>
      exact reflects.drop blank store table (Tables.reflect_keeps_drop table)

/-- All that an archive holds shows what was visited, if it held no rows at its start. -/
theorem reflects (reached : Reached start moment)
    (empty : start.Holds fun tables => tables.rows = []) :
    moment.archive.Holds (Tables.Reflect moment.visits) := by
  induction reached with
  | start => exact empty.mono fun tables none => Tables.reflect_of_no_rows none
  | deed earlier deed ih => exact deed_keeps ih deed
  | @scan before earlier indexer made thread patience stage passed ih =>
      refine Indexer.of_mem_stages (Progress.Grounded before.visits before.archive.files)
        ?_ (fun action _ _ grounded => grounded.act action) (fun grounded => ?_) passed
      · exact ih.mono fun tables reflect =>
          reflect.mono fun visit member => List.mem_append_left _ member
      · exact Archive.Holds.query (Tables.reflect_of_no_rows rfl) grounded _ _ _ _

theorem visits_rooted (reached : Reached start moment) :
    ∀ visit ∈ moment.visits, visit.path.toList.head? = some '/' := by
  induction reached with
  | start => simp
  | deed earlier deed ih => exact ih
  | scan earlier made thread patience passed ih =>
      intro visit member
      rcases List.mem_append.mp member with old | new
      · exact ih visit old
      · have seen := (FileTree.mem_visits.mp new).1
        exact made.found_rooted (Indexer.seen_found_of_mem_stages passed visit.path seen)

/-- Every committed state, the middle of a scan included, has one row for a path, and each row
shows one version of its file, as a scan found it there. The scans of a scheduler, at a tick as on
demand, lead from such a state to another. -/
theorem rows_show_versions (reached : Reached start moment)
    (empty : start.Holds fun tables => tables.rows = []) (number : Nat) :
    (let rows := (moment.archive.database number).committed.rows
    (rows.map (·.path)).Nodup ∧
    ∀ row ∈ rows, row.path.toList.head? = some '/' ∧ Text.isBlankText row.path = false ∧
      ∃ visit ∈ moment.visits, visit.path = row.path ∧
        row.content = Text.decodeUtf8 visit.octets ∧
        row.toDocument.tokens = Text.tokenize row.content ∧ row.hash = digest visit.octets) ∧
    ∀ scheduler : Scheduler, scheduler.indexer.IsMade → ∀ thread patience,
      (∃ visits, Reached start
        ⟨(scheduler.tick moment.archive thread).archive, moment.visits ++ visits⟩) ∧
      ∃ visits, Reached start
        ⟨(scheduler.reindex moment.archive thread patience).archive, moment.visits ++ visits⟩ := by
  refine ⟨?_, fun scheduler made thread patience =>
    ⟨reached.after_tick made thread, reached.after_reindex made thread patience⟩⟩
  have blank : Tables.blank.Reflect moment.visits := Tables.reflect_of_no_rows rfl
  have reflect := ((reached.reflects empty).database blank number).committed
  refine ⟨reflect.distinct, ?_⟩
  intro row member
  obtain ⟨visit, known, shows⟩ := reflect.shown row member
  have rooted : row.path.toList.head? = some '/' := by
    rw [shows.path]
    exact reached.visits_rooted visit known
  refine ⟨rooted, Text.isBlankText_of_head?_slash rooted, visit, known, shows.path.symm,
    shows.content, ?_, shows.hash⟩
  change Text.words row.tokens = _
  rw [shows.tokens]
  exact Text.words_joinWords_tokenize row.content

end Reached

/-! Two roots with a file each, one of them damaged text, a database beside them, and a first
scan that is cancelled between the files. -/

def exampleFiles : FileTree :=
  ⟨.directory [("a", .directory [("x.txt", .file [0xC3, 0x28, 72, 105])]),
    ("b", .directory [("y.txt", .file [72, 105])]), ("h", .directory [])], [], [], [], ⟨"/h", "/"⟩⟩

def exampleIndexer : Indexer := ⟨0, [⟨.root, ["a"]⟩, ⟨.root, ["b"]⟩], [".txt"], .caller⟩

def exampleStart : Archive := .initial exampleFiles ⟨0, 1⟩

def exampleArchive : Archive := (Deed.openStore (.ofString "/h/index.db")).perform exampleStart

theorem exampleIndexer_isMade : exampleIndexer.IsMade :=
  ⟨⟨"/h", "/"⟩, 0, ["a/", "./b"], [".txt"], .caller, by decide +kernel, by decide +kernel⟩

theorem exampleStart_empty : exampleStart.Holds fun tables => tables.rows = [] := by
  intro database member
  cases member

theorem exampleArchive_reached : Reached exampleStart ⟨exampleArchive, []⟩ :=
  Reached.start.deed (.openStore (.ofString "/h/index.db"))

theorem exampleStages_length : 2 < (exampleIndexer.stages exampleArchive 0 (some 1)).length := by
  decide +kernel

/-- The moment at which the first of the files is indexed. -/
def exampleMoment : Moment :=
  let stage := (exampleIndexer.stages exampleArchive 0 (some 1)).get ⟨2, exampleStages_length⟩
  ⟨stage.archive, [] ++ exampleArchive.files.visits stage.seen⟩

theorem exampleMoment_reached : Reached exampleStart exampleMoment :=
  exampleArchive_reached.scan exampleIndexer_isMade 0 (some 1) (List.get_mem _ _)

theorem rows_show_versions_midway :
    Reached exampleStart exampleMoment ∧ (exampleStart.Holds fun tables => tables.rows = []) ∧
    let rows := (exampleMoment.archive.database 0).committed.rows
    rows.length = 1 ∧ (rows.map (·.path)).Nodup ∧
    ∀ row ∈ rows, row.path.toList.head? = some '/' ∧ Text.isBlankText row.path = false ∧
      ∃ visit ∈ exampleMoment.visits, visit.path = row.path ∧
        row.content = Text.decodeUtf8 visit.octets ∧
        row.toDocument.tokens = Text.tokenize row.content ∧ row.hash = digest visit.octets :=
  ⟨exampleMoment_reached, exampleStart_empty, by decide +kernel,
    (exampleMoment_reached.rows_show_versions exampleStart_empty 0).1⟩

end FolderIndex
