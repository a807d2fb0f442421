import FolderIndex.Proofs.Holdings
import FolderIndex.Proofs.Seats
import FolderIndex.Proofs.StoreCalls
import FolderIndex.Proofs.Timestamps
import Mathlib.Logic.Function.Basic

namespace FolderIndex

/-! The order in which documents are listed: it is that of the moments at which they were stored
last, whatever the clock shows and however often it is set back. -/

/-- The moments at which documents were stored last, and those at which roots were recorded. -/
structure Chronicle where
  updated : String → Option Instant
  scanned : String → Option Instant

/-- A call of a store, and the clock when it is made. -/
structure TimedCall where
  clock : Clock
  call : StoreCall
deriving DecidableEq, Repr

namespace TimedCall

def moment (timed : TimedCall) : Instant := timed.clock.read.1

def perform (archive : Archive) (timed : TimedCall) : Archive :=
  (({ archive with clock := timed.clock } : Archive).perform timed.call).2

end TimedCall

namespace Chronicle

def empty : Chronicle := ⟨fun _ => none, fun _ => none⟩

/-- The moments after a call. One that stores a document must have all that a row holds. -/
def after (chronicle : Chronicle) (timed : TimedCall) : Chronicle :=
  if timed.call.path?.any Text.isBlankText then chronicle
  else
    match timed.call with
    | .upsert _ path (some _) _ (some _) =>
        { chronicle with updated := Function.update chronicle.updated path (some timed.moment) }
    | .delete _ path =>
        { chronicle with updated := Function.update chronicle.updated path none }
    | .recordRoot _ root =>
        { chronicle with scanned := Function.update chronicle.scanned root (some timed.moment) }
    | _ => chronicle

/-- The document that was stored later is before another, and of those that were stored at one
moment the one with the lesser path. -/
def Precedes (chronicle : Chronicle) (left right : Document) : Prop :=
  ∃ later earlier, chronicle.updated left.path = some later ∧
    chronicle.updated right.path = some earlier ∧
    (earlier.micros < later.micros ∨ earlier = later ∧ left.path < right.path)

/-- A moment at which a root was recorded, and after which none was. -/
def Latest (chronicle : Chronicle) (moment : Instant) : Prop :=
  (∃ root, chronicle.scanned root = some moment) ∧
    ∀ root other, chronicle.scanned root = some other → other.micros ≤ moment.micros

/-- All documents whose moments are known, each with the text of its moment, in their order. -/
structure Lists (chronicle : Chronicle) (documents : List Document) : Prop where
  ordered : documents.Pairwise chronicle.Precedes
  timed : ∀ document ∈ documents, ∃ moment, chronicle.updated document.path = some moment ∧
    document.updatedAt = moment.toText
  complete : ∀ path moment, chronicle.updated path = some moment →
    ∃ document ∈ documents, document.path = path

end Chronicle

/-- Maps whose times are the texts of moments in the years 1 to 9999. -/
structure IndexMaps.Dates (maps : IndexMaps) (chronicle : Chronicle) : Prop where
  documents : ∀ path, maps.documents[path]?.map (·.time) =
    (chronicle.updated path).map Instant.toText
  roots : ∀ root : String, maps.roots[root]? = (chronicle.scanned root).map Instant.toText
  updated : ∀ {path moment}, chronicle.updated path = some moment → moment.Dated
  scanned : ∀ {root moment}, chronicle.scanned root = some moment → moment.Dated

namespace IndexMaps.Dates

variable {maps : IndexMaps} {chronicle : Chronicle} {moment : Instant} {path root : String}

theorem empty : IndexMaps.empty.Dates .empty where
  documents _ := by simp [IndexMaps.empty, Chronicle.empty]
  roots _ := by simp [IndexMaps.empty, Chronicle.empty]
  updated known := by cases known
  scanned known := by cases known

theorem of_update {before : String → Option Instant} {key other : String}
    {value? : Option Instant} (dated : ∀ {key known}, before key = some known → known.Dated)
    (new : ∀ moment, value? = some moment → moment.Dated)
    (found : Function.update before key value? other = some moment) : moment.Dated := by
  by_cases same : other = key
  · subst same
    rw [Function.update_self] at found
    exact new moment found
  · rw [Function.update_of_ne same] at found
    exact dated found

theorem upsert (dates : maps.Dates chronicle) (dated : moment.Dated) (path : String)
    (content hash : String) (tokens : List String) :
    (maps.upsert path ⟨content, tokens, hash, moment.toText⟩).Dates
      { chronicle with updated := Function.update chronicle.updated path (some moment) } where
  documents other := by
    simp only [IndexMaps.upsert, Std.ExtTreeMap.getElem?_insert, compare_eq_iff_eq]
    by_cases same : path = other
    · subst same
      simp
    · rw [if_neg same, Function.update_of_ne (Ne.symm same)]
      exact dates.documents other
  roots := dates.roots
  updated := of_update dates.updated fun _ same => Option.some.inj same ▸ dated
  scanned := dates.scanned

theorem delete (dates : maps.Dates chronicle) (path : String) :
    (maps.delete path).Dates
      { chronicle with updated := Function.update chronicle.updated path none } where
  documents other := by
    simp only [IndexMaps.delete, Std.ExtTreeMap.getElem?_erase, compare_eq_iff_eq]
    by_cases same : path = other
    · subst same
      simp
    · rw [if_neg same, Function.update_of_ne (Ne.symm same)]
      exact dates.documents other
  roots := dates.roots
  updated := of_update dates.updated fun _ same => by cases same
  scanned := dates.scanned

theorem recordRoot (dates : maps.Dates chronicle) (dated : moment.Dated) (root : String) :
    (maps.recordRoot root moment.toText).Dates
      { chronicle with scanned := Function.update chronicle.scanned root (some moment) } where
  documents := dates.documents
  roots other := by
    simp only [IndexMaps.recordRoot, Std.ExtTreeMap.getElem?_insert, compare_eq_iff_eq]
    by_cases same : root = other
    · subst same
      simp
    · rw [if_neg same, Function.update_of_ne (Ne.symm same)]
      exact dates.roots other
  updated := dates.updated
  scanned := of_update dates.scanned fun _ same => Option.some.inj same ▸ dated

theorem mem_newest {document : Document} :
    document ∈ maps.newest ↔
      ∃ path, ∃ stored : Stored, maps.documents[path]? = some stored ∧
        document = stored.toDocument path := by
  unfold IndexMaps.newest
  rw [List.mem_mergeSort]
  exact mem_listing

/-- The moment of a document that is stored. -/
theorem moment_of_stored (dates : maps.Dates chronicle) {stored : Stored}
    (found : maps.documents[path]? = some stored) :
    ∃ moment, chronicle.updated path = some moment ∧ stored.time = moment.toText := by
  have known := dates.documents path
  rw [found, Option.map_some] at known
  obtain ⟨moment, updated, same⟩ := Option.map_eq_some_iff.mp known.symm
  exact ⟨moment, updated, same.symm⟩

/-- The documents are listed in the order of their moments. -/
theorem lists (dates : maps.Dates chronicle) : chronicle.Lists maps.newest where
  ordered := by
    have sorted : maps.newest.Pairwise fun left right => left.newerFirst right = true :=
      Document.pairwise_mergeSort_newerFirst _
    have distinct : maps.newest.Pairwise fun left right => left.path ≠ right.path := by
      rw [← List.pairwise_map (f := Document.path)]
      have keys : ((listing Stored.toDocument maps.documents).map Document.path).Nodup :=
        nodup_key_of_perm Stored.path_toDocument (.refl _)
      exact ((List.mergeSort_perm _ _).map Document.path).nodup_iff.mpr keys
    refine (sorted.and distinct).imp_of_mem ?_
    intro left right leftMember rightMember ⟨newer, apart⟩
    obtain ⟨leftPath, leftStored, leftFound, rfl⟩ := mem_newest.mp leftMember
    obtain ⟨rightPath, rightStored, rightFound, rfl⟩ := mem_newest.mp rightMember
    obtain ⟨later, leftKnown, leftText⟩ := dates.moment_of_stored leftFound
    obtain ⟨earlier, rightKnown, rightText⟩ := dates.moment_of_stored rightFound
    refine ⟨later, earlier, leftKnown, rightKnown, ?_⟩
    have laterDated := dates.updated leftKnown
    have earlierDated := dates.updated rightKnown
    simp only [Document.newerFirst, decide_eq_true_eq, Stored.toDocument, leftText, rightText]
      at newer apart ⊢
    rcases newer with less | ⟨same, inOrder⟩
    · exact .inl ((Instant.toText_lt_iff earlierDated laterDated).mp less)
    · exact .inr ⟨((Instant.toText_inj laterDated earlierDated).mp same).symm,
        lt_of_le_of_ne inOrder apart⟩
  timed document member := by
    obtain ⟨path, stored, found, rfl⟩ := mem_newest.mp member
    exact dates.moment_of_stored found
  complete path moment known := by
    have found := dates.documents path
    rw [known, Option.map_some] at found
    obtain ⟨stored, looked, _⟩ := Option.map_eq_some_iff.mp found
    exact ⟨_, mem_newest.mpr ⟨path, stored, looked, rfl⟩, rfl⟩

theorem mem_times {text : String} :
    text ∈ maps.roots.toList.map (·.2) ↔ ∃ root : String, maps.roots[root]? = some text := by
  simp only [List.mem_map, Prod.exists, Std.ExtTreeMap.mem_toList_iff_getElem?_eq_some]
  constructor
  · rintro ⟨root, time, found, rfl⟩
    exact ⟨root, found⟩
  · rintro ⟨root, found⟩
    exact ⟨root, text, found, rfl⟩

theorem latest_iff (dates : maps.Dates chronicle) (text : String) :
    maps.stats.lastIndexed? = some text ↔
      ∃ moment, chronicle.Latest moment ∧ text = moment.toText := by
  change (maps.roots.toList.map (·.2)).max? = some text ↔ _
  rw [List.max?_eq_some_iff]
  simp only [mem_times, dates.roots, Option.map_eq_some_iff]
  constructor
  · rintro ⟨⟨root, moment, known, rfl⟩, greatest⟩
    refine ⟨moment, ⟨⟨root, known⟩, fun other earlier also => ?_⟩, rfl⟩
    have atMost := greatest _ ⟨other, earlier, also, rfl⟩
    rw [← not_lt, Instant.toText_lt_iff (dates.scanned known) (dates.scanned also)] at atMost
    exact not_lt.mp atMost
  · rintro ⟨moment, ⟨⟨root, known⟩, last⟩, rfl⟩
    refine ⟨⟨root, moment, known, rfl⟩, ?_⟩
    rintro _ ⟨other, earlier, also, rfl⟩
    rw [← not_lt, Instant.toText_lt_iff (dates.scanned known) (dates.scanned also)]
    exact not_lt.mpr (last other earlier also)

theorem unscanned_iff (dates : maps.Dates chronicle) :
    maps.stats.lastIndexed? = none ↔ ∀ root, chronicle.scanned root = none := by
  change (maps.roots.toList.map (·.2)).max? = none ↔ _
  rw [List.max?_eq_none_iff, List.eq_nil_iff_forall_not_mem]
  simp only [mem_times, dates.roots, Option.map_eq_some_iff]
  constructor
  · intro absent root
    cases known : chronicle.scanned root with
    | none => rfl
    | some moment => exact absurd ⟨root, moment, known, rfl⟩ (absent _)
  · rintro absent _ ⟨root, moment, known, _⟩
    rw [absent root] at known
    cases known

end IndexMaps.Dates

namespace Archive

variable {α : Type} {archive : Archive} {seat : Seat} {store : Nat} {chronicle next : Chronicle}
  {timed : TimedCall} {maps : IndexMaps}

/-- An archive with a database that has nothing pending and whose times are those of a chronicle. -/
structure Tells (archive : Archive) (seat : Seat) (chronicle : Chronicle) : Prop where
  idle : (archive.database seat.number).pending? = none
  dates : ∃ maps, (archive.database seat.number).committed.Realizes maps ∧ maps.Dates chronicle

/-- What a call leaves: the moments of what is stored, and the stores where they were. -/
structure Goes (archive : Archive) (seat : Seat) (chronicle : Chronicle) (after : Archive) :
    Prop where
  tells : after.Tells seat chronicle
  serves : ∀ {store}, archive.Serves seat store → after.Serves seat store

theorem Tells.stays (tells : archive.Tells seat chronicle) : archive.Goes seat chronicle archive :=
  ⟨tells, id⟩

theorem Tells.keeps (tells : archive.Tells seat chronicle) (store : Nat) :
    archive.Keeps seat store
      ⟨(archive.database seat.number).committed, none, archive.clock⟩ :=
  ⟨⟨rfl, tells.idle⟩, rfl⟩

theorem Keeps.tells {ledger : Ledger} (keeps : archive.Keeps seat store ledger)
    (idle : ledger.pending? = none) (realizes : ledger.committed.Realizes maps)
    (dates : maps.Dates chronicle) : archive.Tells seat chronicle := by
  refine ⟨?_, maps, ?_, dates⟩
  · rw [keeps.shows.pending, idle]
    rfl
  · rw [keeps.shows.committed]
    exact realizes

theorem Goes.of_timed {clock : Clock} {after : Archive}
    (goes : ({ archive with clock := clock } : Archive).Goes seat chronicle after) :
    archive.Goes seat chronicle after :=
  ⟨goes.tells, fun serves => goes.serves ⟨serves.present, serves.sits⟩⟩

theorem Goes.of_stamp {after : Archive} (goes : archive.stamp.2.Goes seat chronicle after) :
    archive.Goes seat chronicle after :=
  goes.of_timed

/-- A question changes no moment. -/
theorem Tells.query (tells : archive.Tells seat chronicle) (serves : archive.Serves seat store)
    (thread : Nat) (operation : StoreOperation) (ask : Tables → Except DatabaseFault α) :
    archive.Goes seat chronicle (archive.query store thread operation ask).2 := by
  obtain ⟨after, asked, moves⟩ :=
    (tells.keeps store).query serves (fun _ => rfl) thread operation ask
  obtain ⟨maps, realizes, dates⟩ := tells.dates
  rw [asked]
  exact ⟨moves.keeps.tells rfl realizes dates, moves.serves⟩

/-- A change of the tables that is one of the maps. -/
theorem Tells.transact (tells : archive.Tells seat chronicle) (serves : archive.Serves seat store)
    {change : Tables → Except DatabaseFault (α × Tables)}
    (changes : ∀ tables : Tables, ∀ maps, tables.Realizes maps → maps.Dates chronicle →
      ∃ value after others, change tables = .ok (value, after) ∧ after.Realizes others ∧
        others.Dates next) :
    archive.Goes seat next (archive.transact store change).2 := by
  obtain ⟨maps, realizes, dates⟩ := tells.dates
  obtain ⟨value, tables, others, changed, realizesAfter, datesAfter⟩ :=
    changes _ maps realizes dates
  obtain ⟨after, done, moves⟩ := (tells.keeps store).transact serves change
  rw [done]
  refine ⟨moves.keeps.tells ?_ ?_ datesAfter, moves.serves⟩
  · simp only [Ledger.transact, Ledger.current, Option.getD_none, changed]
  · simpa only [Ledger.transact, Ledger.current, Option.getD_none, changed] using realizesAfter

/-- A change that is refused changes no moment. -/
theorem Tells.refusal (tells : archive.Tells seat chronicle) (serves : archive.Serves seat store)
    {change : Tables → Except DatabaseFault (α × Tables)} {fault : DatabaseFault}
    (refused : ∀ tables : Tables, ∀ maps, tables.Realizes maps → change tables = .error fault) :
    archive.Goes seat chronicle (archive.transact store change).2 := by
  obtain ⟨maps, realizes, dates⟩ := tells.dates
  obtain ⟨after, done, moves⟩ := (tells.keeps store).transact serves change
  have failed := refused _ maps realizes
  rw [done]
  refine ⟨moves.keeps.tells ?_ ?_ dates, moves.serves⟩
  · simp only [Ledger.transact, Ledger.current, Option.getD_none, failed, Ledger.rollback]
  · simpa only [Ledger.transact, Ledger.current, Option.getD_none, failed, Ledger.rollback]
      using realizes

theorem Tells.upsert (tells : archive.Tells seat chronicle) (serves : archive.Serves seat store)
    {path : String} {content? hash? : Option String} {tokens : List String}
    (dated : archive.clock.read.1.Dated) :
    archive.Goes seat
      (chronicle.after ⟨archive.clock, .upsert store path content? tokens hash?⟩)
      (archive.upsert store path content? tokens hash?).2 := by
  unfold Archive.upsert Chronicle.after
  by_cases blank : Text.isBlankText path = true
  · simp only [StoreCall.path?, Option.any_some, blank, if_true]
    exact tells.stays
  · have stamped : archive.stamp.2.Tells seat chronicle := ⟨tells.idle, tells.dates⟩
    have serving : archive.stamp.2.Serves seat store := ⟨serves.present, serves.sits⟩
    simp only [StoreCall.path?, Option.any_some, blank, Bool.false_eq_true, if_false, named_snd]
    apply Goes.of_stamp
    cases content? with
    | none => exact stamped.refusal serving fun _ _ realizes => realizes.insert_of_missing rfl
    | some content =>
        cases hash? with
        | none => exact stamped.refusal serving fun _ _ realizes => realizes.insert_of_missing rfl
        | some hash =>
            refine stamped.transact serving fun tables maps realizes dates => ?_
            obtain ⟨after, changed, realizesAfter⟩ :=
              realizes.insert path ⟨content, tokens, hash, archive.clock.read.1.toText⟩
            exact ⟨(), after, _, changed, realizesAfter, dates.upsert dated path content hash tokens⟩

theorem Tells.delete (tells : archive.Tells seat chronicle) (serves : archive.Serves seat store)
    (clock : Clock) (path : String) :
    archive.Goes seat (chronicle.after ⟨clock, .delete store path⟩)
      (archive.delete store path).2 := by
  unfold Archive.delete Chronicle.after
  by_cases blank : Text.isBlankText path = true
  · simp only [StoreCall.path?, Option.any_some, blank, if_true]
    exact tells.stays
  · simp only [StoreCall.path?, Option.any_some, blank, Bool.false_eq_true, if_false, named_snd]
    refine tells.transact serves fun tables maps realizes dates => ?_
    obtain ⟨after, changed, realizesAfter⟩ := realizes.delete path
    exact ⟨_, after, _, changed, realizesAfter, dates.delete path⟩

theorem Tells.recordRoot (tells : archive.Tells seat chronicle)
    (serves : archive.Serves seat store) {root : String} (dated : archive.clock.read.1.Dated) :
    archive.Goes seat (chronicle.after ⟨archive.clock, .recordRoot store root⟩)
      (archive.recordRoot store root).2 := by
  unfold Archive.recordRoot Chronicle.after
  by_cases blank : Text.isBlankText root = true
  · simp only [StoreCall.path?, Option.any_some, blank, if_true]
    exact tells.stays
  · have stamped : archive.stamp.2.Tells seat chronicle := ⟨tells.idle, tells.dates⟩
    have serving : archive.stamp.2.Serves seat store := ⟨serves.present, serves.sits⟩
    simp only [StoreCall.path?, Option.any_some, blank, Bool.false_eq_true, if_false, named_snd]
    apply Goes.of_stamp
    refine stamped.transact serving fun tables maps realizes dates => ?_
    obtain ⟨after, changed, realizesAfter⟩ :=
      realizes.recordRoot root archive.clock.read.1.toText
    exact ⟨(), after, _, changed, realizesAfter, dates.recordRoot dated root⟩

/-- A call of a store carries the chronicle on. -/
theorem Tells.perform (tells : archive.Tells seat chronicle) (timed : TimedCall)
    (user : timed.call.user? = some store) (serves : archive.Serves seat store)
    (dated : timed.moment.Dated) :
    archive.Goes seat (chronicle.after timed) (timed.perform archive) := by
  obtain ⟨clock, call⟩ := timed
  have told : ({ archive with clock := clock } : Archive).Tells seat chronicle :=
    ⟨tells.idle, tells.dates⟩
  have serving : ({ archive with clock := clock } : Archive).Serves seat store :=
    ⟨serves.present, serves.sits⟩
  apply Goes.of_timed
  cases call with
  | openStore location => cases user
  | close store => cases user
  | upsert other path content? tokens hash? =>
      cases user
      exact told.upsert serving dated
  | delete other path =>
      cases user
      exact told.delete serving clock path
  | recordRoot other root =>
      cases user
      exact told.recordRoot serving dated
  | getHash other thread path =>
      cases user
      have same : chronicle.after ⟨clock, .getHash store thread path⟩ = chronicle := by
        simp [Chronicle.after]
      rw [same]
      change Goes _ seat chronicle (Archive.getHash _ store thread path).2
      unfold Archive.getHash
      split
      · exact told.stays
      · exact told.query serving _ _ _
  | listPaths other thread =>
      cases user
      exact told.query serving thread .listPaths Tables.paths
  | listDocuments other thread limit =>
      cases user
      change Goes _ seat chronicle (Archive.listDocuments _ store thread limit).2
      rw [listDocuments_snd]
      exact told.query serving _ _ _
  | listRoots other thread =>
      cases user
      exact told.query serving thread .listRoots Tables.rootScans
  | stats other thread =>
      cases user
      exact told.query serving thread .stats Tables.stats

/-- However many calls are made, each document and root has the moment of its last one. -/
theorem Tells.foldl (tells : archive.Tells seat chronicle) {calls : List TimedCall}
    (served : ∀ timed ∈ calls, ∃ store, timed.call.user? = some store ∧ archive.Serves seat store)
    (dated : ∀ timed ∈ calls, timed.moment.Dated) :
    archive.Goes seat (calls.foldl Chronicle.after chronicle)
      (calls.foldl TimedCall.perform archive) := by
  induction calls generalizing archive chronicle with
  | nil => exact tells.stays
  | cons timed rest ih =>
      obtain ⟨store, user, serves⟩ := served timed List.mem_cons_self
      have first := tells.perform timed user serves (dated timed List.mem_cons_self)
      have others := ih first.tells
        (fun other member =>
          (served other (List.mem_cons_of_mem _ member)).imp fun _ named =>
            ⟨named.1, first.serves named.2⟩)
        fun other member => dated other (List.mem_cons_of_mem _ member)
      exact ⟨others.tells, fun serves => others.serves (first.serves serves)⟩

/-- The texts of moments are in the order of the moments. So documents are listed in the order in
which they were stored last, by whatever calls and at whatever times, and the last time of a scan
is that of the latest among the last records of roots. -/
theorem listed_in_order_of_moments {calls : List TimedCall} (tells : archive.Tells seat chronicle)
    (served : ∀ timed ∈ calls, ∃ store, timed.call.user? = some store ∧ archive.Serves seat store)
    (dated : ∀ timed ∈ calls, timed.moment.Dated) :
    (∀ first second : Instant, first.Dated → second.Dated → first.micros < second.micros →
      first.toText < second.toText ∧
        first.toText.length = if first.micros % 1000000 = 0 then 25 else 32) ∧
    let after := calls.foldl TimedCall.perform archive
    let known := calls.foldl Chronicle.after chronicle
    ∃ documents, known.Lists documents ∧
      ∀ store, archive.Serves seat store → ∀ thread,
        (∀ limit ≤ greatestLimit, (after.listDocuments store thread limit).1 =
          .ok (if limit ≤ 0 then documents else documents.take limit.toNat)) ∧
        ∃ stats, (after.stats store thread).1 = .ok stats ∧
          (∀ text, stats.lastIndexed? = some text ↔
            ∃ moment, known.Latest moment ∧ text = moment.toText) ∧
          (stats.lastIndexed? = none ↔ ∀ root, known.scanned root = none) := by
  refine ⟨fun first second firstDated secondDated inOrder =>
    ⟨Instant.toText_lt inOrder firstDated secondDated, Instant.length_toText firstDated⟩, ?_⟩
  intro after known
  have goes := tells.foldl served dated
  obtain ⟨maps, realizes, dates⟩ := goes.tells.dates
  refine ⟨maps.newest, dates.lists, ?_⟩
  intro store serves thread
  have serving := goes.serves serves
  have keeps := goes.tells.keeps store
  have shown : seat.shown ⟨(after.database seat.number).committed, none, after.clock⟩ =
      (after.database seat.number).committed := by
    unfold Seat.shown
    split <;> rfl
  constructor
  · intro limit small
    obtain ⟨reached, asked, _⟩ :=
      keeps.query serving (fun _ => rfl) thread .listDocuments (·.documents limit)
    rw [shown, realizes.documents limit] at asked
    unfold Archive.listDocuments
    rw [asked]
    simp only [Except.mapError, if_neg (not_lt.mpr small), IndexMaps.listed]
  · obtain ⟨reached, asked, _⟩ := keeps.query serving (fun _ => rfl) thread .stats Tables.stats
    rw [shown, realizes.stats] at asked
    refine ⟨maps.stats, ?_, dates.latest_iff, dates.unscanned_iff⟩
    unfold Archive.stats
    rw [asked]
    rfl

/-! A store in memory, whose clock is set back between its calls. -/

def exampleDesk : Archive := (exampleWork.openStore (.ofString ":memory:")).2

def exampleEntries : List TimedCall :=
  [⟨⟨1500000, 0⟩, .upsert 0 "/b" (some "b") ["b"] (some "1")⟩,
    ⟨⟨1000000, 0⟩, .upsert 0 "/c" (some "c") ["c"] (some "2")⟩,
    ⟨⟨1500000, 0⟩, .upsert 0 "/a" (some "a") ["a"] (some "3")⟩,
    ⟨⟨2000000, 0⟩, .recordRoot 0 "/r"⟩, ⟨⟨0, 0⟩, .recordRoot 0 "/s"⟩,
    ⟨⟨-1, 0⟩, .recordRoot 0 "/r"⟩]

theorem exampleDesk_serves : exampleDesk.Serves ⟨0, none⟩ 0 :=
  ⟨by decide +kernel, ⟨by decide +kernel, by decide +kernel, fun _ => by decide +kernel, nofun⟩⟩

theorem exampleDesk_tells : exampleDesk.Tells ⟨0, none⟩ .empty := by
  refine ⟨by decide +kernel, .empty, ?_, .empty⟩
  have made : (exampleDesk.database 0).committed = Tables.blank.ensure := by decide +kernel
  exact made ▸ Tables.blank_represents.ensure

theorem listed_in_order_with_clock_set_back :
    exampleDesk.Tells ⟨0, none⟩ .empty ∧
    (∀ timed ∈ exampleEntries, ∃ store, timed.call.user? = some store ∧
      exampleDesk.Serves ⟨0, none⟩ store) ∧
    (∀ timed ∈ exampleEntries, timed.moment.Dated) ∧
    let after := exampleEntries.foldl TimedCall.perform exampleDesk
    let known := exampleEntries.foldl Chronicle.after .empty
    ["/a", "/b", "/c", "/d"].map known.updated =
      [some ⟨1500000⟩, some ⟨1500000⟩, some ⟨1000000⟩, none] ∧
    (∃ documents, (after.listDocuments 0 0 0).1 = .ok documents ∧ known.Lists documents) ∧
    ∃ moment, known.Latest moment ∧ moment.toText = "1970-01-01T00:00:00+00:00" := by
  have served : ∀ timed ∈ exampleEntries, ∃ store, timed.call.user? = some store ∧
      exampleDesk.Serves ⟨0, none⟩ store := by
    intro timed member
    have user : timed.call.user? = some 0 := by
      revert timed
      decide
    exact ⟨0, user, exampleDesk_serves⟩
  have dated : ∀ timed ∈ exampleEntries, timed.moment.Dated := by decide +kernel
  obtain ⟨_, documents, lists, answers⟩ :=
    listed_in_order_of_moments exampleDesk_tells served dated
  obtain ⟨listed, stats, counted, latest, _⟩ := answers 0 exampleDesk_serves 0
  have found : ((exampleEntries.foldl TimedCall.perform exampleDesk).stats 0 0).1 =
      .ok ⟨3, 2, some "1970-01-01T00:00:00+00:00"⟩ := by
    decide +kernel
  rw [counted] at found
  obtain ⟨moment, last, text⟩ := (latest _).mp (congrArg (·.lastIndexed?) (Except.ok.inj found))
  exact ⟨exampleDesk_tells, served, dated, by decide +kernel,
    ⟨documents, listed 0 (by decide), lists⟩, moment, last, text.symm⟩

end Archive

end FolderIndex
