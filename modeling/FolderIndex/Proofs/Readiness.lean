import FolderIndex.Proofs.Operations
import FolderIndex.Proofs.Trees

namespace FolderIndex

/-! Stores that can be used: what is written through them is stored, and what a thread reads
through them is what is stored. -/

namespace Companion

theorem place_append (companion : Companion) (front : List String) (name : String) :
    companion.place (front ++ [name]) = front ++ [name ++ companion.ending] := by
  simp [Companion.place, Companion.name]

theorem append_ending_ne (companion : Companion) (name : String) :
    name ++ companion.ending ≠ name := by
  intro same
  have lengths := congrArg (fun text => text.toList.length) same
  cases companion <;> simp [Companion.ending] at lengths

end Companion

namespace FileTree

variable {tree : FileTree} {place : List String} {companion : Companion} {node : Node}
  {octets : List UInt8} {number : Nat}

/-! What is put beside a place makes no file of what is there. -/

theorem of_node?_putAt
    (filed : (tree.putAt (companion.place place) node).node? place = some (.file octets)) :
    tree.node? place = some (.file octets) := by
  rcases List.eq_nil_or_concat place with rfl | ⟨front, name, rfl⟩
  · cases filed
  · rw [List.concat_eq_append] at filed ⊢
    rw [companion.place_append] at filed
    exact (Node.at?_put_beside (companion.append_ending_ne name).symm).symm.trans filed

theorem of_node?_withLog (filed : (tree.withLog place number).node? place = some (.file octets)) :
    tree.node? place = some (.file octets) :=
  of_node?_putAt filed

theorem of_node?_withCompanions
    (filed : (tree.withCompanions place number).node? place = some (.file octets)) :
    tree.node? place = some (.file octets) := by
  unfold withCompanions putIfFree at filed
  split at filed
  · exact of_node?_withLog filed
  · exact of_node?_withLog (of_node?_putAt filed)

end FileTree

namespace Archive

variable {archive after : Archive} {store thread number : Nat} {connection : Connection}
  {place : List String} {mayWrite : Bool}

theorem isSpoiled_eq_false_iff :
    archive.isSpoiled connection = false ↔
      ∀ place octets, connection.place? = some place →
        archive.files.node? place = some (.file octets) →
          (archive.database connection.database).isAllInLog = true := by
  constructor
  · intro sound place octets placed filed
    cases all : (archive.database connection.database).isAllInLog with
    | true => rfl
    | false => simp [isSpoiled, placed, filed, all] at sound
  · intro sound
    unfold isSpoiled
    cases placed : connection.place? with
    | none => simp
    | some place =>
        rw [Option.any_some, Bool.and_eq_false_iff]
        split
        · rename_i octets filed
          have all := sound place octets placed filed
          simp [all]
        · exact .inr rfl

theorem connectFresh_sound (made : archive.connectFresh place mayWrite = (.ok connection, after)) :
    after.isSpoiled connection = false := by
  rw [isSpoiled_eq_false_iff]
  unfold connectFresh at made
  dsimp only at made
  split at made
  · cases made
  · split at made
    · cases made
    · cases made
      rintro _ octets ⟨⟩ filed
      have put := FileTree.of_node?_withCompanions filed
      have indexed := Node.at?_put (.index archive.databases.length)
        (archive.files.putIfFree place (.file [])).root place
      cases indexed.symm.trans put

/-- A connection to a database that something was written over is made only where its log sets
that right. -/
theorem connectPresent_sound
    (made : archive.connectPresent place mayWrite number = (.ok connection, after))
    (saved : ∀ octets, archive.files.node? place = some (.file octets) →
      archive.logged? place = some number) : after.isSpoiled connection = false := by
  rw [isSpoiled_eq_false_iff]
  unfold connectPresent at made
  split at made
  · cases made
  · cases made
    rintro _ octets ⟨⟩ filed
    have before : archive.files.node? place = some (.file octets) := by
      dsimp only at filed
      split at filed
      · exact FileTree.of_node?_withLog filed
      · exact FileTree.of_node?_withCompanions filed
    obtain ⟨beside, all⟩ := Option.filter_eq_some_iff.mp (saved octets before)
    have logged : archive.lacksLog place number = false := by simp [lacksLog, beside]
    have present : number < archive.databases.length := by
      by_cases present : number < archive.databases.length
      · exact present
      · have absent : archive.database number = .empty := by
          simp [Archive.database, List.getD_eq_getElem?_getD,
            List.getElem?_eq_none (Nat.le_of_not_lt present)]
        rw [absent] at all
        contradiction
    have found : (archive.setDatabase number (archive.database number)).database number =
        archive.database number := database_setDatabase_self present
    simp only [logged, Bool.false_eq_true, if_false]
    exact (congrArg Database.isAllInLog found).trans all

theorem connectPlace_sound {access : Access} {fixed : Bool}
    (made : archive.connectPlace place access fixed = (.ok connection, after)) :
    after.isSpoiled connection = false := by
  unfold connectPlace at made
  dsimp only at made
  split at made
  · split at made
    · exact connectFresh_sound made
    · cases made
  · rename_i indexed
    split at made
    · cases made
      simp [isSpoiled]
    · refine connectPresent_sound made fun octets filed => ?_
      rw [indexed] at filed
      cases filed
  · split at made
    · split at made
      · cases made
      · exact connectFresh_sound made
    · split at made
      · rename_i logged
        exact connectPresent_sound made fun _ _ => logged
      · cases made
  · cases made

/-- Where a database that goes by a name of its own and not by a location lies in no file. -/
def KeepsCommonApart (archive : Archive) : Prop :=
  ∀ handle ∈ archive.handles, ∀ name, handle.address = .common name → handle.writer.place? = none

theorem isSpoiled_of_place?_eq_none (nowhere : connection.place? = none) :
    archive.isSpoiled connection = false := by
  simp [isSpoiled, nowhere]

/-- A new connection is not to a file that something was written over. -/
theorem connect_sound (apart : archive.KeepsCommonApart) {address : Address}
    (made : archive.connect address = (.ok connection, after)) :
    after.isSpoiled connection = false := by
  cases address with
  | memory =>
      cases made
      exact isSpoiled_of_place?_eq_none rfl
  | apart access =>
      cases made
      exact isSpoiled_of_place?_eq_none rfl
  | common name =>
      simp only [connect] at made
      split at made
      · rename_i handle found
        cases made
        have common : handle.address = .common name := by
          have both := List.find?_some found
          simp only [Bool.and_eq_true, decide_eq_true_eq] at both
          exact both.2
        exact isSpoiled_of_place?_eq_none
          (apart handle (List.mem_of_find?_eq_some found) name common)
      · cases made
        exact isSpoiled_of_place?_eq_none rfl
  | file location access fixed =>
      simp only [connect] at made
      split at made
      · exact connectPlace_sound made
      · cases made

/-- A store that can be written through: it is open, nothing is pending, and it may write into its
file, over which nothing was written. -/
structure Writable (archive : Archive) (store : Nat) : Prop where
  opened : (archive.handle store).closed = false
  present : (archive.handle store).writer.database < archive.databases.length
  idle : (archive.databaseOf store).pending? = none
  allowed : (archive.handle store).writer.readOnly = false
  sound : archive.isSpoiled (archive.handle store).writer = false

/-- A store that can be written through, and that a thread has read through. -/
structure Ready (archive : Archive) (store thread : Nat) : Prop extends archive.Writable store where
  reader : (archive.handle store).address = .memory ∨ ∃ connection,
    (archive.handle store).readers.lookup thread = some connection ∧
      connection.database = (archive.handle store).writer.database ∧
      archive.isSpoiled connection = false

variable {α : Type} {change : Tables → Except DatabaseFault (α × Tables)} {tables : Tables}

/-- The archive when a transaction of a store has committed some tables. -/
def storing (archive : Archive) (store : Nat) (tables : Tables) : Archive :=
  archive.setDatabaseOf store ⟨(archive.databaseOf store).saved, some tables, none⟩

theorem databaseOf_storing (writable : archive.Writable store) :
    (archive.storing store tables).databaseOf store =
      ⟨(archive.databaseOf store).saved, some tables, none⟩ :=
  databaseOf_setDatabaseOf writable.present

theorem committed_storing (writable : archive.Writable store) :
    (archive.storing store tables).committed store = tables := by
  rw [committed, databaseOf_storing writable]
  rfl

/-- A log that grows makes no file worse. -/
theorem isSpoiled_storing (writable : archive.Writable store)
    (sound : archive.isSpoiled connection = false) :
    (archive.storing store tables).isSpoiled connection = false := by
  rw [isSpoiled_eq_false_iff] at sound ⊢
  intro place octets placed filed
  have all := sound place octets placed filed
  by_cases same : connection.database = (archive.handle store).writer.database
  · rw [same] at all ⊢
    change ((archive.storing store tables).databaseOf store).isAllInLog = true
    rw [databaseOf_storing writable]
    unfold Database.isAllInLog at all ⊢
    simp only [Bool.and_eq_true] at all ⊢
    exact ⟨rfl, all.2⟩
  · have kept : (archive.storing store tables).database connection.database =
        archive.database connection.database :=
      database_setDatabase_ne fun equal => same equal.symm
    rw [kept]
    exact all

theorem Writable.storing (writable : archive.Writable store) (tables : Tables) :
    (archive.storing store tables).Writable store where
  opened := writable.opened
  present := by
    have length : (archive.storing store tables).databases.length = archive.databases.length :=
      List.length_set
    rw [length]
    exact writable.present
  idle := by rw [databaseOf_storing writable]
  allowed := writable.allowed
  sound := isSpoiled_storing writable writable.sound

theorem Ready.storing (ready : archive.Ready store thread) (tables : Tables) :
    (archive.storing store tables).Ready store thread := by
  refine ⟨ready.toWritable.storing tables, ready.reader.imp_right ?_⟩
  rintro ⟨connection, found, same, sound⟩
  exact ⟨connection, found, same, isSpoiled_storing ready.toWritable sound⟩

theorem Ready.stamp (ready : archive.Ready store thread) : archive.stamp.2.Ready store thread :=
  ⟨⟨ready.opened, ready.present, ready.idle, ready.allowed, ready.sound⟩, ready.reader⟩

theorem Ready.linked (ready : archive.Ready store thread) : archive.Linked store thread := by
  refine ⟨ready.opened, ready.present, ready.idle, ready.reader.imp_right ?_⟩
  rintro ⟨connection, found, same, _⟩
  exact ⟨connection, found, same⟩

/-- A transaction through a store that can be written through does its change, or fails as that
does and leaves all as it is. -/
theorem transact_of_writable (writable : archive.Writable store) :
    archive.transact store change =
      match change (archive.committed store) with
      | .ok (value, tables) => (.ok value, archive.storing store tables)
      | .error fault => (.error fault, archive) := by
  have opened : ¬ (archive.handle store).closed = true := by simp [writable.opened]
  have sound : ¬ archive.isSpoiled (archive.handle store).writer = true := by
    simp [writable.sound]
  have allowed : ¬ (archive.handle store).writer.readOnly = true := by simp [writable.allowed]
  unfold transact changing
  dsimp only
  rw [if_neg opened, if_neg sound, if_neg allowed]
  cases changed : change (archive.committed store) with
  | error fault =>
      rw [Database.transact_of_error writable.idle changed]
      have same : archive.setDatabaseOf store (archive.databaseOf store) = archive :=
        setDatabase_self
      dsimp only
      rw [same]
  | ok result =>
      obtain ⟨value, tables⟩ := result
      rw [Database.transact_of_ok writable.idle changed]
      rfl

theorem reading_of_ready (ready : archive.Ready store thread) (operation : StoreOperation) :
    archive.reading store thread operation = (.ok (archive.committed store), archive) := by
  have opened : ¬ (archive.handle store).closed = true := by simp [ready.opened]
  unfold reading
  dsimp only
  by_cases memory : (archive.handle store).address = .memory
  · have seen : (archive.databaseOf store).seenBy store = .ok (archive.committed store) := by
      simp [Database.seenBy, ready.idle, committed]
    rw [if_pos memory, if_neg opened, seen]
  · obtain ⟨connection, found, same, sound⟩ := ready.reader.resolve_left memory
    rw [if_neg memory]
    have made : archive.reader store thread operation = (.ok connection, archive) := by
      unfold reader
      simp [found, ready.opened, sound]
    rw [made]
    dsimp only
    rw [same]
    rfl

theorem query_of_ready (ready : archive.Ready store thread) (operation : StoreOperation)
    (ask : Tables → Except DatabaseFault α) :
    archive.query store thread operation ask =
      match ask (archive.committed store) with
      | .ok value => (.ok value, archive)
      | .error fault => (.error (.store (.refused operation fault)), archive) := by
  have read := reading_of_ready ready operation
  cases answer : ask (archive.committed store) <;> simp [query, read, answer]

/-- An operation of a store that went through can be followed by others. -/
theorem writable_of_transact (linked : archive.Linked store thread) {value : α}
    (done : archive.transact store change = (.ok value, after)) :
    archive.Writable store := by
  have opened : ¬ (archive.handle store).closed = true := by simp [linked.opened]
  unfold transact changing at done
  dsimp only at done
  rw [if_neg opened] at done
  split at done
  · cases done
  · rename_i sound
    split at done
    · cases done
    · rename_i allowed
      exact ⟨linked.opened, linked.present, linked.idle, by simpa using allowed,
        by simpa using sound⟩

theorem isSpoiled_withReader {new : Connection}
    (databases : (archive.withReader store thread new).databases = archive.databases) :
    (archive.withReader store thread new).isSpoiled connection = archive.isSpoiled connection := by
  have files : (archive.withReader store thread new).files = archive.files := by
    unfold withReader
    dsimp only
    split <;> rfl
  simp only [isSpoiled, Archive.database, files, databases]

theorem sound_of_reader_new (apart : archive.KeepsCommonApart)
    (own : archive.ReadsOwnWrites store thread) (opened : (archive.handle store).closed = false)
    {operation : StoreOperation} (file : (archive.handle store).address ≠ .memory)
    (missing : (archive.handle store).readers.lookup thread = none)
    (made : archive.reader store thread operation = (.ok connection, after)) :
    after.isSpoiled connection = false ∧
      (after.handle store).readers.lookup thread = some connection := by
  unfold reader at made
  simp only [missing, opened, Bool.false_eq_true, if_false] at made
  have spares := connect_spares own.present (isInUse_of_opened opened)
    (archive.handle store).address
  cases connected : archive.connect (archive.handle store).address with
  | mk result between =>
      rw [connected] at made spares
      cases result with
      | error fault => cases made
      | ok new =>
          cases made
          have handles : between.handles = archive.handles := spares.handles
          have sameHandle : between.handle store = archive.handle store := by
            simp only [handle, handles]
          have openedBetween : (between.handle store).closed = false := by rw [sameHandle, opened]
          have leads : connection.database = (between.handle store).writer.database ∨
              connection.place? = none := by
            rw [sameHandle]
            exact (own.fresh file missing connected).imp_right And.left
          refine ⟨?_, by simp [handle_withReader thread connection openedBetween]⟩
          rw [isSpoiled_withReader (databases_withReader leads)]
          exact connect_sound apart connected

/-- A connection that a thread has just read through is not to a file that something was written
over. -/
theorem sound_of_reading
    (apart : (archive.handle store).readers.lookup thread = none → archive.KeepsCommonApart)
    (own : archive.ReadsOwnWrites store thread) (opened : (archive.handle store).closed = false)
    {operation : StoreOperation} (read : archive.reading store thread operation = (.ok tables, after))
    (file : (archive.handle store).address ≠ .memory)
    (found : (after.handle store).readers.lookup thread = some connection) :
    after.isSpoiled connection = false := by
  unfold reading at read
  dsimp only at read
  rw [if_neg file] at read
  cases made : archive.reader store thread operation with
  | mk result reached =>
      rw [made] at read
      cases result with
      | error failure => cases read
      | ok given =>
          cases read
          cases known : (archive.handle store).readers.lookup thread with
          | none =>
              obtain ⟨sound, same⟩ := sound_of_reader_new (apart known) own opened file known made
              rw [same] at found
              cases found
              exact sound
          | some old =>
              unfold reader at made
              simp only [known, opened, Bool.false_eq_true, if_false] at made
              split at made
              · cases made
              · rename_i sound
                cases made
                rw [known] at found
                cases found
                simpa using sound

/-- A store that a thread has read through, over whose file nothing was written as far as its
reading shows. -/
structure Met (archive : Archive) (store thread : Nat) : Prop extends archive.Linked store thread where
  sound : (archive.handle store).address ≠ .memory → ∀ {connection},
    (archive.handle store).readers.lookup thread = some connection →
      archive.isSpoiled connection = false

theorem Ready.met (ready : archive.Ready store thread) : archive.Met store thread := by
  refine ⟨ready.linked, ?_⟩
  intro file connection found
  obtain ⟨own, ownFound, _, sound⟩ := ready.reader.resolve_left file
  rw [ownFound] at found
  cases found
  exact sound

/-- Where a transaction goes through, the store can be used before and after it. -/
theorem Met.of_transact (met : archive.Met store thread) {value : α}
    (done : archive.transact store change = (.ok value, after)) :
    archive.Ready store thread ∧ after.Ready store thread := by
  have writable := writable_of_transact met.toLinked done
  have ready : archive.Ready store thread := by
    refine ⟨writable, ?_⟩
    by_cases memory : (archive.handle store).address = .memory
    · exact .inl memory
    · obtain ⟨connection, found, same⟩ := met.reader.resolve_left memory
      exact .inr ⟨connection, found, same, met.sound memory found⟩
  refine ⟨ready, ?_⟩
  rw [transact_of_writable writable] at done
  split at done <;> cases done
  exact ready.storing _

theorem reading_of_query {operation : StoreOperation} {ask : Tables → Except DatabaseFault α}
    {value : α} (asked : archive.query store thread operation ask = (.ok value, after)) :
    ∃ tables, archive.reading store thread operation = (.ok tables, after) ∧
      ask tables = .ok value := by
  unfold query at asked
  split at asked
  · cases asked
  · rename_i tables reached read
    split at asked <;> cases asked
    exact ⟨tables, read, ‹_›⟩

theorem met_of_reading (dependable : archive.Dependable store thread)
    (apart : (archive.handle store).address ≠ .memory →
      (archive.handle store).readers.lookup thread = none → archive.KeepsCommonApart)
    {operation : StoreOperation} (read : archive.reading store thread operation = (.ok tables, after))
    (linked : after.Linked store thread) : after.Met store thread := by
  refine ⟨linked, ?_⟩
  by_cases closed : (archive.handle store).closed = true
  · obtain ⟨cause, refused, _⟩ := reading_of_closed closed thread operation
    rw [refused] at read
    cases read
  · have opened : (archive.handle store).closed = false := by simpa using closed
    have own : archive.ReadsOwnWrites store thread := dependable.resolve_left closed
    intro file connection found
    by_cases memory : (archive.handle store).address = .memory
    · unfold reading at read
      dsimp only at read
      rw [if_pos memory, if_neg closed] at read
      split at read <;> cases read
      exact absurd memory file
    · exact sound_of_reading (apart memory) own opened read memory found

theorem named_eq_ok {operation : StoreOperation} {outcome : Except DatabaseFault α × Archive}
    {value : α} : named operation outcome = (.ok value, after) ↔ outcome = (.ok value, after) := by
  obtain ⟨result, reached⟩ := outcome
  cases result <;> simp [named]

theorem Met.stamp (met : archive.Met store thread) : archive.stamp.2.Met store thread :=
  ⟨met.toLinked.stamp, met.sound⟩

theorem Met.of_delete (met : archive.Met store thread) {path : String} {removed : Bool}
    (done : archive.delete store path = (.ok removed, after)) : after.Ready store thread := by
  unfold delete at done
  split at done
  · cases done
  · exact (met.of_transact (named_eq_ok.mp done)).2

theorem solid_of_recordRoot {root : String}
    (done : archive.recordRoot store root = (.ok (), after)) : Text.isBlankText root = false := by
  unfold recordRoot at done
  split at done
  · cases done
  · rename_i solid
    simpa using solid

theorem Met.of_recordRoot (met : archive.Met store thread) {root : String}
    (done : archive.recordRoot store root = (.ok (), after)) : after.Ready store thread := by
  have solid := solid_of_recordRoot done
  unfold recordRoot at done
  rw [if_neg (by simp [solid])] at done
  exact (met.stamp.of_transact (named_eq_ok.mp done)).2

end Archive

end FolderIndex
