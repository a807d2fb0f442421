import FolderIndex.Proofs.DatabaseFiles
import Mathlib.Data.List.GetD

namespace FolderIndex

/-! Stores on the database in one place: opened, read, written to and closed in any order, they
keep its file and its log where they look for them. -/

namespace FileTree

variable {tree other : FileTree} {place : List String} {number : Nat} {target : Location}

theorem Clear.blockade?_eq_none (clear : tree.Clear place) :
    Archive.blockade? tree place = none := by
  have journal := clear.not_isDirectoryAt (companion_mem_spots .journal place)
  have log := clear.not_isDirectoryAt (companion_mem_spots .log place)
  simp [Archive.blockade?, journal, log]

theorem Clear.obstacle?_eq_none (clear : tree.Clear place) :
    Archive.obstacle? tree place = none := by
  have journal := clear.not_isDirectoryAt (companion_mem_spots .journal place)
  have log := clear.not_isDirectoryAt (companion_mem_spots .log place)
  have links := fun companion => clear.not_isLinkAt (companion_mem_spots companion place)
  have short := clear.short
  simp [Archive.obstacle?, journal, log, links, short]

/-- The name of a log is shorter than that of a journal. -/
theorem Clear.log_short (clear : tree.Clear place) :
    (Companion.log.name place).utf8ByteSize ≤ nameLimit := by
  refine Nat.le_trans ?_ clear.short
  simp only [Companion.name, Companion.ending, String.utf8ByteSize_append]
  exact Nat.add_le_add_left (by decide) _

end FileTree

theorem Tables.ensure_of_isComplete {tables : Tables} (complete : tables.isComplete = true) :
    tables.ensure = tables := by
  obtain ⟨entries?, roots?⟩ := tables
  simp only [isComplete, Bool.and_eq_true, Option.isSome_iff_exists] at complete
  obtain ⟨⟨table, rfl⟩, rows, rfl⟩ := complete
  rfl

/-- An open store on the database in a place, whose log lies beside it. -/
structure Handle.On (handle : Handle) (files : FileTree) (place : List String) (number : Nat) :
    Prop where
  address : ∃ target, handle.address = .file target .create false ∧ files.LeadsTo target place
  writer : handle.writer = ⟨number, some place, false⟩
  readers : ∀ reader ∈ handle.readers, reader.2 = ⟨number, some place, false⟩
  logged : files.loggedBeside? place = some number

theorem Handle.On.becomes {handle : Handle} {files others : FileTree} {place : List String}
    {number : Nat} (on : handle.On files place number) (becomes : files.Becomes place others)
    (houses : others.Houses place number) : handle.On others place number := by
  obtain ⟨target, address, leads⟩ := on.address
  exact ⟨⟨target, address, leads.becomes becomes⟩, on.writer, on.readers, houses.logged⟩

namespace Archive

variable {α : Type} {archive : Archive} {place : List String} {number store thread : Nat}
  {target : Location} {tables : Tables}

/-- A database in its place, on which all stores are that are open. Nothing is pending, and if
its log does not lie beside it, then there is none. -/
structure Hosts (archive : Archive) (place : List String) (number : Nat) (tables : Tables) :
    Prop where
  clear : archive.files.Clear place
  indexed : archive.files.node? place = some (.index number)
  present : number < archive.databases.length
  idle : (archive.database number).pending? = none
  committed : (archive.database number).committed = tables
  whole : archive.lacksLog place number = false
  opened : ∀ handle ∈ archive.handles, handle.closed = false → handle.On archive.files place number

theorem not_isSpoiled_of_indexed (indexed : archive.files.node? place = some (.index number)) :
    archive.isSpoiled ⟨number, some place, false⟩ = false := by
  rw [isSpoiled_eq_false_iff]
  rintro _ octets ⟨⟩ filed
  rw [indexed] at filed
  cases filed

theorem Hosts.not_isSpoiled (hosts : archive.Hosts place number tables) :
    archive.isSpoiled ⟨number, some place, false⟩ = false :=
  not_isSpoiled_of_indexed hosts.indexed

/-- Nothing keeps a connection from a database whose log lies beside it, or that has none. -/
theorem hindrance?_eq_none (clear : archive.files.Clear place)
    (whole : archive.lacksLog place number = false) :
    archive.hindrance? place number = none := by
  have links := fun companion =>
    clear.not_isLinkAt (FileTree.companion_mem_spots companion place)
  have short := clear.log_short
  simp [hindrance?, clear.blockade?_eq_none, links, short, whole]

theorem not_lacksLog_of_houses (houses : archive.files.Houses place number) :
    archive.lacksLog place number = false := by
  simp [lacksLog, houses.logged]

/-- A new connection leads to the database in a place, and its log is beside it then. -/
theorem connect_of_indexed (clear : archive.files.Clear place)
    (indexed : archive.files.node? place = some (.index number))
    (whole : archive.lacksLog place number = false) (leads : archive.files.LeadsTo target place) :
    ∃ files, archive.connect (.file target .create false) =
        (.ok ⟨number, some place, false⟩, { archive with files := files }) ∧
      archive.files.Becomes place files ∧ files.Houses place number := by
  have led := leads _ clear.becomes_self
  have taken := clear.not_isDirectoryAt (FileTree.companion_mem_spots .logIndex place)
  have made : archive.connect (.file target .create false) =
      (.ok ⟨number, some place, false⟩,
        { archive with
          files := if archive.isInUse number then archive.files.withLog place number
            else archive.files.withCompanions place number }) := by
    simp only [Archive.connect, led, connectPlace, indexed, connectPresent,
      hindrance?_eq_none clear whole, whole, taken, Bool.false_eq_true, if_false, setDatabase_self]
    rfl
  refine ⟨_, made, ?_⟩
  split
  · exact ⟨clear.becomes_withLog, clear.houses_withLog indexed⟩
  · exact ⟨clear.becomes_withCompanions, clear.houses_withCompanions indexed⟩

theorem Hosts.connect (hosts : archive.Hosts place number tables)
    (leads : archive.files.LeadsTo target place) :
    ∃ files, archive.connect (.file target .create false) =
        (.ok ⟨number, some place, false⟩, { archive with files := files }) ∧
      archive.files.Becomes place files ∧ files.Houses place number :=
  connect_of_indexed hosts.clear hosts.indexed hosts.whole leads

/-- The files of the database may change, and stores may come and go, as long as what is open is
on the database. -/
theorem Hosts.with_files (hosts : archive.Hosts place number tables) {files : FileTree}
    {handles : List Handle} (becomes : archive.files.Becomes place files)
    (houses : files.Houses place number)
    (opened : ∀ handle ∈ handles, handle.closed = false → handle.On files place number) :
    Hosts { archive with files := files, handles := handles } place number tables where
  clear := hosts.clear.becomes becomes
  indexed := houses.indexed
  present := hosts.present
  idle := hosts.idle
  committed := hosts.committed
  whole := not_lacksLog_of_houses houses
  opened := opened

/-! Reading and writing. -/

theorem Hosts.on (hosts : archive.Hosts place number tables)
    (open' : (archive.handle store).closed = false) :
    (archive.handle store).On archive.files place number :=
  hosts.opened _ (mem_handles_of_opened open') open'

theorem Hosts.idleOf (hosts : archive.Hosts place number tables)
    (open' : (archive.handle store).closed = false) :
    (archive.databaseOf store).pending? = none := by
  rw [databaseOf, (hosts.on open').writer]
  exact hosts.idle

theorem withReader_own {connection : Connection}
    (own : connection.database = (archive.handle store).writer.database) :
    archive.withReader store thread connection =
      archive.setHandle store { archive.handle store with
        readers := (thread, connection) :: (archive.handle store).readers } := by
  simp [withReader, own]

/-- Whether a store is closed, by the list of whether each is. -/
theorem closed_handle (archive : Archive) (store : Nat) :
    (archive.handle store).closed = (archive.handles.map (·.closed)).getD store true :=
  (List.getD_map _ _ Handle.closed).symm

/-- Which stores are closed does not depend on who reads through them. -/
theorem map_closed_setHandle {handle : Handle}
    (same : handle.closed = (archive.handle store).closed) :
    (archive.setHandle store handle).handles.map (·.closed) =
      archive.handles.map (·.closed) := by
  have kept : (archive.setHandle store (archive.handle store)).handles = archive.handles := by
    rw [setHandle_self]
  rw [← kept]
  simp only [setHandle, List.map_set, same]

/-- What a call leaves behind that does not look at the clock: the database with some tables, and
the stores, of which some are closed. Elsewhere in the tree everything is as it was. -/
structure Leaves (archive : Archive) (place : List String) (number : Nat) (tables : Tables)
    (closed : List Bool) (after : Archive) : Prop where
  hosts : after.Hosts place number tables
  becomes : archive.files.Becomes place after.files
  closed : after.handles.map (·.closed) = closed
  clock : after.clock = archive.clock

/-- A thread reads what is committed. -/
theorem Hosts.reading (hosts : archive.Hosts place number tables)
    (open' : (archive.handle store).closed = false) (thread : Nat) (operation : StoreOperation) :
    ∃ after, archive.reading store thread operation = (.ok tables, after) ∧
      archive.Leaves place number tables (archive.handles.map (·.closed)) after := by
  have on := hosts.on open'
  obtain ⟨target, address, leads⟩ := on.address
  have apart : ¬ (archive.handle store).address = .memory := by simp [address]
  cases found : (archive.handle store).readers.lookup thread with
  | some connection =>
      have same : connection = ⟨number, some place, false⟩ := by
        obtain ⟨before, later, split, _⟩ := List.lookup_eq_some_iff.mp found
        exact on.readers (thread, connection) (by simp [split])
      subst same
      refine ⟨archive, ?_, ⟨hosts, hosts.clear.becomes_self, rfl, rfl⟩⟩
      simp [Archive.reading, apart, reader, found, open', hosts.not_isSpoiled, hosts.committed]
  | none =>
      obtain ⟨files, made, becomes, houses⟩ := hosts.connect leads
      let connected : Archive := { archive with files := files }
      let new : Handle := { archive.handle store with
        readers := (thread, ⟨number, some place, false⟩) :: (archive.handle store).readers }
      have known : connected.withReader store thread ⟨number, some place, false⟩ =
          connected.setHandle store new := withReader_own (by rw [← on.writer]; rfl)
      have given : archive.reader store thread operation =
          (.ok ⟨number, some place, false⟩, connected.setHandle store new) := by
        simp [reader, found, open', address, made, ← known, connected]
      refine ⟨connected.setHandle store new, ?_, ⟨?_, becomes, map_closed_setHandle rfl, rfl⟩⟩
      · have same : ((connected.setHandle store new).database number).committed = tables :=
          hosts.committed
        simp [Archive.reading, apart, given, same]
      · refine hosts.with_files becomes houses ?_
        intro handle member openHandle
        rcases List.mem_or_eq_of_mem_set member with old | rfl
        · exact (hosts.opened handle old openHandle).becomes becomes houses
        · refine ⟨⟨target, address, leads.becomes becomes⟩, on.writer, ?_, houses.logged⟩
          intro reader readerMember
          rcases List.mem_cons.mp readerMember with rfl | old
          · rfl
          · exact on.readers reader old

theorem Hosts.writable (hosts : archive.Hosts place number tables)
    (open' : (archive.handle store).closed = false) : archive.Writable store := by
  have on := hosts.on open'
  refine ⟨open', ?_, ?_, ?_, ?_⟩
  · rw [on.writer]
    exact hosts.present
  · unfold databaseOf
    rw [on.writer]
    exact hosts.idle
  · rw [on.writer]
  · rw [on.writer]
    exact hosts.not_isSpoiled

theorem Hosts.storing (hosts : archive.Hosts place number tables)
    (open' : (archive.handle store).closed = false) (after : Tables) :
    archive.Leaves place number after (archive.handles.map (·.closed))
      (archive.storing store after) := by
  have on := hosts.on open'
  have own : (archive.storing store after).database number =
      ⟨(archive.databaseOf store).saved, some after, none⟩ := by
    have same : (archive.handle store).writer.database = number := by rw [on.writer]
    rw [← same]
    exact databaseOf_storing (hosts.writable open')
  refine ⟨⟨hosts.clear, hosts.indexed, ?_, ?_, ?_, ?_, hosts.opened⟩,
    hosts.clear.becomes_self, rfl, rfl⟩
  · have length : (archive.storing store after).databases.length = archive.databases.length :=
      List.length_set
    rw [length]
    exact hosts.present
  · rw [own]
  · rw [own]
    rfl
  · exact not_lacksLog_of_houses ⟨hosts.indexed, on.logged⟩

/-- A transaction of an open store changes what is committed, or fails as its change does. -/
theorem Hosts.transact (hosts : archive.Hosts place number tables)
    (open' : (archive.handle store).closed = false)
    (change : Tables → Except DatabaseFault (α × Tables)) :
    archive.transact store change =
      match change tables with
      | .ok (value, after) => (.ok value, archive.storing store after)
      | .error fault => (.error fault, archive) := by
  have own : archive.committed store = tables := by
    unfold Archive.committed databaseOf
    rw [(hosts.on open').writer]
    exact hosts.committed
  cases changed : change tables <;> simp [transact_of_writable (hosts.writable open'), own, changed]

/-! Opening and closing. -/

/-- A new store is on the database, whose tables are made if they are missing. -/
theorem Hosts.attach (hosts : archive.Hosts place number tables)
    (houses : archive.files.Houses place number) (leads : archive.files.LeadsTo target place) :
    ∃ after, archive.attach (.file target .create false) ⟨number, some place, false⟩ =
        (.ok archive.handles.length, after) ∧
      archive.Leaves place number tables.ensure (archive.handles.map (·.closed) ++ [false])
        after := by
  let new : Handle := ⟨.file target .create false, ⟨number, some place, false⟩, [], false⟩
  let grown : Archive := { archive with handles := archive.handles ++ [new] }
  have newHandle : grown.handle archive.handles.length = new := by
    simp [Archive.handle, grown]
  have hostsGrown : grown.Hosts place number tables := by
    refine hosts.with_files hosts.clear.becomes_self houses ?_
    intro handle member openHandle
    rcases List.mem_append.mp member with old | fresh
    · exact hosts.opened handle old openHandle
    · rw [List.mem_singleton.mp fresh]
      exact ⟨⟨target, rfl, leads⟩, rfl, by simp [new], houses.logged⟩
  have closed : grown.handles.map (·.closed) = archive.handles.map (·.closed) ++ [false] := by
    simp [grown, new]
  have found : (grown.database number).committed = tables := hosts.committed
  unfold Archive.attach
  dsimp only
  rw [found]
  by_cases complete : tables.isComplete = true
  · refine ⟨grown, if_pos complete, ⟨?_, hosts.clear.becomes_self, closed, rfl⟩⟩
    rw [Tables.ensure_of_isComplete complete]
    exact hostsGrown
  · have open' : (grown.handle archive.handles.length).closed = false := by rw [newHandle]
    have ensured := hostsGrown.transact open' fun tables => .ok ((), tables.ensure)
    obtain ⟨hosts, becomes, sameClosed, clock⟩ := hostsGrown.storing open' tables.ensure
    refine ⟨grown.storing archive.handles.length tables.ensure, ?_, ⟨hosts, becomes, ?_, clock⟩⟩
    · rw [if_neg complete, ensured]
    · rw [sameClosed, closed]

variable {location : Location}

theorem openStore_of_names (names : archive.files.Names location place) :
    ∃ target, archive.files.LeadsTo target place ∧ archive.openStore location =
      named (.openAt location.toString) (archive.openAddress (.file target .create false)) := by
  obtain ⟨noNull, target, address, leads⟩ := names
  refine ⟨target, leads, ?_⟩
  simp [Archive.openStore, noNull, address]

theorem Hosts.openStore (hosts : archive.Hosts place number tables)
    (names : archive.files.Names location place) :
    ∃ after, archive.openStore location = (.ok archive.handles.length, after) ∧
      archive.Leaves place number tables.ensure (archive.handles.map (·.closed) ++ [false])
        after := by
  obtain ⟨target, leads, opening⟩ := openStore_of_names names
  obtain ⟨files, made, becomes, houses⟩ := hosts.connect leads
  have connected : Hosts { archive with files := files } place number tables :=
    hosts.with_files becomes houses fun handle member openHandle =>
      (hosts.opened handle member openHandle).becomes becomes houses
  obtain ⟨after, attached, left⟩ := connected.attach houses (leads.becomes becomes)
  refine ⟨after, ?_, ⟨left.hosts, becomes.trans left.becomes, left.closed, left.clock⟩⟩
  rw [opening, openAddress, made]
  exact named_eq_ok.mpr attached

/-- A store is open when it was just opened. -/
theorem Leaves.opened_last {closed : List Bool} {after : Archive}
    (leaves : archive.Leaves place number tables (closed ++ [false]) after) :
    (after.handle closed.length).closed = false := by
  rw [closed_handle, leaves.closed]
  simp

/-- A place with no database yet, where one can be made, and no stores. -/
structure Vacant (archive : Archive) (place : List String) : Prop where
  clear : archive.files.Clear place
  free : ∀ node, archive.files.node? place = some node → ∃ octets, node = .file octets ∧
    octets.length ≤ 1
  handles : archive.handles = []

/-- The first store makes the database. -/
theorem Vacant.openStore (vacant : archive.Vacant place)
    (names : archive.files.Names location place) :
    ∃ number after, archive.openStore location = (.ok 0, after) ∧
      archive.Leaves place number Tables.blank.ensure [false] after := by
  obtain ⟨target, leads, opening⟩ := openStore_of_names names
  let number := archive.databases.length
  let emptied := archive.files.putIfFree place (.file [])
  let files := (emptied.putAt place (.index number)).withCompanions place number
  let made : Archive :=
    { archive with files := files, databases := archive.databases ++ [.empty] }
  have becomesEmpty : archive.files.Becomes place emptied :=
    vacant.clear.becomes_putIfFree (FileTree.self_mem_spots place) rfl
  have clearEmpty := vacant.clear.becomes becomesEmpty
  have becomesPut : emptied.Becomes place (emptied.putAt place (.index number)) :=
    clearEmpty.becomes_putAt (FileTree.self_mem_spots place) rfl
  have clearPut := clearEmpty.becomes becomesPut
  have becomes : archive.files.Becomes place files :=
    becomesEmpty.trans (becomesPut.trans clearPut.becomes_withCompanions)
  have houses : files.Houses place number :=
    clearPut.houses_withCompanions FileTree.node?_putAt_self
  have connected : archive.connect (.file target .create false) =
      (.ok ⟨number, some place, false⟩, made) := by
    have led := leads _ vacant.clear.becomes_self
    have taken := clearEmpty.not_isDirectoryAt (FileTree.companion_mem_spots .logIndex place)
    have fresh : archive.connectFresh place true = (.ok ⟨number, some place, false⟩, made) := by
      simp [connectFresh, emptied, clearEmpty.obstacle?_eq_none, taken, number, made, files]
    have unused : archive.connections = [] := by simp [connections, vacant.handles]
    cases found : archive.files.node? place with
    | none => simp [Archive.connect, led, connectPlace, found, vacant.clear.folder, fresh]
    | some node =>
        obtain ⟨octets, rfl, short⟩ := vacant.free node found
        simp [Archive.connect, led, connectPlace, found, short, unused, fresh]
  have hosts : made.Hosts place number .blank := by
    have fresh : made.database number = .empty := by
      simp [Archive.database, made, number]
    refine ⟨vacant.clear.becomes becomes, houses.indexed, ?_, ?_, ?_,
      not_lacksLog_of_houses houses, ?_⟩
    · simp [made, number]
    · rw [fresh]
      rfl
    · rw [fresh]
      rfl
    · simp [made, vacant.handles]
  obtain ⟨after, attached, left⟩ := hosts.attach houses (leads.becomes becomes)
  have none : made.handles = [] := vacant.handles
  rw [none] at attached left
  refine ⟨number, after, ?_, ⟨left.hosts, becomes.trans left.becomes, left.closed, left.clock⟩⟩
  rw [opening, openAddress, connected]
  exact named_eq_ok.mpr attached

theorem isInUse_of_on {handle : Handle} {files : FileTree} (member : handle ∈ archive.handles)
    (open' : handle.closed = false) (on : handle.On files place number) :
    archive.isInUse number = true := by
  have connected : handle.writer ∈ archive.connections :=
    List.mem_flatMap.mpr ⟨handle, member, by simp [Handle.connections, open']⟩
  exact List.any_eq_true.mpr ⟨_, connected, by simp [on.writer]⟩

/-- The end of a connection leaves what is committed. -/
theorem Hosts.release (hosts : archive.Hosts place number tables) :
    archive.Leaves place number tables (archive.handles.map (·.closed))
      (archive.release ⟨number, some place, false⟩) := by
  -- Only the last connection writes the log into the file and takes the companions away.
  by_cases used : archive.isInUse number = true
  · have same : archive.release ⟨number, some place, false⟩ = archive := by
      simp [Archive.release, used]
    rw [same]
    exact ⟨hosts, hosts.clear.becomes_self, rfl, rfl⟩
  · have holds : archive.holds place number = true := by
      simp [Archive.holds, hosts.indexed]
    have ended : archive.release ⟨number, some place, false⟩ =
        { archive.setDatabase number (archive.database number).settled with
          files := (archive.files.putAt place (.index number)).withoutCompanions place } := by
      simp [Archive.release, used, holds]
    obtain ⟨becomes, indexed⟩ := hosts.clear.withoutCompanions number
    rw [ended]
    generalize after_eq : { archive.setDatabase number (archive.database number).settled with
      files := (archive.files.putAt place (.index number)).withoutCompanions place } = after
    have settled : after.database number = (archive.database number).settled := by
      rw [← after_eq]
      exact database_setDatabase_self hosts.present
    have files : after.files =
        (archive.files.putAt place (.index number)).withoutCompanions place := after_eq ▸ rfl
    have handles : after.handles = archive.handles := after_eq ▸ rfl
    have length : after.databases.length = archive.databases.length := by
      rw [← after_eq]
      exact List.length_set
    rw [← files] at becomes indexed
    refine ⟨⟨hosts.clear.becomes becomes, indexed, ?_, ?_, ?_, ?_, ?_⟩, becomes, ?_, ?_⟩
    · rw [length]
      exact hosts.present
    · rw [settled]
      exact hosts.idle
    · rw [settled]
      exact hosts.committed
    · simp [lacksLog, settled, Database.settled]
    · intro handle member openHandle
      rw [handles] at member
      exact absurd (isInUse_of_on member openHandle (hosts.opened handle member openHandle)) used
    · rw [handles]
    · rw [← after_eq]
      rfl

theorem Hosts.release_all (hosts : archive.Hosts place number tables)
    {connections : List Connection}
    (links : ∀ connection ∈ connections, connection = ⟨number, some place, false⟩) :
    archive.Leaves place number tables (archive.handles.map (·.closed))
      (connections.foldl Archive.release archive) := by
  induction connections generalizing archive with
  | nil => exact ⟨hosts, hosts.clear.becomes_self, rfl, rfl⟩
  | cons connection rest ih =>
      rw [List.foldl_cons, links connection List.mem_cons_self]
      have first := hosts.release
      have others := ih first.hosts fun other member => links other (List.mem_cons_of_mem _ member)
      exact ⟨others.hosts, first.becomes.trans others.becomes, others.closed.trans first.closed,
        others.clock.trans first.clock⟩

/-- A store that is closed leaves what is committed. -/
theorem Hosts.close (hosts : archive.Hosts place number tables)
    (open' : (archive.handle store).closed = false) :
    archive.Leaves place number tables ((archive.handles.map (·.closed)).set store true)
      (archive.close store) := by
  have on := hosts.on open'
  let closing : Archive := archive.setHandle store { archive.handle store with closed := true }
  have hostsClosing : closing.Hosts place number tables := by
    refine hosts.with_files hosts.clear.becomes_self ⟨hosts.indexed, on.logged⟩ ?_
    intro handle member openHandle
    rcases List.mem_or_eq_of_mem_set member with old | rfl
    · exact hosts.opened handle old openHandle
    · cases openHandle
  have links : ∀ connection ∈ (archive.handle store).connections,
      connection = ⟨number, some place, false⟩ := by
    intro connection member
    rw [Handle.connections, open', if_neg Bool.false_ne_true] at member
    rcases List.mem_cons.mp member with rfl | read
    · exact on.writer
    · obtain ⟨reader, readerMember, rfl⟩ := List.mem_map.mp read
      exact on.readers reader readerMember
  have left := hostsClosing.release_all links
  unfold Archive.close
  dsimp only
  rw [setDatabaseOf_rollback (hosts.idleOf open')]
  refine ⟨left.hosts, left.becomes, ?_, left.clock⟩
  rw [left.closed]
  simp [closing, setHandle, List.map_set]

/-- A store that was closed before is closed again without anything being done. -/
theorem close_of_closed (closed : (archive.handle store).closed = true) :
    archive.close store =
      archive.setDatabaseOf store ((archive.databaseOf store).rollback store) := by
  have same : { archive.handle store with closed := true } = archive.handle store := by
    rw [← closed]
  unfold Archive.close
  dsimp only
  rw [same, Handle.connections, if_pos closed, List.foldl_nil]
  exact setHandle_self

/-- What a store could roll back is no part of a database where nothing is pending. -/
theorem Hosts.rolledBack (hosts : archive.Hosts place number tables) (store : Nat) :
    (archive.setDatabaseOf store ((archive.databaseOf store).rollback store)).Hosts place number
      tables := by
  have own : (archive.setDatabaseOf store ((archive.databaseOf store).rollback store)).database
      number = archive.database number := by
    by_cases same : (archive.handle store).writer.database = number
    · have kept : (archive.databaseOf store).rollback store = archive.database number := by
        rw [databaseOf, same]
        simp [Database.rollback, hosts.idle]
      rw [kept, setDatabaseOf, same, setDatabase_self]
    · exact database_setDatabase_ne same
  refine ⟨hosts.clear, hosts.indexed, ?_, ?_, ?_, ?_, hosts.opened⟩
  · have length : (archive.setDatabaseOf store
        ((archive.databaseOf store).rollback store)).databases.length = archive.databases.length :=
      List.length_set
    rw [length]
    exact hosts.present
  · rw [own]
    exact hosts.idle
  · rw [own]
    exact hosts.committed
  · unfold lacksLog
    rw [own]
    exact hosts.whole

end Archive

end FolderIndex
