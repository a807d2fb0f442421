import FolderIndex.Proofs.Connecting

namespace FolderIndex

/-! What a thread reads through a store, where nobody moves the files of its database while it
is in use: what is committed through the store, and nothing else. -/

/-- How an operation of a store can fail. -/
inductive Failure.IsOf (operation : StoreOperation) : Failure → Prop where
  | blankPath : IsOf operation (.store .blankPath)
  | closed : IsOf operation (.store .closed)
  | refused (fault : DatabaseFault) : IsOf operation (.store (.refused operation fault))

namespace Archive

variable {archive : Archive} {store thread number : Nat}

/-- A thread whose connection, old or new, leads to the database that a store writes to. One
that leads to a database of its own in memory is as good: there is nothing to be read from. -/
structure ReadsOwnWrites (archive : Archive) (store thread : Nat) : Prop where
  present : (archive.handle store).writer.database < archive.databases.length
  idle : (archive.databaseOf store).pending? = none
  known : (archive.handle store).address ≠ .memory → ∀ {connection},
    (archive.handle store).readers.lookup thread = some connection →
      connection.database = (archive.handle store).writer.database ∨
        (archive.database connection.database).committed.isBlank = true
  fresh : (archive.handle store).address ≠ .memory →
    (archive.handle store).readers.lookup thread = none → ∀ {connection after},
      archive.connect (archive.handle store).address = (.ok connection, after) →
        connection.database = (archive.handle store).writer.database ∨
          connection.place? = none ∧
            (after.database connection.database).committed.isBlank = true

/-- Whether the file of a database is at a place. -/
def isInPlace (archive : Archive) (place : List String) (number : Nat) : Bool :=
  match archive.files.node? place with
  | some (.index other) => other = number
  | _ => false

/-- It is enough that the file of the database is where the store was told to find it. -/
theorem readsOwnWrites_of_inPlace {location : Location} {access : Access} {place : List String}
    (present : (archive.handle store).writer.database < archive.databases.length)
    (idle : (archive.databaseOf store).pending? = none)
    (address : (archive.handle store).address = .file location access false)
    (leads : archive.files.place? location = some place)
    (stands : archive.isInPlace place (archive.handle store).writer.database = true)
    (known : ∀ connection, (archive.handle store).readers.lookup thread = some connection →
      connection.database = (archive.handle store).writer.database) :
    archive.ReadsOwnWrites store thread := by
  refine ⟨present, idle, fun _ connection found => .inl (known connection found), ?_⟩
  intro _ _ connection after made
  unfold isInPlace at stands
  split at stands
  · rename_i number indexed
    simp only [connect, address, leads, connectPlace, indexed, Bool.false_eq_true, if_false] at made
    unfold connectPresent at made
    split at made
    · cases made
    · cases made
      exact .inl (of_decide_eq_true stands)
  · contradiction

/-- A store that is closed, or through which a thread reads what is written. -/
def Dependable (archive : Archive) (store thread : Nat) : Prop :=
  (archive.handle store).closed = true ∨ archive.ReadsOwnWrites store thread

/-- An open store through which a thread has read what is written. -/
structure Linked (archive : Archive) (store thread : Nat) : Prop where
  opened : (archive.handle store).closed = false
  present : (archive.handle store).writer.database < archive.databases.length
  idle : (archive.databaseOf store).pending? = none
  reader : (archive.handle store).address = .memory ∨ ∃ connection,
    (archive.handle store).readers.lookup thread = some connection ∧
      connection.database = (archive.handle store).writer.database

theorem Linked.readsOwnWrites (linked : archive.Linked store thread) :
    archive.ReadsOwnWrites store thread := by
  refine ⟨linked.present, linked.idle, ?_, ?_⟩
  · intro apart connection found
    rcases linked.reader with memory | ⟨own, ownFound, same⟩
    · exact absurd memory apart
    · rw [ownFound] at found
      cases found
      exact .inl same
  · intro apart missing
    rcases linked.reader with memory | ⟨own, ownFound, _⟩
    · exact absurd memory apart
    · rw [missing] at ownFound
      contradiction

theorem lt_of_opened (opened : (archive.handle store).closed = false) :
    store < archive.handles.length := by
  by_cases present : store < archive.handles.length
  · exact present
  · have absent : archive.handle store = .absent := by
      simp [handle, List.getD_eq_getElem?_getD, List.getElem?_eq_none (Nat.le_of_not_lt present)]
    rw [absent] at opened
    contradiction

theorem mem_handles_of_opened (opened : (archive.handle store).closed = false) :
    archive.handle store ∈ archive.handles := by
  have present := lt_of_opened opened
  simp [handle, List.getD_eq_getElem?_getD, List.getElem?_eq_getElem present]

/-- The database that an open store writes to is in use. -/
theorem isInUse_of_opened (opened : (archive.handle store).closed = false) :
    archive.isInUse (archive.handle store).writer.database = true := by
  have connected : (archive.handle store).writer ∈ archive.connections :=
    List.mem_flatMap.mpr ⟨_, mem_handles_of_opened opened, by simp [Handle.connections, opened]⟩
  exact List.any_eq_true.mpr ⟨_, connected, by simp⟩

/-! What the making of a connection leaves as it is. -/

structure Spares (number : Nat) (before after : Archive) : Prop where
  handles : after.handles = before.handles
  clock : after.clock = before.clock
  length : before.databases.length ≤ after.databases.length
  database : after.database number = before.database number

theorem Spares.of_append {files : FileTree} {database : Database}
    (present : number < archive.databases.length) :
    Spares number archive
      { archive with files := files, databases := archive.databases ++ [database] } := by
  refine ⟨rfl, rfl, by simp, ?_⟩
  simp [Archive.database, List.getD_eq_getElem?_getD, List.getElem?_append_left present]

theorem database_setDatabase_self {database : Database}
    (present : number < archive.databases.length) :
    (archive.setDatabase number database).database number = database := by
  simp [setDatabase, Archive.database, List.getD_eq_getElem?_getD, present]

/-- A list with a member in the place where it is found there. -/
theorem set_getD_self {α : Type} (list : List α) (index : Nat) (absent : α) :
    list.set index (list.getD index absent) = list := by
  rw [List.getD_eq_getElem?_getD]
  by_cases present : index < list.length
  · rw [List.getElem?_eq_getElem present, Option.getD_some, List.set_getElem_self]
  · exact List.set_eq_of_length_le (Nat.le_of_not_lt present)

theorem setDatabase_self : archive.setDatabase number (archive.database number) = archive := by
  unfold setDatabase Archive.database
  rw [set_getD_self]

/-- Where nothing is pending, there is nothing to be undone. -/
theorem setDatabaseOf_rollback (idle : (archive.databaseOf store).pending? = none) :
    archive.setDatabaseOf store ((archive.databaseOf store).rollback store) = archive := by
  have same : (archive.databaseOf store).rollback store = archive.databaseOf store := by
    simp [Database.rollback, idle]
  rw [same]
  exact setDatabase_self

theorem rollback_snd (idle : (archive.databaseOf store).pending? = none) :
    (archive.rollback store).2 = archive := by
  unfold rollback
  split
  · rfl
  · exact setDatabaseOf_rollback idle

theorem setHandle_self : archive.setHandle store (archive.handle store) = archive := by
  unfold setHandle handle
  rw [set_getD_self]

theorem database_setDatabase_ne {database : Database} {other : Nat} (apart : other ≠ number) :
    (archive.setDatabase other database).database number = archive.database number := by
  simp [setDatabase, Archive.database, List.getD_eq_getElem?_getD, List.getElem?_set_ne apart]

theorem Connects.spares {outcome : Connecting} (connects : archive.Connects outcome)
    (present : number < archive.databases.length) (used : archive.isInUse number = true) :
    Spares number archive outcome.2 := by
  cases connects with
  | alone result files => exact ⟨rfl, rfl, Nat.le_refl _, rfl⟩
  | anew result files tables known => exact .of_append present
  | found connection files database placed known =>
      refine ⟨rfl, rfl, by simp [setDatabase], ?_⟩
      by_cases same : connection.database = number
      · subst same
        rcases known with rfl | ⟨unused, _⟩
        · exact database_setDatabase_self present
        · rw [used] at unused
          cases unused
      · exact database_setDatabase_ne same

theorem connect_spares (present : number < archive.databases.length)
    (used : archive.isInUse number = true) (address : Address) :
    Spares number archive (archive.connect address).2 :=
  (archive.connect_connects address).spares present used

theorem withoutLogsAt_none : archive.withoutLogsAt none = archive.databases := by
  apply List.ext_getElem
  · simp [withoutLogsAt]
  · intro index _ _
    simp [withoutLogsAt]

/-- A connection that is kept for a thread leaves the databases as they are, if it leads to the
one that the store writes to or to one in memory. -/
theorem databases_withReader {connection : Connection}
    (own : connection.database = (archive.handle store).writer.database ∨
      connection.place? = none) :
    (archive.withReader store thread connection).databases = archive.databases := by
  unfold withReader
  dsimp only
  split
  · rename_i stranger
    rcases own with same | nowhere
    · simp [same] at stranger
    · rw [nowhere]
      exact withoutLogsAt_none
  · rfl

theorem handle_withReader (thread : Nat) (connection : Connection)
    (opened : (archive.handle store).closed = false) :
    (archive.withReader store thread connection).handle store =
      { archive.handle store with
        readers := (thread, connection) :: (archive.handle store).readers } := by
  have present := lt_of_opened opened
  have put : (archive.setHandle store { archive.handle store with
      readers := (thread, connection) :: (archive.handle store).readers }).handle store =
      { archive.handle store with
        readers := (thread, connection) :: (archive.handle store).readers } := by
    simp [setHandle, handle, List.getD_eq_getElem?_getD, present]
  unfold withReader
  dsimp only
  split <;> exact put

theorem committed_eq_of_eq {after : Archive} (handle : after.handle store = archive.handle store)
    (database : after.database (archive.handle store).writer.database =
      archive.database (archive.handle store).writer.database) :
    after.committed store = archive.committed store := by
  simp only [committed, databaseOf, handle, database]

theorem reading_of_closed (closed : (archive.handle store).closed = true) (thread : Nat)
    (operation : StoreOperation) :
    ∃ cause, archive.reading store thread operation = (.error cause, archive) ∧
      (cause = .closed ∨ cause = .refused operation .closed) := by
  unfold reading reader
  dsimp only
  simp only [closed, if_true]
  split
  · exact ⟨_, rfl, .inr rfl⟩
  · cases (archive.handle store).readers.lookup thread with
    | none => exact ⟨_, rfl, .inl rfl⟩
    | some connection => exact ⟨_, rfl, .inr rfl⟩

/-- A thread that has read through a store goes on as it did. -/
theorem reader_of_known (opened : (archive.handle store).closed = false)
    {connection : Connection}
    (found : (archive.handle store).readers.lookup thread = some connection)
    (operation : StoreOperation) :
    (∃ fault, archive.reader store thread operation =
      (.error (.refused operation fault), archive)) ∨
      archive.reader store thread operation = (.ok connection, archive) := by
  unfold reader
  simp only [found, opened, Bool.false_eq_true, if_false]
  split
  · exact .inl ⟨_, rfl⟩
  · exact .inr rfl

/-- A thread that comes anew to a store that is open finds what is committed, or a database that
nothing was written to. -/
theorem reader_of_new (own : archive.ReadsOwnWrites store thread)
    (opened : (archive.handle store).closed = false)
    (apart : (archive.handle store).address ≠ .memory)
    (missing : (archive.handle store).readers.lookup thread = none)
    (operation : StoreOperation) :
    let outcome := archive.reader store thread operation
    outcome.2.committed store = archive.committed store ∧ outcome.2.clock = archive.clock ∧
      ((∃ fault, outcome.1 = .error (.refused operation fault)) ∨
        ∃ connection, outcome.1 = .ok connection ∧
          ((outcome.2.database connection.database).committed.isBlank = true ∨
            (outcome.2.database connection.database).committed = archive.committed store ∧
              outcome.2.Linked store thread)) := by
  have spares := connect_spares own.present (isInUse_of_opened opened)
    (archive.handle store).address
  have fresh := fun connection after => @own.fresh apart missing connection after
  unfold reader
  simp only [missing, opened, Bool.false_eq_true, if_false]
  cases made : archive.connect (archive.handle store).address with
  | mk result after =>
      rw [made] at spares
      dsimp only at spares
      -- The database of the store is in use by its writer, so no new connection changes it.
      have sameHandle : after.handle store = archive.handle store := by
        simp only [handle, spares.handles]
      cases result with
      | error fault =>
          exact ⟨committed_eq_of_eq sameHandle spares.database, spares.clock, .inl ⟨fault, rfl⟩⟩
      | ok connection =>
          have leads := fresh connection after made
          have openedAfter : (after.handle store).closed = false := by rw [sameHandle, opened]
          have databases : (after.withReader store thread connection).databases =
              after.databases := by
            apply databases_withReader
            rw [sameHandle]
            exact leads.imp_right And.left
          have handled := handle_withReader thread connection openedAfter
          rw [sameHandle] at handled
          have database : ∀ number, (after.withReader store thread connection).database number =
              after.database number := by
            intro number
            simp only [Archive.database, databases]
          have clock : (after.withReader store thread connection).clock = after.clock := by
            unfold withReader
            dsimp only
            split <;> rfl
          have committed : (after.withReader store thread connection).committed store =
              archive.committed store := by
            simp only [Archive.committed, databaseOf, handled, database, spares.database]
          refine ⟨committed, clock.trans spares.clock, .inr ⟨connection, rfl, ?_⟩⟩
          rcases leads with same | ⟨_, blank⟩
          · refine .inr ⟨?_, by rw [handled]; exact opened, ?_, ?_, .inr ⟨connection, ?_, ?_⟩⟩
            · dsimp only
              rw [database, same, spares.database]
              rfl
            · rw [handled, databases]
              exact Nat.lt_of_lt_of_le own.present spares.length
            · simp only [databaseOf, handled, database, spares.database]
              exact own.idle
            · rw [handled]
              simp
            · rw [handled]
              exact same
          · refine .inl ?_
            rw [database]
            exact blank

/-- What comes of the reading of a store: a failure, the tables of a database that nothing was
written to, or what is committed. -/
theorem reading_cases (dependable : archive.Dependable store thread) (operation : StoreOperation) :
    let outcome := archive.reading store thread operation
    outcome.2.committed store = archive.committed store ∧ outcome.2.clock = archive.clock ∧
      ((∃ cause, outcome.1 = .error cause ∧ Failure.IsOf operation (.store cause)) ∨
        (∃ tables, outcome.1 = .ok tables ∧ tables.isBlank = true) ∨
        outcome.1 = .ok (archive.committed store) ∧ outcome.2.Linked store thread) := by
  by_cases closed : (archive.handle store).closed = true
  · obtain ⟨cause, same, why⟩ := reading_of_closed closed thread operation
    rw [same]
    refine ⟨rfl, rfl, .inl ⟨cause, rfl, ?_⟩⟩
    rcases why with rfl | rfl
    · exact .closed
    · exact .refused _
  · have opened : (archive.handle store).closed = false := by simpa using closed
    have own : archive.ReadsOwnWrites store thread := dependable.resolve_left closed
    unfold reading
    dsimp only
    by_cases memory : (archive.handle store).address = .memory
    · have seen : (archive.databaseOf store).seenBy store = .ok (archive.committed store) := by
        simp [Database.seenBy, own.idle, committed]
      rw [if_pos memory, if_neg closed, seen]
      exact ⟨rfl, rfl, .inr (.inr ⟨rfl, opened, own.present, own.idle, .inl memory⟩)⟩
    · rw [if_neg memory]
      cases lookup : (archive.handle store).readers.lookup thread with
      | none =>
          have spec := reader_of_new own opened memory lookup operation
          cases outcome : archive.reader store thread operation with
          | mk result after =>
              rw [outcome] at spec
              obtain ⟨sameTables, sameClock, ⟨fault, failed⟩ | ⟨connection, made, leads⟩⟩ := spec
              · dsimp only at failed
                rw [failed]
                exact ⟨sameTables, sameClock, .inl ⟨_, rfl, .refused fault⟩⟩
              · dsimp only at made
                rw [made]
                refine ⟨sameTables, sameClock, .inr ?_⟩
                rcases leads with blank | ⟨same, linked⟩
                · exact .inl ⟨_, rfl, blank⟩
                · refine .inr ⟨?_, linked⟩
                  dsimp only at same ⊢
                  rw [same]
      | some connection =>
          rcases reader_of_known opened lookup operation with ⟨fault, failed⟩ | made
          · rw [failed]
            exact ⟨rfl, rfl, .inl ⟨_, rfl, .refused fault⟩⟩
          · rw [made]
            refine ⟨rfl, rfl, .inr ?_⟩
            rcases own.known memory lookup with same | blank
            · refine .inr ⟨?_, opened, own.present, own.idle, .inr ⟨connection, lookup, same⟩⟩
              simp only [same, committed, databaseOf]
            · exact .inl ⟨_, rfl, blank⟩

end Archive

end FolderIndex
