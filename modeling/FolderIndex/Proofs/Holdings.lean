import FolderIndex.Proofs.Connecting

namespace FolderIndex

/-! What is true of all tables that an archive holds, in the files of its databases, in their
logs and in what waits to be committed. It stays true, whichever store is used and whatever
happens to the files, if it stays true of single tables. -/

/-- A change that keeps a property of tables. -/
def Tables.Keeps {α : Type} (held : Tables → Prop)
    (change : Tables → Except DatabaseFault (α × Tables)) : Prop :=
  ∀ {tables value after}, held tables → change tables = .ok (value, after) → held after

/-- A property of all tables that a database holds. -/
structure Database.Holds (held : Tables → Prop) (database : Database) : Prop where
  saved : held database.saved
  log : ∀ {tables}, database.log? = some tables → held tables
  pending : ∀ {writer tables}, database.pending? = some (writer, tables) → held tables

/-- A property of all tables that an archive holds. -/
def Archive.Holds (held : Tables → Prop) (archive : Archive) : Prop :=
  ∀ database ∈ archive.databases, database.Holds held

variable {α : Type} {held wider : Tables → Prop}

namespace Database

variable {database : Database} {writer : Nat}
  {change : Tables → Except DatabaseFault (α × Tables)}

theorem Holds.mono (holds : database.Holds held) (weaker : ∀ tables, held tables → wider tables) :
    database.Holds wider :=
  ⟨weaker _ holds.saved, fun logged => weaker _ (holds.log logged),
    fun waiting => weaker _ (holds.pending waiting)⟩

theorem holds_ofTables {tables : Tables} (kept : held tables) :
    (ofTables tables).Holds held :=
  ⟨kept, by simp [ofTables], by simp [ofTables]⟩

theorem Holds.committed (holds : database.Holds held) : held database.committed := by
  unfold Database.committed
  cases logged : database.log? with
  | none => exact holds.saved
  | some tables => exact holds.log logged

theorem Holds.settled (holds : database.Holds held) : database.settled.Holds held :=
  ⟨holds.committed, by simp [Database.settled], holds.pending⟩

theorem Holds.withoutLog (holds : database.Holds held) : database.withoutLog.Holds held :=
  ⟨holds.saved, by simp [Database.withoutLog], holds.pending⟩

theorem Holds.commit (holds : database.Holds held) : (database.commit writer).Holds held := by
  unfold Database.commit
  split
  · rename_i holder tables waiting
    split
    · refine ⟨holds.saved, ?_, by simp⟩
      intro logged same
      cases same
      exact holds.pending waiting
    · exact holds
  · exact holds

theorem Holds.rollback (holds : database.Holds held) : (database.rollback writer).Holds held := by
  unfold Database.rollback
  split
  · split
    · exact ⟨holds.saved, holds.log, by simp⟩
    · exact holds
  · exact holds

theorem Holds.seenBy {tables : Tables} (holds : database.Holds held)
    (seen : database.seenBy writer = .ok tables) : held tables := by
  unfold Database.seenBy at seen
  split at seen
  · cases seen
    exact holds.committed
  · rename_i waiting
    split at seen
    · cases seen
      exact holds.pending waiting
    · contradiction

theorem Holds.write (holds : database.Holds held) (keeps : Tables.Keeps held change) :
    (database.write writer change).2.Holds held := by
  unfold Database.write
  split
  · exact holds
  · rename_i tables seen
    split
    · exact holds
    · rename_i value after changed
      refine ⟨holds.saved, holds.log, ?_⟩
      intro holder waiting same
      cases same
      exact keeps (holds.seenBy seen) changed

theorem Holds.transact (holds : database.Holds held) (keeps : Tables.Keeps held change) :
    (database.transact writer change).2.Holds held := by
  have written : (database.write writer change).2.Holds held := holds.write keeps
  unfold Database.transact
  cases outcome : database.write writer change with
  | mk result after =>
      rw [outcome] at written
      cases result with
      | ok value => exact written.commit
      | error fault => exact written.rollback

end Database

namespace Archive

variable {archive : Archive} {store thread number : Nat}
  {change : Tables → Except DatabaseFault (α × Tables)}

theorem named_snd (operation : StoreOperation) (outcome : Except DatabaseFault α × Archive) :
    (named operation outcome).2 = outcome.2 := by
  obtain ⟨result, after⟩ := outcome
  cases result <;> rfl

theorem bare_snd (outcome : Except DatabaseFault α × Archive) :
    (bare outcome).2 = outcome.2 := by
  obtain ⟨result, after⟩ := outcome
  cases result <;> rfl

theorem reading_snd (thread : Nat) (operation : StoreOperation) :
    (archive.reading store thread operation).2 =
      if (archive.handle store).address = .memory then archive
      else (archive.reader store thread operation).2 := by
  unfold Archive.reading
  dsimp only
  split
  · split
    · rfl
    · split <;> rfl
  · cases archive.reader store thread operation with
    | mk result after => cases result <;> rfl

theorem query_snd (thread : Nat) (operation : StoreOperation)
    (ask : Tables → Except DatabaseFault α) :
    (archive.query store thread operation ask).2 =
      (archive.reading store thread operation).2 := by
  unfold Archive.query
  cases archive.reading store thread operation with
  | mk result after =>
      cases result with
      | error failure => rfl
      | ok tables =>
          dsimp only
          split <;> rfl

theorem listDocuments_snd (thread : Nat) (limit : Int) :
    (archive.listDocuments store thread limit).2 =
      (archive.query store thread .listDocuments (·.documents limit)).2 := by
  unfold Archive.listDocuments
  split
  · split <;> simp_all
  · rfl

theorem Holds.mono (holds : archive.Holds held) (weaker : ∀ tables, held tables → wider tables) :
    archive.Holds wider :=
  fun database member => (holds database member).mono weaker

theorem Holds.setDatabase {database : Database} (holds : archive.Holds held)
    (kept : database.Holds held) : (archive.setDatabase number database).Holds held := by
  intro other member
  rcases List.mem_or_eq_of_mem_set member with old | rfl
  · exact holds other old
  · exact kept

theorem Holds.withoutLogsAt (holds : archive.Holds held) (place? : Option (List String)) :
    ∀ database ∈ archive.withoutLogsAt place?, database.Holds held := by
  intro database member
  obtain ⟨index, bound, same⟩ := List.mem_mapIdx.mp member
  have kept := holds _ (List.getElem_mem bound)
  rw [← same]
  split
  · exact kept.withoutLog
  · exact kept

theorem Holds.withReader (holds : archive.Holds held) (connection : Connection) :
    (archive.withReader store thread connection).Holds held := by
  unfold Archive.withReader
  dsimp only
  split
  · exact holds.withoutLogsAt connection.place?
  · exact holds

/-! From here on, a database that nothing was written to has the property. -/

section

variable (blank : held .blank)

include blank

theorem Holds.database (holds : archive.Holds held) (number : Nat) :
    (archive.database number).Holds held := by
  unfold Archive.database
  rw [List.getD_eq_getElem?_getD]
  cases found : archive.databases[number]? with
  | none => exact Database.holds_ofTables blank
  | some database => exact holds database (List.mem_of_getElem? found)

theorem Holds.connect (holds : archive.Holds held) (address : Address) :
    (archive.connect address).2.Holds held := by
  have connects := archive.connect_connects address
  generalize archive.connect address = outcome at connects ⊢
  cases connects with
  | alone result files => exact holds
  | anew result files tables known =>
      intro database member
      rcases List.mem_append.mp member with old | new
      · exact holds database old
      · rw [List.mem_singleton.mp new]
        apply Database.holds_ofTables
        rcases known with rfl | ⟨number, rfl⟩
        · exact blank
        · exact (holds.database blank number).saved
  | found connection files database placed known =>
      apply Holds.setDatabase holds
      rcases known with rfl | ⟨_, rfl⟩
      · exact holds.database blank _
      · exact (holds.database blank _).withoutLog

theorem Holds.reader (holds : archive.Holds held) (store thread : Nat)
    (operation : StoreOperation) :
    (archive.reader store thread operation).2.Holds held := by
  unfold Archive.reader
  dsimp only
  split
  · split
    · exact holds
    · split <;> exact holds
  · split
    · exact holds
    · have connected := holds.connect blank (archive.handle store).address
      split
      · rename_i outcome
        rw [outcome] at connected
        exact connected
      · rename_i outcome
        rw [outcome] at connected
        exact connected.withReader _

theorem Holds.reading (holds : archive.Holds held) (store thread : Nat)
    (operation : StoreOperation) :
    (archive.reading store thread operation).2.Holds held := by
  rw [reading_snd]
  split
  · exact holds
  · exact holds.reader blank store thread operation

theorem Holds.query (holds : archive.Holds held) (store thread : Nat)
    (operation : StoreOperation) (ask : Tables → Except DatabaseFault α) :
    (archive.query store thread operation ask).2.Holds held := by
  rw [query_snd]
  exact holds.reading blank store thread operation

theorem Holds.getHash (holds : archive.Holds held) (store thread : Nat) (path : String) :
    (archive.getHash store thread path).2.Holds held := by
  unfold Archive.getHash
  split
  · exact holds
  · exact holds.query blank store thread _ _

theorem Holds.changing (holds : archive.Holds held)
    {apply : Database → Except DatabaseFault α × Database}
    (kept : ∀ database, database.Holds held → (apply database).2.Holds held) :
    (archive.changing store change apply).2.Holds held := by
  unfold Archive.changing
  dsimp only
  split
  · exact holds
  · split
    · exact holds
    · split
      · exact holds
      · exact holds.setDatabase (kept _ (holds.database blank _))

theorem Holds.transact (holds : archive.Holds held) (store : Nat)
    (keeps : Tables.Keeps held change) : (archive.transact store change).2.Holds held :=
  holds.changing blank fun _ database => database.transact keeps

theorem Holds.release (holds : archive.Holds held) (connection : Connection) :
    (archive.release connection).Holds held := by
  have database := holds.database blank connection.database
  unfold Archive.release
  dsimp only
  split
  · exact holds
  · split
    · exact holds
    · split
      · exact holds
      · split
        · exact holds.setDatabase database.settled
        · exact holds.setDatabase database.withoutLog

theorem Holds.releaseAll (connections : List Connection) (holds : archive.Holds held) :
    (connections.foldl Archive.release archive).Holds held := by
  induction connections generalizing archive with
  | nil => exact holds
  | cons connection rest ih => exact ih (holds.release blank connection)

theorem Holds.undo (holds : archive.Holds held) (store : Nat) :
    (archive.rollback store).2.Holds held := by
  unfold Archive.rollback
  split
  · exact holds
  · exact holds.setDatabase (holds.database blank _).rollback

theorem Holds.close (holds : archive.Holds held) (store : Nat) :
    (archive.close store).Holds held :=
  Holds.releaseAll blank _ (holds.setDatabase (holds.database blank _).rollback)

theorem Holds.attach (holds : archive.Holds held)
    (ensures : ∀ {tables : Tables}, held tables → held tables.ensure)
    (address : Address) (writer : Connection) : (archive.attach address writer).2.Holds held := by
  have keeps : Tables.Keeps held fun tables => .ok ((), tables.ensure) := by
    intro tables value after kept made
    cases made
    exact ensures kept
  have known : Archive.Holds held { archive with
      handles := archive.handles ++ [⟨address, writer, [], false⟩] } := holds
  unfold Archive.attach
  dsimp only
  split
  · exact holds
  · have made := known.transact blank archive.handles.length keeps
    split
    · rename_i outcome
      rw [outcome] at made
      exact made
    · rename_i outcome
      rw [outcome] at made
      exact made.close blank _

theorem Holds.openStore (holds : archive.Holds held)
    (ensures : ∀ {tables : Tables}, held tables → held tables.ensure) (location : Location) :
    (archive.openStore location).2.Holds held := by
  unfold Archive.openStore
  split
  · exact holds
  · rw [named_snd]
    split
    · exact holds
    · rename_i address _
      have connected := holds.connect blank address
      unfold Archive.openAddress
      split
      · rename_i outcome
        rw [outcome] at connected
        exact connected
      · rename_i outcome
        rw [outcome] at connected
        exact connected.attach blank ensures address _

theorem Holds.drop (holds : archive.Holds held) (store : Nat) (table : TableName)
    (keeps : Tables.Keeps held (·.drop table)) : (archive.drop store table).2.Holds held := by
  unfold Archive.drop
  rw [bare_snd]
  exact holds.transact blank store keeps

theorem Holds.addTrigger (holds : archive.Holds held) (store : Nat) (trigger : Trigger)
    (keeps : Tables.Keeps held (·.addTrigger trigger)) :
    (archive.addTrigger store trigger).2.Holds held := by
  unfold Archive.addTrigger
  rw [bare_snd]
  exact holds.transact blank store keeps

theorem Holds.upsert (holds : archive.Holds held) (store : Nat) {path : String}
    {content? hash? : Option String}
    {tokens : List String}
    (keeps : ∀ time, Tables.Keeps held
      (·.insert true ⟨path, content?, Text.joinWords tokens, hash?, time⟩)) :
    (archive.upsert store path content? tokens hash?).2.Holds held := by
  unfold Archive.upsert
  split
  · exact holds
  · have stamped : archive.stamp.2.Holds held := holds
    rw [named_snd]
    exact stamped.transact blank store (keeps _)

theorem Holds.delete (holds : archive.Holds held) (store : Nat) (path : String)
    (keeps : Tables.Keeps held (·.delete path)) : (archive.delete store path).2.Holds held := by
  unfold Archive.delete
  split
  · exact holds
  · rw [named_snd]
    exact holds.transact blank store keeps

theorem Holds.recordRoot (holds : archive.Holds held) (store : Nat) (root : String)
    (keeps : ∀ time, Tables.Keeps held (·.recordRoot ⟨root, time⟩)) :
    (archive.recordRoot store root).2.Holds held := by
  unfold Archive.recordRoot
  split
  · exact holds
  · have stamped : archive.stamp.2.Holds held := holds
    rw [named_snd]
    exact stamped.transact blank store (keeps _)

end

end Archive

end FolderIndex
