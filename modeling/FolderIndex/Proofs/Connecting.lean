import FolderIndex.Archive

namespace FolderIndex

/-! The making of a connection, and all that can come of it. -/

namespace Archive

variable {archive : Archive} {place : List String} {number : Nat}

/-- What the making of a connection comes to. Files may have changed, and the connection may lead
to a database that is new, or to one that is there; a log of that which lies elsewhere is lost,
unless the database is in use. -/
inductive Connects (archive : Archive) : Connecting → Prop where
  | alone (result : Except DatabaseFault Connection) (files : FileTree) :
      Connects archive (result, { archive with files := files })
  | anew (result : Except DatabaseFault Connection) (files : FileTree) (tables : Tables)
      (known : tables = .blank ∨ ∃ number, tables = (archive.database number).saved) :
      Connects archive (result,
        { archive with files := files, databases := archive.databases ++ [.ofTables tables] })
  | found (connection : Connection) (files : FileTree) (database : Database)
      (placed : connection.place? ≠ none)
      (known : database = archive.database connection.database ∨
        archive.isInUse connection.database = false ∧
          database = (archive.database connection.database).withoutLog) :
      Connects archive (.ok connection,
        { archive.setDatabase connection.database database with files := files })

theorem connectFresh_connects (archive : Archive) (place : List String) (mayWrite : Bool) :
    archive.Connects (archive.connectFresh place mayWrite) := by
  unfold connectFresh
  dsimp only
  split
  · exact .alone _ _
  · split
    · exact .alone _ _
    · exact .anew _ _ .blank (.inl rfl)

theorem not_lacksLog_of_hindrance?_eq_none (free : archive.hindrance? place number = none)
    (used : archive.isInUse number = true) : archive.lacksLog place number = false := by
  unfold hindrance? at free
  simp only [Option.or_eq_none_iff] at free
  have second := free.2
  split at second
  · contradiction
  · simpa [used] using second

/-- A database in use keeps its log, whoever connects to it. -/
theorem connectPresent_connects (archive : Archive) (place : List String) (mayWrite : Bool)
    (number : Nat) : archive.Connects (archive.connectPresent place mayWrite number) := by
  unfold connectPresent
  split
  · exact .alone _ archive.files
  · rename_i free
    refine .found ⟨number, some place, _⟩ _ _ nofun ?_
    cases lacks : archive.lacksLog place number with
    | false => exact .inl rfl
    | true =>
        refine .inr ⟨?_, rfl⟩
        cases used : archive.isInUse number with
        | false => rfl
        | true => rw [not_lacksLog_of_hindrance?_eq_none free used] at lacks; cases lacks

theorem connectPlace_connects (archive : Archive) (place : List String) (access : Access)
    (fixed : Bool) : archive.Connects (archive.connectPlace place access fixed) := by
  unfold connectPlace
  dsimp only
  split
  · split
    · exact archive.connectFresh_connects place _
    · exact .alone _ archive.files
  · split
    · exact .anew _ archive.files _ (.inr ⟨_, rfl⟩)
    · exact archive.connectPresent_connects place _ _
  · split
    · split
      · exact .alone _ archive.files
      · exact archive.connectFresh_connects place _
    · split
      · exact archive.connectPresent_connects place _ _
      · exact .alone _ archive.files
  · exact .alone _ archive.files

theorem connect_connects (archive : Archive) (address : Address) :
    archive.Connects (archive.connect address) := by
  cases address with
  | memory => exact .anew _ archive.files .blank (.inl rfl)
  | apart access => exact .anew _ archive.files .blank (.inl rfl)
  | common name =>
      simp only [connect]
      split
      · exact .alone _ archive.files
      · exact .anew _ archive.files .blank (.inl rfl)
  | file location access fixed =>
      simp only [connect]
      split
      · exact archive.connectPlace_connects _ access fixed
      · exact .alone _ archive.files

/-- The making of a connection opens and closes no store. -/
theorem Connects.handles {outcome : Connecting} (connects : archive.Connects outcome) :
    outcome.2.handles = archive.handles := by
  cases connects <;> rfl

end Archive

end FolderIndex
