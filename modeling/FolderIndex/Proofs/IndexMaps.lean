import FolderIndex.Proofs.Rows
import FolderIndex.Proofs.Sorting

namespace FolderIndex

/-! What an index holds, as two finite maps: from paths to documents, and from roots to times. Its
tables are lists of the pairs of these maps, in some order. -/

/-- What is stored of a document under its path. -/
structure Stored where
  content : String
  tokens : List String
  hash : String
  time : String
deriving DecidableEq, Repr

namespace Stored

def toEntry (path : String) (stored : Stored) : Entry :=
  ⟨path, stored.content, Text.joinWords stored.tokens, stored.hash, stored.time⟩

/-- The document as it is read back: its tokens are the words of their text. -/
def toDocument (path : String) (stored : Stored) : Document :=
  ⟨path, stored.content, Text.words (Text.joinWords stored.tokens), stored.hash, stored.time⟩

theorem path_toEntry (path : String) (stored : Stored) : (stored.toEntry path).path = path := rfl

theorem path_toDocument (path : String) (stored : Stored) :
    (stored.toDocument path).path = path := rfl

end Stored

theorem RootScan.path_mk (path time : String) : (RootScan.mk path time).path = path := rfl

namespace Document

/-- Later updates first, equal times in the order of paths. -/
def newerFirst (left right : Document) : Bool :=
  decide (right.updatedAt < left.updatedAt ∨
    left.updatedAt = right.updatedAt ∧ left.path ≤ right.path)

theorem newerFirst_eq : newerFirst = weighsFirst (·.updatedAt) (·.path) := by
  funext left right
  rw [Bool.eq_iff_iff, weighsFirst_iff, newerFirst, decide_eq_true_eq]

theorem pairwise_mergeSort_newerFirst (documents : List Document) :
    (documents.mergeSort newerFirst).Pairwise fun left right => left.newerFirst right = true := by
  rw [newerFirst_eq]
  exact pairwise_mergeSort_weighsFirst _ _ documents

/-- Documents with distinct paths have one order in which the newest are first. -/
theorem mergeSort_of_perm {documents others : List Document} (perm : documents.Perm others)
    (distinct : (others.map (·.path)).Nodup) :
    documents.mergeSort newerFirst = others.mergeSort newerFirst := by
  rw [newerFirst_eq]
  apply mergeSort_weighsFirst_of_perm perm
  intro left leftMember right rightMember _ samePath
  exact List.inj_on_of_nodup_map distinct leftMember rightMember samePath

end Document

/-- Rows are in the order of their documents. -/
theorem Entry.map_mergeSort_toDocument (rows : List Entry) :
    (rows.mergeSort Entry.newerFirst).map Entry.toDocument =
      (rows.map Entry.toDocument).mergeSort Document.newerFirst := by
  refine List.map_mergeSort fun left _ right _ => ?_
  rw [Bool.eq_iff_iff]
  simp [Entry.newerFirst, Document.newerFirst, Entry.toDocument]

structure IndexMaps where
  documents : Std.ExtTreeMap String Stored
  roots : Std.ExtTreeMap String String

namespace IndexMaps

def empty : IndexMaps := ⟨∅, ∅⟩

def upsert (maps : IndexMaps) (path : String) (stored : Stored) : IndexMaps :=
  { maps with documents := maps.documents.insert path stored }

def delete (maps : IndexMaps) (path : String) : IndexMaps :=
  { maps with documents := maps.documents.erase path }

def recordRoot (maps : IndexMaps) (root time : String) : IndexMaps :=
  { maps with roots := maps.roots.insert root time }

def hashOf (maps : IndexMaps) (path : String) : Option String :=
  maps.documents[path]?.map (·.hash)

/-- All documents, newest first. -/
def newest (maps : IndexMaps) : List Document :=
  (maps.documents.toList.map fun pair => pair.2.toDocument pair.1).mergeSort Document.newerFirst

/-- All documents, newest first, or at most a positive number of them. -/
def listed (maps : IndexMaps) (limit : Int) : List Document :=
  if limit ≤ 0 then maps.newest else maps.newest.take limit.toNat

def rootScans (maps : IndexMaps) : List RootScan :=
  maps.roots.toList.map fun pair => ⟨pair.1, pair.2⟩

def stats (maps : IndexMaps) : IndexStats :=
  ⟨maps.documents.size, maps.roots.size, (maps.roots.toList.map (·.2)).max?⟩

end IndexMaps

/-! A map as a list of rows. -/

section Listing

variable {β ρ : Type} (toRow : String → β → ρ)

/-- The rows of the pairs of a map, in the order of its keys. -/
def listing (map : Std.ExtTreeMap String β) : List ρ :=
  map.toList.map fun pair => toRow pair.1 pair.2

variable {toRow} {key : ρ → String} {map : Std.ExtTreeMap String β} {rows after : List ρ}
  {row : ρ} {path : String} {value : β}

theorem mem_listing :
    row ∈ listing toRow map ↔ ∃ path value, map[path]? = some value ∧ row = toRow path value := by
  unfold listing
  constructor
  · intro member
    obtain ⟨⟨path, value⟩, pair, rfl⟩ := List.mem_map.mp member
    exact ⟨path, value, Std.ExtTreeMap.mem_toList_iff_getElem?_eq_some.mp pair, rfl⟩
  · rintro ⟨path, value, found, rfl⟩
    exact List.mem_map.mpr
      ⟨(path, value), Std.ExtTreeMap.mem_toList_iff_getElem?_eq_some.mpr found, rfl⟩

theorem map_key_listing (keyed : ∀ path value, key (toRow path value) = path) :
    (listing toRow map).map key = map.keys := by
  rw [listing, List.map_map, ← Std.ExtTreeMap.map_fst_toList_eq_keys]
  exact List.map_congr_left fun pair _ => keyed pair.1 pair.2

theorem pairwise_keys : map.keys.Pairwise (· < ·) := by
  refine Std.ExtTreeMap.ordered_keys.imp ?_
  intro left right less
  exact compare_lt_iff_lt.mp less

theorem nodup_keys : map.keys.Nodup :=
  pairwise_keys.imp fun less => ne_of_lt less

theorem nodup_key_of_perm (keyed : ∀ path value, key (toRow path value) = path)
    (perm : rows.Perm (listing toRow map)) : (rows.map key).Nodup := by
  rw [(perm.map key).nodup_iff, map_key_listing keyed]
  exact nodup_keys

/-- Rows with distinct keys are those of a map if they are what the map leads to. -/
theorem perm_listing (keyed : ∀ path value, key (toRow path value) = path)
    (distinct : (rows.map key).Nodup)
    (members : ∀ row, row ∈ rows ↔
      ∃ path value, map[path]? = some value ∧ row = toRow path value) :
    rows.Perm (listing toRow map) := by
  have also : (listing toRow map).Nodup := by
    have keys : ((listing toRow map).map key).Nodup := nodup_key_of_perm keyed (.refl _)
    exact keys.of_map
  rw [List.perm_ext_iff_of_nodup distinct.of_map also]
  intro row
  rw [members, mem_listing]

theorem perm_listing_insert (keyed : ∀ path value, key (toRow path value) = path)
    (perm : rows.Perm (listing toRow map)) (distinct : (after.map key).Nodup)
    (members : ∀ other, other ∈ after ↔
      other = toRow path value ∨ other ∈ rows ∧ key other ≠ path) :
    after.Perm (listing toRow (map.insert path value)) := by
  apply perm_listing keyed distinct
  intro other
  rw [members, perm.mem_iff, mem_listing]
  constructor
  · rintro (rfl | ⟨⟨here, held, found, rfl⟩, apart⟩)
    · exact ⟨path, value, by simp, rfl⟩
    · rw [keyed] at apart
      refine ⟨here, held, ?_, rfl⟩
      rw [Std.ExtTreeMap.getElem?_insert, if_neg (by simpa using apart.symm)]
      exact found
  · rintro ⟨here, held, found, rfl⟩
    rw [Std.ExtTreeMap.getElem?_insert] at found
    split at found
    · rename_i same
      cases found
      have equal : path = here := by simpa using same
      exact .inl (equal ▸ rfl)
    · rename_i unlike
      have apart : here ≠ path := fun same => unlike (by simp [same])
      exact .inr ⟨⟨here, held, found, rfl⟩, by rwa [keyed]⟩

theorem perm_listing_erase (keyed : ∀ path value, key (toRow path value) = path)
    (perm : rows.Perm (listing toRow map)) :
    (rows.filter fun row => decide (key row ≠ path)).Perm (listing toRow (map.erase path)) := by
  apply perm_listing keyed
  · exact (nodup_key_of_perm keyed perm).sublist (List.filter_sublist.map key)
  · intro other
    rw [List.mem_filter, perm.mem_iff, mem_listing, decide_eq_true_eq]
    constructor
    · rintro ⟨⟨here, held, found, rfl⟩, apart⟩
      rw [keyed] at apart
      refine ⟨here, held, ?_, rfl⟩
      rw [Std.ExtTreeMap.getElem?_erase, if_neg (by simpa using apart.symm)]
      exact found
    · rintro ⟨here, held, found, rfl⟩
      rw [Std.ExtTreeMap.getElem?_erase] at found
      split at found
      · contradiction
      · rename_i unlike
        have apart : here ≠ path := fun same => unlike (by simp [same])
        exact ⟨⟨here, held, found, rfl⟩, by rwa [keyed]⟩

/-- The row of a key is that of what the map holds under it. -/
theorem find?_of_perm_listing (keyed : ∀ path value, key (toRow path value) = path) (path : String)
    (perm : rows.Perm (listing toRow map)) :
    rows.find? (fun row => decide (key row = path)) = map[path]?.map (toRow path) := by
  cases found : rows.find? (fun row => decide (key row = path)) with
  | some row =>
      have member := perm.mem_iff.mp (List.mem_of_find?_eq_some found)
      obtain ⟨here, held, looked, rfl⟩ := mem_listing.mp member
      have same : here = path := by simpa [keyed] using List.find?_some found
      subst same
      rw [looked]
      rfl
  | none =>
      have absent := List.find?_eq_none.mp found
      cases looked : map[path]? with
      | none => rfl
      | some value =>
          have member := perm.mem_iff.mpr (mem_listing.mpr ⟨path, value, looked, rfl⟩)
          exact absurd (keyed path value) (by simpa using absent _ member)

/-- In the order of their keys, the rows of a map are its listing. -/
theorem mergeSort_of_perm_listing (keyed : ∀ path value, key (toRow path value) = path)
    (perm : rows.Perm (listing toRow map)) :
    (rows.mergeSort fun left right => decide (key left ≤ key right)) = listing toRow map := by
  have sorted := pairwise_mergeSort_key (nodup_key_of_perm keyed perm)
  have listed : (listing toRow map).Pairwise fun left right => key left < key right := by
    rw [← List.pairwise_map (f := key), map_key_listing keyed]
    exact pairwise_keys
  apply eq_of_pairwise_of_mem_iff (fun less => lt_asymm less) sorted listed
  intro row
  rw [List.mem_mergeSort, perm.mem_iff]

end Listing

theorem max?_of_perm {texts others : List String} (perm : texts.Perm others) :
    texts.max? = others.max? := by
  ext text
  rw [List.max?_eq_some_iff, List.max?_eq_some_iff]
  simp only [perm.mem_iff]

namespace RootScan

theorem latest?_cons (row : RootScan) (rows : List RootScan) :
    latest? (row :: rows) = some ((rows.map (·.time)).foldl max row.time) := by
  induction rows generalizing row with
  | nil => rfl
  | cons next rest ih =>
      -- Of the first two rows, only the greater time is carried on.
      have carried : latest? (row :: next :: rest) =
          latest? (⟨row.path, if row.time < next.time then next.time else row.time⟩ :: rest) := rfl
      rw [carried, ih, List.map_cons, List.foldl_cons, max_def_lt]

theorem latest?_eq_max? (rows : List RootScan) :
    latest? rows = (rows.map (·.time)).max? := by
  cases rows with
  | nil => rfl
  | cons row rest => exact (latest?_cons row rest).trans List.max?_cons'.symm

end RootScan

namespace Tables

variable {tables : Tables} {maps : IndexMaps} {path : String}

/-- Tables whose rows are those of two maps, and which no trigger watches. -/
structure Represents (tables : Tables) (maps : IndexMaps) : Prop where
  entries : tables.rows.Perm (listing Stored.toEntry maps.documents)
  roots : tables.rootRows.Perm (listing RootScan.mk maps.roots)
  quiet : ∀ table, tables.entries? = some table → table.triggers = []

/-- Tables that represent two maps, and of which none is missing. -/
structure Realizes (tables : Tables) (maps : IndexMaps) : Prop extends tables.Represents maps where
  complete : tables.isComplete = true

theorem blank_represents : blank.Represents .empty :=
  ⟨.refl _, .refl _, fun _ missing => by cases missing⟩

theorem Represents.ensure (represents : tables.Represents maps) : tables.ensure.Realizes maps := by
  obtain ⟨entries, roots, quiet⟩ := represents
  obtain ⟨entries?, roots?⟩ := tables
  refine ⟨⟨?_, ?_, ?_⟩, rfl⟩
  · cases entries? <;> exact entries
  · cases roots? <;> exact roots
  · rintro table ⟨⟩
    cases entries? with
    | none => rfl
    | some held => exact quiet held rfl

theorem Realizes.shape (realizes : tables.Realizes maps) :
    ∃ rows roots, tables = ⟨some ⟨rows, []⟩, some roots⟩ ∧
      rows.Perm (listing Stored.toEntry maps.documents) ∧
      roots.Perm (listing RootScan.mk maps.roots) := by
  obtain ⟨⟨entries, roots, quiet⟩, complete⟩ := realizes
  obtain ⟨entries?, roots?⟩ := tables
  simp only [isComplete, Bool.and_eq_true, Option.isSome_iff_exists] at complete
  obtain ⟨⟨⟨rows, triggers⟩, rfl⟩, rootRows, rfl⟩ := complete
  have none : triggers = [] := quiet _ rfl
  exact ⟨rows, rootRows, by rw [none], entries, roots⟩

/-! What changes make of the maps. -/

theorem Realizes.insert (realizes : tables.Realizes maps) (path : String) (stored : Stored) :
    ∃ after : Tables, tables.insert true ⟨path, some stored.content,
        Text.joinWords stored.tokens, some stored.hash, stored.time⟩ = .ok ((), after) ∧
      after.Realizes (maps.upsert path stored) := by
  obtain ⟨rows, roots, rfl, entries, scans⟩ := realizes.shape
  refine ⟨_, rfl, ⟨⟨?_, scans, ?_⟩, rfl⟩⟩
  · refine perm_listing_insert Stored.path_toEntry entries ?_ ?_
    · exact EntryTable.nodup_paths_putRow (nodup_key_of_perm Stored.path_toEntry entries)
    · exact fun _ => EntryTable.mem_putRow
  · rintro table ⟨⟩
    rfl

/-- A draft without a value that a row must have is refused. -/
theorem Realizes.insert_of_missing (realizes : tables.Realizes maps) {draft : Draft}
    {fault : DatabaseFault} (missing : Entry.ofDraft draft = .error fault) :
    tables.insert true draft = .error fault := by
  obtain ⟨rows, roots, rfl, _, _⟩ := realizes.shape
  simp [Tables.insert, Tables.entries, EntryTable.insert, EntryTable.firing?, missing, bind,
    Except.bind]

theorem Realizes.delete (realizes : tables.Realizes maps) (path : String) :
    ∃ after : Tables, tables.delete path = .ok (maps.documents.contains path, after) ∧
      after.Realizes (maps.delete path) := by
  obtain ⟨rows, roots, rfl, entries, scans⟩ := realizes.shape
  have found := find?_of_perm_listing Stored.path_toEntry path entries
  have removed : EntryTable.delete ⟨rows, []⟩ path =
      .ok (maps.documents.contains path, ⟨rows.filter (·.path ≠ path), []⟩) := by
    rw [Std.ExtTreeMap.contains_eq_isSome_getElem?]
    unfold EntryTable.delete EntryTable.find?
    cases held : maps.documents[path]? with
    | none =>
        rw [held] at found
        have all : rows.filter (fun row => decide (row.path ≠ path)) = rows := by
          simpa using found
        simp only [found, all]
        rfl
    | some stored =>
        rw [held] at found
        simp only [found]
        rfl
  refine ⟨⟨some ⟨rows.filter (·.path ≠ path), []⟩, some roots⟩, ?_, ⟨⟨?_, scans, ?_⟩, rfl⟩⟩
  · simp only [Tables.delete, Tables.entries, bind, Except.bind, removed]
    rfl
  · exact perm_listing_erase Stored.path_toEntry entries
  · rintro table ⟨⟩
    rfl

theorem Realizes.recordRoot (realizes : tables.Realizes maps) (root time : String) :
    ∃ after : Tables, tables.recordRoot ⟨root, time⟩ = .ok ((), after) ∧
      after.Realizes (maps.recordRoot root time) := by
  obtain ⟨rows, roots, rfl, entries, scans⟩ := realizes.shape
  refine ⟨_, rfl, ⟨⟨entries, ?_, ?_⟩, rfl⟩⟩
  · refine perm_listing_insert RootScan.path_mk scans ?_ ?_
    · exact RootScan.nodup_paths_put (nodup_key_of_perm RootScan.path_mk scans)
    · exact fun _ => RootScan.mem_put
  · rintro table ⟨⟩
    rfl

/-! What questions make of the maps. -/

theorem Realizes.hashOf (realizes : tables.Realizes maps) (path : String) :
    tables.hashOf path = .ok (maps.hashOf path) := by
  obtain ⟨rows, roots, rfl, entries, _⟩ := realizes.shape
  have found := find?_of_perm_listing Stored.path_toEntry path entries
  change Except.ok ((rows.find? fun row => decide (row.path = path)).map (·.hash)) = _
  rw [found, Option.map_map]
  rfl

theorem Realizes.paths (realizes : tables.Realizes maps) :
    tables.paths = .ok maps.documents.keys := by
  obtain ⟨rows, roots, rfl, entries, _⟩ := realizes.shape
  have sorted := mergeSort_of_perm_listing Stored.path_toEntry entries
  have inOrder : (rows.map (·.path)).mergeSort (fun left right => decide (left ≤ right)) =
      maps.documents.keys := by
    rw [← map_key_listing Stored.path_toEntry, ← sorted]
    exact (List.map_mergeSort (f := Entry.path) fun _ _ _ _ => rfl).symm
  exact congrArg Except.ok inOrder

theorem Realizes.documents (realizes : tables.Realizes maps) (limit : Int) :
    tables.documents limit = .ok (maps.listed limit) := by
  obtain ⟨rows, roots, rfl, entries, _⟩ := realizes.shape
  have same : (rows.map Entry.toDocument).Perm
      (listing Stored.toDocument maps.documents) := by
    have read := entries.map Entry.toDocument
    rwa [listing, List.map_map] at read
  have sorted : (rows.mergeSort Entry.newerFirst).map Entry.toDocument = maps.newest := by
    rw [Entry.map_mergeSort_toDocument]
    exact Document.mergeSort_of_perm same
      (nodup_key_of_perm Stored.path_toDocument (.refl _))
  have answer : (if 0 < limit then (rows.mergeSort Entry.newerFirst).take limit.toNat
      else rows.mergeSort Entry.newerFirst).map Entry.toDocument = maps.listed limit := by
    unfold IndexMaps.listed
    rw [← sorted]
    by_cases positive : 0 < limit
    · rw [if_pos positive, if_neg (by omega), List.map_take]
    · rw [if_neg positive, if_pos (by omega)]
  exact congrArg Except.ok answer

theorem Realizes.rootScans (realizes : tables.Realizes maps) :
    tables.rootScans = .ok maps.rootScans := by
  obtain ⟨rows, roots, rfl, _, scans⟩ := realizes.shape
  have sorted := mergeSort_of_perm_listing RootScan.path_mk scans
  exact congrArg Except.ok sorted

theorem Realizes.stats (realizes : tables.Realizes maps) : tables.stats = .ok maps.stats := by
  obtain ⟨rows, roots, rfl, entries, scans⟩ := realizes.shape
  have documents : rows.length = maps.documents.size := by
    rw [entries.length_eq, listing, List.length_map, Std.ExtTreeMap.length_toList]
  have rootCount : roots.length = maps.roots.size := by
    rw [scans.length_eq, listing, List.length_map, Std.ExtTreeMap.length_toList]
  have times : (roots.map (·.time)).Perm (maps.roots.toList.map (·.2)) := by
    have same := scans.map (·.time)
    rwa [listing, List.map_map] at same
  change Except.ok (⟨rows.length, roots.length, RootScan.latest? roots⟩ : IndexStats) = _
  rw [documents, rootCount, RootScan.latest?_eq_max?, max?_of_perm times]
  rfl

end Tables

end FolderIndex
