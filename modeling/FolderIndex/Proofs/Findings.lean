import FolderIndex.Proofs.IndexMaps
import FolderIndex.Proofs.Text.Numeral
import FolderIndex.Proofs.TopMatches

namespace FolderIndex

/-! What a search finds, as a function of the rows of a store and of one limit: the one that is
settled on in the end. -/

namespace Searcher

/-- What a search of some rows finds. -/
def foundIn (rows : List Entry) (snippetLength limit : Int) (query : String) :
    List (Match Similarity) :=
  let tokens := Text.tokenize query
  if tokens.isEmpty then []
  else
    (Match.rank (some limit) (candidates tokens
      ((rows.mergeSort Entry.newerFirst).map Entry.toDocument))).map fun candidate =>
        { candidate with snippet := Text.snippet snippetLength candidate.snippet }

variable {archive after : Archive} {thread : Nat} {tables : Tables} {table : EntryTable}
  {searcher : Searcher}

/-- A searcher whose store can be read finds what is in its rows, up to the limit that it settles
on. -/
theorem search_finds
    (read : archive.reading searcher.store thread .listDocuments = (.ok tables, after))
    (entries : tables.entries? = some table) (query : String) (limit? : Option Int) :
    (searcher.search archive thread query limit?).matches? =
      .ok (foundIn table.rows searcher.snippetLength
        (Match.resolveLimit searcher.defaultLimit limit?) query) := by
  unfold search foundIn
  dsimp only
  split
  · rfl
  · rw [listDocuments_eq read entries]
    rfl

/-- Rows with distinct paths are the same to a search in whichever order they lie. -/
theorem foundIn_of_perm {rows others : List Entry} (same : rows.Perm others)
    (distinct : (rows.map (·.path)).Nodup) (snippetLength limit : Int) (query : String) :
    foundIn rows snippetLength limit query = foundIn others snippetLength limit query := by
  have listed : (rows.mergeSort Entry.newerFirst).map Entry.toDocument =
      (others.mergeSort Entry.newerFirst).map Entry.toDocument := by
    rw [Entry.map_mergeSort_toDocument, Entry.map_mergeSort_toDocument]
    refine Document.mergeSort_of_perm (same.map _) ?_
    have paths : (others.map Entry.toDocument).map (·.path) = others.map (·.path) := by
      rw [List.map_map]
      rfl
    rw [paths]
    exact (same.map _).nodup_iff.mp distinct
  rw [foundIn, listed, foundIn]

end Searcher

namespace Match

/-- A limit that is settled is positive, and settled for good. -/
theorem resolveLimit_pos {fallback : Int} (positive : 0 < fallback) (limit? : Option Int) :
    0 < resolveLimit fallback limit? := by
  cases limit? with
  | none => exact positive
  | some limit =>
      unfold resolveLimit
      dsimp only
      split
      · assumption
      · exact positive

theorem resolveLimit_of_pos (fallback : Int) {limit : Int} (positive : 0 < limit) :
    resolveLimit fallback (some limit) = limit := if_pos positive

/-- A limit that was written out is settled as it would have been before. -/
theorem limitOr_toString (fallback : Int) {limit? : Option Int}
    (short : ∀ limit ∈ limit?, (Nat.toDigits 10 limit.natAbs).length ≤ Text.digitLimit) :
    Text.limitOr fallback (limit?.map toString) = resolveLimit fallback limit? := by
  cases limit? with
  | none => rfl
  | some limit =>
      rw [Option.map_some, Text.limitOr, Option.bind_some,
        Text.readInteger?_toString (short limit rfl)]
      rfl

end Match

end FolderIndex
