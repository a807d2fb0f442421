import FolderIndex.Search
import FolderIndex.Proofs.Relevance
import FolderIndex.Proofs.Text.Words
import Mathlib.Data.List.Sort

namespace FolderIndex

/-! What a search gives: the first of all rows that have a token of the query, in the order of
their relevance. -/

/-- Rows with a path each, whose tokens are those of their content. -/
structure EntryTable.IsTokenized (table : EntryTable) : Prop where
  distinct : (table.rows.map (·.path)).Nodup
  tokens : ∀ row ∈ table.rows, row.tokens = Text.joinWords (Text.tokenize row.content)

/-- A row as a search gives it. -/
def Entry.asMatch (query : Finset String) (snippetLength : Int) (row : Entry) : Match Similarity :=
  ⟨row.path, ⟨(query ∩ row.tokenSet).card, (query ∪ row.tokenSet).card⟩,
    Text.snippet snippetLength row.content⟩

/-- A number that is given and positive, or else another one. -/
def positiveOr (fallback : Nat) (number? : Option Int) : Nat :=
  match number? with
  | some number => if 1 ≤ number then number.toNat else fallback
  | none => fallback

/-- The rows that match a query, in order. -/
def EntryTable.ranking (query : Finset String) (table : EntryTable) : List Entry :=
  ((table.rows.mergeSort Entry.newerFirst).filter (·.meets query)).mergeSort (ranksBefore query)

namespace EntryTable

variable {table other : EntryTable} {query : Finset String} {row : Entry}

theorem ranking_perm (query : Finset String) (table : EntryTable) :
    (table.ranking query).Perm (table.rows.filter (·.meets query)) :=
  (List.mergeSort_perm _ _).trans ((List.mergeSort_perm _ _).filter _)

theorem mem_ranking : row ∈ table.ranking query ↔ row ∈ table.rows ∧ row.meets query = true :=
  (ranking_perm query table).mem_iff.trans List.mem_filter

theorem ranking_distinct (distinct : (table.rows.map (·.path)).Nodup) :
    ((table.ranking query).map (·.path)).Nodup := by
  rw [((ranking_perm query table).map _).nodup_iff]
  exact distinct.sublist (List.filter_sublist.map _)

/-- A ranking is in order, each row strictly before those behind it. -/
theorem ranking_pairwise (query : Finset String) (distinct : (table.rows.map (·.path)).Nodup) :
    (table.ranking query).Pairwise (ComesBefore query) := by
  have sorted : (table.ranking query).Pairwise fun left right => ranksBefore query left right :=
    pairwise_mergeSort_weighsFirst _ _ _
  have apart : ((table.ranking query).map (·.path)).Nodup := ranking_distinct distinct
  rw [List.Nodup, List.pairwise_map] at apart
  refine List.Pairwise.imp₂ ?_ sorted apart
  intro left right ranks unlike
  exact (ranksBefore_iff.mp ranks).resolve_right fun same => unlike same.2

/-- No row behind a cut comes before one that is not. -/
theorem take_comesBefore (distinct : (table.rows.map (·.path)).Nodup) (limit : Nat)
    (member : row ∈ table.rows) (meeting : row.meets query = true)
    (outside : row ∉ (table.ranking query).take limit) :
    ∀ chosen ∈ (table.ranking query).take limit, ComesBefore query chosen row := by
  intro chosen inside
  have split : row ∈ (table.ranking query).take limit ++ (table.ranking query).drop limit := by
    rw [List.take_append_drop]
    exact mem_ranking.mpr ⟨member, meeting⟩
  have behind := (List.mem_append.mp split).resolve_left outside
  exact (ranking_pairwise query distinct).rel_of_mem_take_of_mem_drop inside behind

end EntryTable

/-- A row with nothing in it that a search does not show. -/
def Entry.bare (row : Entry) : Entry :=
  ⟨row.path, row.content, "", "", ""⟩

namespace EntryTable

variable {table other : EntryTable}

theorem map_bare_perm
    (same : (table.rows.map fun row => (row.path, row.content)).Perm
      (other.rows.map fun row => (row.path, row.content))) :
    (table.rows.map Entry.bare).Perm (other.rows.map Entry.bare) := by
  have bared := same.map fun shown : String × String => (⟨shown.1, shown.2, "", "", ""⟩ : Entry)
  rw [List.map_map, List.map_map] at bared
  exact bared

/-- The ranking depends on nothing but the paths and contents of the rows. -/
theorem ranking_map_bare (query : Finset String) (distinct : (table.rows.map (·.path)).Nodup)
    (otherDistinct : (other.rows.map (·.path)).Nodup)
    (same : (table.rows.map fun row => (row.path, row.content)).Perm
      (other.rows.map fun row => (row.path, row.content))) :
    (table.ranking query).map Entry.bare = (other.ranking query).map Entry.bare := by
  -- Both rankings are sorted lists of the same bare rows, and there is only one.
  have bareRanking : ∀ {table : EntryTable}, ((table.ranking query).map Entry.bare).Perm
      ((table.rows.map Entry.bare).filter (·.meets query)) := by
    intro table
    rw [List.filter_map]
    exact (ranking_perm query table).map _
  have sorted : ∀ {table : EntryTable}, (table.rows.map (·.path)).Nodup →
      ((table.ranking query).map Entry.bare).Pairwise (ComesBefore query) := by
    intro table distinct
    rw [List.pairwise_map]
    exact ranking_pairwise query distinct
  have perm : ((table.ranking query).map Entry.bare).Perm ((other.ranking query).map Entry.bare) :=
    bareRanking.trans (((map_bare_perm same).filter _).trans bareRanking.symm)
  refine List.Perm.eq_of_pairwise ?_ (sorted distinct) (sorted otherDistinct) perm
  intro left right _ _ before after
  exact absurd after before.asymm

theorem ranking_asMatch_eq (query : Finset String)
    (distinct : (table.rows.map (·.path)).Nodup) (otherDistinct : (other.rows.map (·.path)).Nodup)
    (same : (table.rows.map fun row => (row.path, row.content)).Perm
      (other.rows.map fun row => (row.path, row.content))) (limit : Nat) (snippetLength : Int) :
    ((table.ranking query).take limit).map (Entry.asMatch query snippetLength) =
      ((other.ranking query).take limit).map (Entry.asMatch query snippetLength) := by
  have shown : ∀ table : EntryTable,
      ((table.ranking query).take limit).map (Entry.asMatch query snippetLength) =
        (((table.ranking query).map Entry.bare).take limit).map
          (Entry.asMatch query snippetLength) := by
    intro table
    rw [← List.map_take, List.map_map]
    rfl
  rw [shown table, shown other, ranking_map_bare query distinct otherDistinct same]

end EntryTable

namespace Searcher

section Tokens

variable {query : List String}

theorem candidates_eq (asked : query ≠ []) {rows : List Entry}
    (tokens : ∀ row ∈ rows, row.tokens = Text.joinWords (Text.tokenize row.content)) :
    candidates query (rows.map Entry.toDocument) =
      (rows.filter (·.meets query.toFinset)).map (Entry.scored query) := by
  have scored : (rows.map Entry.toDocument).map (fun document =>
      (⟨document.path, Similarity.of query document.tokens, document.content⟩ :
        Match Similarity)) = rows.map (Entry.scored query) := by
    rw [List.map_map]
    apply List.map_congr_left
    intro row member
    have readBack : Text.words row.tokens = Text.tokenize row.content := by
      rw [tokens row member, Text.words_joinWords_tokenize]
    simp only [Function.comp_apply, Entry.toDocument, Entry.scored, readBack]
  unfold candidates
  rw [scored, List.filter_map]
  congr 1
  apply List.filter_congr
  intro row _
  exact positive_scored asked row

theorem ordered_scored (asked : query ≠ []) {rows : List Entry}
    (meeting : ∀ row ∈ rows, row.meets query.toFinset = true) :
    Match.ordered (rows.map (Entry.scored query)) =
      (rows.mergeSort (ranksBefore query.toFinset)).map (Entry.scored query) := by
  have positive : (rows.map (Entry.scored query)).filter
      (fun candidate => Score.positive candidate.score) = rows.map (Entry.scored query) := by
    apply List.filter_eq_self.mpr
    intro candidate member
    obtain ⟨row, rowMember, rfl⟩ := List.mem_map.mp member
    rw [positive_scored asked]
    exact meeting row rowMember
  unfold Match.ordered
  rw [positive]
  exact (List.map_mergeSort fun left _ right _ => precedes_scored asked left right).symm

theorem resolveLimit_eq (fallback : Nat) (limit? : Option Int) :
    Match.resolveLimit fallback limit? = positiveOr fallback limit? := by
  unfold Match.resolveLimit positiveOr
  cases limit? with
  | none => rfl
  | some limit =>
      dsimp only
      split
      · rename_i positive
        rw [if_pos (by omega), Int.toNat_of_nonneg (by omega)]
      · rename_i notPositive
        rw [if_neg (by omega)]

theorem positiveOr_pos {fallback : Nat} (positive : 0 < fallback) (number? : Option Int) :
    0 < positiveOr fallback number? := by
  unfold positiveOr
  cases number? with
  | none => exact positive
  | some number =>
      dsimp only
      split
      · omega
      · exact positive

/-- The documents of a store that can be read, the newest first. -/
theorem listDocuments_eq {archive after : Archive} {store thread : Nat} {tables : Tables}
    {table : EntryTable} (read : archive.reading store thread .listDocuments = (.ok tables, after))
    (entries : tables.entries? = some table) :
    archive.listDocuments store thread 0 =
      (.ok ((table.rows.mergeSort Entry.newerFirst).map Entry.toDocument), after) := by
  have documents : tables.documents 0 =
      .ok ((table.rows.mergeSort Entry.newerFirst).map Entry.toDocument) := by
    simp [Tables.documents, Tables.entries, entries, bind, Except.bind, pure, Except.pure]
  have inRange : ¬ Archive.greatestLimit < 0 := by decide
  simp [Archive.listDocuments, Archive.query, read, documents, inRange]

theorem best_scored (asked : query ≠ []) (store : Nat) (snippetLength : Int)
    (default? limit? : Option Int) (audience : Audience) {rows : List Entry}
    (meeting : ∀ row ∈ rows, row.meets query.toFinset = true) :
    (make store snippetLength default? audience).best limit? (rows.map (Entry.scored query)) =
      ((rows.mergeSort (ranksBefore query.toFinset)).take
        (positiveOr (positiveOr 5 default?) limit?)).map
          (Entry.asMatch query.toFinset snippetLength) := by
  let limit := positiveOr (positiveOr 5 default?) limit?
  have limitPositive : 0 < limit := positiveOr_pos (positiveOr_pos (by decide) default?) limit?
  have fallback : (make store snippetLength default? audience).defaultLimit =
      (positiveOr 5 default? : Nat) := resolveLimit_eq 5 default?
  have cut : (Match.resolveLimit Match.defaultLimit (some (limit : Int))).toNat = limit := by
    have positive : (0 : Int) < limit := by omega
    simp only [Match.resolveLimit, if_pos positive, Int.toNat_natCast]
  unfold best Match.rank
  rw [fallback, resolveLimit_eq, cut, ordered_scored asked meeting, ← List.map_take, List.map_map]
  apply List.map_congr_left
  intro row member
  have meets : row.meets query.toFinset = true :=
    meeting row (List.mem_mergeSort.mp (List.mem_of_mem_take member))
  have filled : Text.tokenize row.content ≠ [] := by
    intro empty
    simp [Entry.meets, tokenSet_of_empty empty] at meets
  simp only [Function.comp_apply, Entry.asMatch, ← scored_of_filled asked filled]
  rfl

end Tokens

variable {query : String}

theorem search_eq (asked : Text.tokenize query ≠ []) (store : Nat) (snippetLength : Int)
    (default? limit? : Option Int) (audience : Audience) {archive after : Archive} {thread : Nat}
    {tables : Tables} {table : EntryTable}
    (read : archive.reading store thread .listDocuments = (.ok tables, after))
    (entries : tables.entries? = some table) (tokenized : table.IsTokenized) :
    ((make store snippetLength default? audience).search archive thread query limit?).matches? =
      .ok (((table.ranking (Text.tokenize query).toFinset).take
        (positiveOr (positiveOr 5 default?) limit?)).map
          (Entry.asMatch (Text.tokenize query).toFinset snippetLength)) := by
  have some : (Text.tokenize query).isEmpty = false := by simpa using asked
  have tokens : ∀ row ∈ table.rows.mergeSort Entry.newerFirst,
      row.tokens = Text.joinWords (Text.tokenize row.content) := by
    intro row member
    exact tokenized.tokens row (List.mem_mergeSort.mp member)
  unfold search
  simp only [some, Bool.false_eq_true, if_false]
  rw [show (make store snippetLength default? audience).store = store from rfl,
    listDocuments_eq read entries]
  dsimp only
  rw [candidates_eq asked tokens, best_scored asked]
  · rfl
  · intro row member
    exact (List.mem_filter.mp member).2

/-- A search gives the first rows, as many as its limit says, of a ranking of all rows that have
a token of the query. It depends on nothing but the paths and contents of the rows. -/
theorem search_gives_top_matches (store : Nat) (snippetLength : Int) (default? limit? : Option Int)
    (audience : Audience) (archive : Archive) (thread : Nat) (query : String) :
    let wanted := (Text.tokenize query).toFinset
    let limit := positiveOr (positiveOr 5 default?) limit?
    let found := ((make store snippetLength default? audience).search archive thread query
      limit?).matches?
    (wanted = ∅ → found = .ok []) ∧
    ∀ {tables : Tables} {table : EntryTable} {after : Archive},
      archive.reading store thread .listDocuments = (.ok tables, after) →
      tables.entries? = some table → table.IsTokenized →
      (wanted ≠ ∅ → ∃ ranking : List Entry,
        ranking.Perm (table.rows.filter (·.meets wanted)) ∧
        ranking.Pairwise (ComesBefore wanted) ∧
        found = .ok ((ranking.take limit).map (Entry.asMatch wanted snippetLength)) ∧
        (ranking.take limit).Nodup ∧
        ∀ row ∈ table.rows, row.meets wanted = true → row ∉ ranking.take limit →
          ∀ chosen ∈ ranking.take limit, ComesBefore wanted chosen row) ∧
      ∀ {others : Tables} {other : EntryTable} {otherArchive otherAfter : Archive}
        (otherStore otherThread : Nat) (otherAudience : Audience),
        otherArchive.reading otherStore otherThread .listDocuments = (.ok others, otherAfter) →
        others.entries? = some other → other.IsTokenized →
        (table.rows.map fun row => (row.path, row.content)).Perm
          (other.rows.map fun row => (row.path, row.content)) →
        ((make otherStore snippetLength default? otherAudience).search otherArchive otherThread
          query limit?).matches? = found := by
  intro wanted limit found
  have nothing : Text.tokenize query = [] → ∀ (store : Nat) (audience : Audience)
      (archive : Archive) (thread : Nat),
        ((make store snippetLength default? audience).search archive thread query
          limit?).matches? = .ok [] := by
    intro empty store audience archive thread
    simp [search, empty]
  refine ⟨fun empty => nothing (List.toFinset_eq_empty_iff _ |>.mp empty) _ _ _ _, ?_⟩
  intro tables table after read entries tokenized
  refine ⟨?_, ?_⟩
  · intro some
    have asked : Text.tokenize query ≠ [] := fun empty => some (by simp [wanted, empty])
    have pairwise := EntryTable.ranking_pairwise wanted tokenized.distinct
    refine ⟨table.ranking wanted, EntryTable.ranking_perm wanted table, pairwise,
      search_eq asked store snippetLength default? limit? audience read entries tokenized, ?_, ?_⟩
    · exact ((EntryTable.ranking_distinct tokenized.distinct).of_map _).sublist
        (List.take_sublist _ _)
    · intro row member meeting outside
      exact EntryTable.take_comesBefore tokenized.distinct limit member meeting outside
  · intro others other otherArchive otherAfter otherStore otherThread otherAudience otherRead
      otherEntries otherTokenized same
    by_cases empty : Text.tokenize query = []
    · exact (nothing empty _ _ _ _).trans (nothing empty _ _ _ _).symm
    · have first := search_eq empty store snippetLength default? limit? audience read entries
        tokenized
      have second := search_eq empty otherStore snippetLength default? limit? otherAudience
        otherRead otherEntries otherTokenized
      rw [second]
      refine Eq.trans ?_ first.symm
      rw [EntryTable.ranking_asMatch_eq wanted tokenized.distinct otherTokenized.distinct same]

/-! Three rows, of which two are equally relevant to a query and one has no token of it. -/

def exampleTable : EntryTable :=
  ⟨[⟨"/b", "Hi, you.", "hi you", "2", "t"⟩, ⟨"/a", "you: hi", "you hi", "1", "u"⟩,
    ⟨"/c", "Bye", "bye", "3", "t"⟩], []⟩

def exampleShelf : Archive :=
  ⟨⟨.directory [], [], [], [], ⟨"/h", "/"⟩⟩, [.ofTables ⟨some exampleTable, some []⟩],
    [⟨.memory, ⟨0, none, false⟩, [], false⟩], ⟨0, 1⟩⟩

theorem exampleShelf_reading :
    exampleShelf.reading 0 0 .listDocuments =
      (.ok ⟨some exampleTable, some []⟩, exampleShelf) := rfl

theorem exampleTable_isTokenized : exampleTable.IsTokenized := by
  refine ⟨by decide, ?_⟩
  decide +kernel

theorem search_of_three_rows :
    let wanted := (Text.tokenize "HI").toFinset
    exampleShelf.reading 0 0 .listDocuments =
      (.ok ⟨some exampleTable, some []⟩, exampleShelf) ∧
    exampleTable.IsTokenized ∧ wanted ≠ ∅ ∧
    ∃ ranking : List Entry,
      ranking.Perm (exampleTable.rows.filter (·.meets wanted)) ∧
      ranking.Pairwise (ComesBefore wanted) ∧
      ((make 0 2 none .caller).search exampleShelf 0 "HI" (some 1)).matches? =
        .ok ((ranking.take 1).map (Entry.asMatch wanted 2)) := by
  have some : (Text.tokenize "HI").toFinset ≠ ∅ := by decide +kernel
  obtain ⟨ranking, perm, pairwise, given, _⟩ :=
    ((search_gives_top_matches 0 2 none (Option.some 1) .caller exampleShelf 0 "HI").2
      exampleShelf_reading rfl exampleTable_isTokenized).1 some
  exact ⟨exampleShelf_reading, exampleTable_isTokenized, some, ranking, perm, pairwise, given⟩

end Searcher

end FolderIndex
