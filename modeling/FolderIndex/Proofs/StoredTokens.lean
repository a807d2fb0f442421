import FolderIndex.Proofs.Rows
import FolderIndex.Proofs.Seats
import FolderIndex.Proofs.Text.Words

namespace FolderIndex

/-! Tokens that are stored with a document and read back. They are kept as one text, so what is read
back are the words of them all. -/

namespace Tables

variable {tables : Tables} {table : EntryTable} {draft : Draft} {row : Entry}

/-- The tables with a row put among those of their table of documents. -/
def withRow (tables : Tables) (table : EntryTable) (row : Entry) : Tables :=
  { tables with entries? := some { table with rows := EntryTable.putRow row table.rows } }

/-- A row is put among the others if no trigger watches its path. -/
theorem insert_of_quiet (entries : tables.entries? = some table)
    (quiet : table.firing? .insert draft.path = none) (drafted : Entry.ofDraft draft = .ok row) :
    tables.insert true draft = .ok ((), tables.withRow table row) := by
  simp [insert, Tables.entries, entries, EntryTable.insert, quiet, drafted, withRow, bind,
    Except.bind, pure, Except.pure]

/-- Of the path of a row that was put among others, no other document is listed; and it is listed
itself where no limit is set. -/
theorem documents_withRow (tables : Tables) (table : EntryTable) (row : Entry) (limit : Int) :
    ∃ documents, (tables.withRow table row).documents limit = .ok documents ∧
      (limit ≤ 0 → row.toDocument ∈ documents) ∧
      ∀ document ∈ documents, document.path = row.path → document = row.toDocument := by
  let sorted := (EntryTable.putRow row table.rows).mergeSort Entry.newerFirst
  have mem_sorted : ∀ other, other ∈ sorted ↔
      other = row ∨ other ∈ table.rows ∧ other.path ≠ row.path := fun other =>
    List.mem_mergeSort.trans EntryTable.mem_putRow
  refine ⟨(if 0 < limit then sorted.take limit.toNat else sorted).map Entry.toDocument, rfl, ?_, ?_⟩
  · intro unlimited
    rw [if_neg (by omega)]
    exact List.mem_map_of_mem ((mem_sorted row).mpr (.inl rfl))
  · intro document member same
    obtain ⟨other, found, rfl⟩ := List.mem_map.mp member
    have inSorted : other ∈ sorted := by
      split at found
      · exact List.mem_of_mem_take found
      · exact found
    rcases (mem_sorted other).mp inSorted with rfl | ⟨_, apart⟩
    · rfl
    · exact absurd same apart

end Tables

namespace Archive

variable {archive : Archive} {seat : Seat} {own : Nat} {ledger : Ledger} {table : EntryTable}
  {path : String}

/-- A document that may be stored is stored, and committed with all that was pending. -/
theorem Keeps.upsert_of_quiet (keeps : archive.Keeps seat own ledger)
    (serves : archive.Serves seat own) (entries : ledger.current.entries? = some table)
    (solid : Text.isBlankText path = false) (quiet : table.firing? .insert path = none)
    (content hash : String) (tokens : List String) :
    let row : Entry := ⟨path, content, Text.joinWords tokens, hash, archive.stamp.1⟩
    ∃ after, archive.upsert own path (some content) tokens (some hash) = (.ok (), after) ∧
      archive.Moves seat own ⟨ledger.current.withRow table row, none, archive.clock.read.2⟩
        after := by
  intro row
  let draft : Draft := ⟨path, some content, row.tokens, some hash, row.updatedAt⟩
  have change : ledger.current.insert true draft = .ok ((), ledger.current.withRow table row) :=
    Tables.insert_of_quiet entries quiet rfl
  have timed := keeps.timed archive.clock.read.2
  obtain ⟨after, done, moves⟩ := timed.keeps.transact (timed.serves serves) (·.insert true draft)
  have current : ({ ledger with clock := archive.clock.read.2 } : Ledger).current =
      ledger.current := rfl
  simp only [Ledger.transact, current, change] at done moves
  refine ⟨after, ?_, timed.trans moves⟩
  have stamped : archive.stamp.2 = { archive with clock := archive.clock.read.2 } := rfl
  have written : archive.stamp.2.transact own (·.insert true draft) = (.ok (), after) := by
    rw [stamped, done]
  unfold Archive.upsert
  rw [if_neg (by simp [solid])]
  exact congrArg (named (.upsert path)) written

/-- Every store on the database lists what is committed and was not left pending. -/
theorem Keeps.listDocuments_of_idle {tables : Tables} {clock : Clock}
    (keeps : archive.Keeps seat own ⟨tables, none, clock⟩) {store : Nat}
    (serves : archive.Serves seat store) (alone : seat.place? = none → store = own) (thread : Nat)
    {limit : Int} (small : limit ≤ greatestLimit) {documents : List Document}
    (listed : tables.documents limit = .ok documents) :
    (archive.listDocuments store thread limit).1 = .ok documents := by
  obtain ⟨last, asked, _⟩ := keeps.query serves alone thread .listDocuments (·.documents limit)
  have shown : seat.shown ⟨tables, none, clock⟩ = tables := by
    unfold Seat.shown
    split <;> rfl
  rw [shown, listed] at asked
  rw [listDocuments, asked]
  simp only [Except.mapError, if_neg (Int.not_lt.mpr small)]

/-- The tokens that are listed for a document after it was stored are the words of the tokens that
it was stored with, one after the other. They are the same tokens just if each of these is one word.
So the tokens of a text are read back as they are. A document is stored wherever its path is not
blank and no trigger watches it, and it is listed through every store on the database. -/
theorem tokens_are_read_back (keeps : archive.Keeps seat own ledger)
    (serves : archive.Serves seat own) (entries : ledger.current.entries? = some table)
    (solid : Text.isBlankText path = false) (quiet : table.firing? .insert path = none)
    (content hash : String) (tokens : List String) :
    let stored := archive.upsert own path (some content) tokens (some hash)
    stored.1 = .ok () ∧
    ∀ store, archive.Serves seat store → (seat.place? = none → store = own) →
      ∀ thread, ∀ limit ≤ greatestLimit, ∃ documents,
        (stored.2.listDocuments store thread limit).1 = .ok documents ∧
        (limit ≤ 0 → ∃ document ∈ documents, document.path = path) ∧
        ∀ document ∈ documents, document.path = path →
          document.tokens = tokens.flatMap Text.words ∧
          (document.tokens = tokens ↔ ∀ token ∈ tokens, token ≠ "" ∧
            ∀ character ∈ token.toList, Text.isBlank character = false) ∧
          ∀ text, tokens = Text.tokenize text → document.tokens = Text.tokenize text := by
  intro stored
  obtain ⟨after, done, moves⟩ :=
    keeps.upsert_of_quiet serves entries solid quiet content hash tokens
  have result : stored = (.ok (), after) := done
  rw [result]
  refine ⟨rfl, fun store serving alone thread limit small => ?_⟩
  obtain ⟨documents, given, listed, only⟩ := ledger.current.documents_withRow table
    ⟨path, content, Text.joinWords tokens, hash, archive.stamp.1⟩ limit
  refine ⟨documents,
    moves.keeps.listDocuments_of_idle (moves.serves serving) alone thread small given,
    fun unlimited => ⟨_, listed unlimited, rfl⟩, fun document member same => ?_⟩
  have read : document.tokens = tokens.flatMap Text.words := by
    rw [only document member same]
    exact Text.words_joinWords_flatMap tokens
  refine ⟨read, ?_, ?_⟩
  · rw [read]
    exact Text.flatMap_words_eq_self_iff
  · rintro text rfl
    rw [read]
    exact Text.flatMap_words_eq_self_iff.mpr fun _ => Text.clean_of_mem_tokenize

/-! A store in memory with nothing in it. -/

def exampleNotes : Archive :=
  ⟨.initial ⟨"/h", "/"⟩, [.ofTables Tables.blank.ensure], [⟨.memory, ⟨0, none, false⟩, [], false⟩],
    ⟨0, 1⟩⟩

def exampleNotesLedger : Ledger := ⟨Tables.blank.ensure, none, ⟨0, 1⟩⟩

theorem exampleNotes_keeps : exampleNotes.Keeps ⟨0, none⟩ 0 exampleNotesLedger :=
  ⟨⟨rfl, rfl⟩, rfl⟩

theorem exampleNotes_serves : exampleNotes.Serves ⟨0, none⟩ 0 :=
  ⟨by decide, ⟨rfl, rfl, fun _ => rfl, nofun⟩⟩

/-- A token with a space in it is read back as two, and an empty one as none. -/
theorem tokens_with_blanks_are_read_back :
    let tokens := ["a b", "", "c\u00A0"]
    let stored := exampleNotes.upsert 0 "/n" (some "a b c") tokens (some "1")
    exampleNotes.Keeps ⟨0, none⟩ 0 exampleNotesLedger ∧ exampleNotes.Serves ⟨0, none⟩ 0 ∧
    exampleNotesLedger.current.entries? = some .empty ∧ Text.isBlankText "/n" = false ∧
    EntryTable.empty.firing? .insert "/n" = none ∧
    stored.1 = .ok () ∧ ∃ documents, (stored.2.listDocuments 0 0 0).1 = .ok documents ∧
      ∃ document ∈ documents, document.path = "/n" ∧ document.tokens = ["a", "b", "c"] ∧
        document.tokens ≠ tokens := by
  intro tokens stored
  obtain ⟨done, listed⟩ := tokens_are_read_back exampleNotes_keeps exampleNotes_serves rfl
    (by decide +kernel : Text.isBlankText "/n" = false) rfl "a b c" "1" tokens
  obtain ⟨documents, told, found, read⟩ := listed 0 exampleNotes_serves (fun _ => rfl) 0 0 (by decide)
  obtain ⟨document, member, same⟩ := found (by decide)
  have words : document.tokens = ["a", "b", "c"] :=
    (read document member same).1.trans (by decide +kernel)
  refine ⟨exampleNotes_keeps, exampleNotes_serves, rfl, by decide +kernel, rfl, done, documents, told,
    document, member, same, words, ?_⟩
  rw [words]
  decide

end Archive

end FolderIndex
