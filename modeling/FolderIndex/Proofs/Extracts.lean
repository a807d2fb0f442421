import FolderIndex.Proofs.SearchRoutes
import FolderIndex.Proofs.Text.Trimming

namespace FolderIndex

/-! Extracts of extracts. A searcher cuts the content of a document, and a table cuts what it is
given to its own width; what is shown in the end is what one cut of the content would show. -/

namespace Text

/-- A text of one line: each line feed is a space. -/
def flat (text : List Char) : List Char :=
  text.map fun character => if character = '\n' then ' ' else character

/-- What is shown of a text where there is room for so many characters: all of it if it fits, or
else as much as there is room for, and an ellipsis. -/
structure ShownWithin (room : Nat) (text shown : List Char) : Prop where
  whole : text.length ≤ room → shown = text
  begun : room < text.length → shown = text.take room ++ ['.', '.', '.']

variable {text other : List Char} {wide narrow : Nat}

theorem isBlank_flat (character : Char) :
    isBlank (if character = '\n' then ' ' else character) = isBlank character := by
  split
  · rename_i lineFeed
    rw [lineFeed]
    decide
  · rfl

theorem trim_trim (text : List Char) : trim (trim text) = trim text :=
  trimWhere_trimWhere isBlank text

theorem trim_flat (text : List Char) : trim (flat text) = flat (trim text) := by
  rw [trim, trim, flat, trimWhere_map]
  simp only [isBlank_flat]
  rfl

theorem length_flat (text : List Char) : (flat text).length = text.length :=
  List.length_map _

theorem flat_take_ellipsis (text : List Char) (limit : Nat) :
    flat (text.take limit ++ ellipsis) = (flat text).take limit ++ ellipsis := by
  rw [flat, List.map_append, List.map_take]
  rfl

/-- An extract of so many characters, by the trimmed text alone. -/
theorem snippetOf_eq (limit : Nat) (text : List Char) :
    snippetOf limit text =
      if (trim text).length ≤ limit then trim text else (trim text).take limit ++ ellipsis := by
  simp only [snippetOf, cut, Int.natCast_nonneg, if_true, Int.toNat_natCast, Nat.cast_le]

theorem shownWithin_snippetOf (limit : Nat) (text : List Char) :
    ShownWithin limit (trim text) (snippetOf limit text) := by
  rw [snippetOf_eq]
  exact ⟨fun fits => if_pos fits, fun more => if_neg (Nat.not_le.mpr more)⟩

/-- A cut text has no blank at its ends: it begins as the trimmed text, and ends in an ellipsis. -/
theorem trim_take_ellipsis (text : List Char) (limit : Nat) :
    trim ((trim text).take limit ++ ellipsis) = (trim text).take limit ++ ellipsis := by
  refine Trims.eq ⟨⟨[], [], by simp, by simp, by simp⟩, ?_, ?_⟩
  · intro character leads
    cases front : (trim text).take limit with
    | nil =>
        rw [front] at leads
        cases leads
        decide
    | cons first rest =>
        rw [front] at leads
        cases leads
        refine (trims_trimWhere isBlank text).first character ?_
        rw [← trim, ← List.take_append_drop limit (trim text), front]
        rfl
  · intro character ends
    rw [List.getLast?_append] at ends
    cases ends
    decide

/-- A second cut that leaves no more room than the first is the only one that shows. -/
theorem snippetOf_flat_snippetOf (narrower : narrow ≤ wide) (text : List Char) :
    snippetOf narrow (flat (snippetOf wide text)) = snippetOf narrow (flat text) := by
  rw [snippetOf_eq narrow, snippetOf_eq narrow, snippetOf_eq wide, trim_flat text]
  by_cases fits : (trim text).length ≤ wide
  · rw [if_pos fits, trim_flat, trim_trim]
  · have long : ¬ (flat (trim text)).length ≤ narrow := by
      rw [length_flat]
      omega
    have cut : (flat (trim text)).take wide ++ ellipsis = flat ((trim text).take wide ++ ellipsis) :=
      (flat_take_ellipsis _ _).symm
    have stays : trim ((flat (trim text)).take wide ++ ellipsis) =
        (flat (trim text)).take wide ++ ellipsis := by
      rw [← trim_flat]
      exact trim_take_ellipsis (flat text) wide
    have length : ((flat (trim text)).take wide ++ ellipsis).length = wide + 3 := by
      rw [List.length_append, List.length_take, length_flat]
      simp only [ellipsis, List.length_cons, List.length_nil]
      omega
    have front : ((flat (trim text)).take wide ++ ellipsis).take narrow =
        (flat (trim text)).take narrow := by
      rw [List.take_append_of_le_length, List.take_take, Nat.min_eq_left narrower]
      rw [List.length_take, length_flat]
      omega
    rw [if_neg fits, ← cut, stays, if_neg long, if_neg (by omega), front]

theorem snippet_onOneLine (limit : Int) (content : String) :
    snippet limit (onOneLine content) = String.ofList (snippetOf limit (flat content.toList)) := by
  rw [snippet, onOneLine, String.toList_ofList, flat]

theorem snippet_onOneLine_snippet (narrower : narrow ≤ wide) (content : String) :
    snippet narrow (onOneLine (snippet wide content)) = snippet narrow (onOneLine content) := by
  rw [snippet_onOneLine, snippet_onOneLine, snippet, String.toList_ofList,
    snippetOf_flat_snippetOf narrower]

theorem shownWithin_snippet (limit : Nat) (content : String) :
    ShownWithin limit (trim (flat content.toList)) (snippet limit (onOneLine content)).toList := by
  rw [snippet_onOneLine, String.toList_ofList]
  exact shownWithin_snippetOf limit (flat content.toList)

end Text

namespace Searcher

variable {searcher : Searcher} {archive : Archive} {thread : Nat} {query : String}
  {limit? : Option Int} {found : List (Match Similarity)}

/-- A search that finds something finds documents of its store, with extracts of their content. -/
theorem search_hits
    (searched : (searcher.search archive thread query limit?).matches? = .ok found)
    (some : found ≠ []) :
    ∃ documents, (archive.listDocuments searcher.store thread 0).1 = .ok documents ∧
      ∀ hit ∈ found, ∃ document ∈ documents, hit.path = document.path ∧
        hit.snippet = Text.snippet searcher.snippetLength document.content := by
  unfold search at searched
  dsimp only at searched
  split at searched
  · cases searched
    contradiction
  · split at searched
    · cases searched
    · rename_i documents after listed
      cases searched
      refine ⟨documents, by rw [listed], fun hit member => ?_⟩
      obtain ⟨candidate, ranked, rfl⟩ := List.mem_map.mp member
      have ordered : candidate ∈ Match.ordered (candidates (Text.tokenize query) documents) :=
        List.mem_of_mem_take ranked
      have listed := (List.mem_filter.mp (List.mem_mergeSort.mp ordered)).1
      obtain ⟨document, among, rfl⟩ := List.mem_map.mp (List.mem_filter.mp listed).1
      exact ⟨document, among, rfl, rfl⟩

end Searcher

namespace Session

variable {session after : Session}

theorem of_settle_eq_ok {α : Type} {outcome : Except Failure α} {value : α}
    (ran : settle outcome session = (.ok value, after)) : outcome = .ok value ∧ session = after := by
  rw [settle_apply] at ran
  exact ⟨congrArg Prod.fst ran, congrArg Prod.snd ran⟩

theorem of_settings_eq_ok {request : SettingsRequest} {settings : Settings}
    (ran : Session.settings request session = (.ok settings, after)) : session = after := by
  rw [Session.settings, bind_of_ok get_apply] at ran
  exact (of_settle_eq_ok ran).2

theorem of_openStore_eq_ok {location : Location} {store : Nat}
    (ran : Session.openStore location session = (.ok store, after)) :
    session.archive.openStore location = (.ok store, after.archive) ∧
      after.printed = session.printed := by
  rw [Session.openStore, onArchive_apply, Prod.mk.injEq] at ran
  obtain ⟨result, rfl⟩ := ran
  exact ⟨Prod.ext result rfl, rfl⟩

theorem of_attempt_search {searcher : Searcher} {query : String} {limit? : Option Int}
    {result : Except Failure (List (Match Similarity))}
    (ran : attempt (Session.search searcher query limit?) session = (.ok result, after)) :
    result = (searcher.search session.archive mainThread query limit?).matches? ∧
      after.printed = session.printed := by
  rw [attempt_apply] at ran
  simp only [Session.search, bind_of_ok get_apply, bind_of_ok (set_apply _), settle_apply] at ran
  cases ran
  exact ⟨rfl, rfl⟩

end Session

namespace Command

open Session

variable {command : Command} {session after : Session} {outcome : CommandOutcome}

/-- A search that a command ends with success prints what its searcher finds in the store that it
opens. -/
theorem searchIndex_prints (ran : command.searchIndex session = (.ok outcome, after))
    (success : outcome.ending = .success) :
    ∃ location store opened limit found,
      session.archive.openStore location = (.ok store, opened) ∧
      ((Searcher.make store Text.snippetLength (some limit) .terminal).search opened mainThread
        command.query none).matches? = .ok found ∧
      after.printed = session.printed ++ [searchPage found] := by
  obtain ⟨settings, unmoved, settled, ran⟩ := of_bind_eq_ok ran
  obtain rfl : session = unmoved := of_settings_eq_ok settled
  obtain ⟨location, unmoved, located, ran⟩ := of_bind_eq_ok ran
  obtain rfl : session = unmoved := congrArg Prod.snd located
  rw [bind_of_ok get_apply] at ran
  obtain ⟨present, unmoved, checked, ran⟩ := of_bind_eq_ok ran
  obtain ⟨_, rfl⟩ := of_settle_eq_ok checked
  cases present with
  | false =>
      cases ran
      cases success
  | true =>
      obtain ⟨store, attached, opening, ran⟩ := of_bind_eq_ok ran
      obtain ⟨opened, quiet⟩ := of_openStore_eq_ok opening
      obtain ⟨_, named, naming, ran⟩ := of_bind_eq_ok ran
      have kept : named.archive = attached.archive ∧ named.printed = attached.printed := by
        cases naming
        exact ⟨rfl, rfl⟩
      obtain ⟨result, searched, searching, ran⟩ := of_bind_eq_ok ran
      obtain ⟨answered, still⟩ := of_attempt_search searching
      obtain ⟨_, closed, closing, ran⟩ := of_bind_eq_ok ran
      have page : closed.printed = searched.printed := by
        cases closing
        rfl
      obtain ⟨found, unmoved, settled, ran⟩ := of_bind_eq_ok ran
      obtain ⟨success, rfl⟩ := of_settle_eq_ok settled
      have printed : after.printed = closed.printed ++ [searchPage found] := by
        unfold searchPage
        dsimp only at ran
        split at ran <;> rename_i none
        · rw [if_pos none]
          cases ran
          rfl
        · rw [if_neg none]
          cases ran
          rfl
      refine ⟨location, store, attached.archive, settings.searchLimit, found, opened, ?_, ?_⟩
      · rw [← kept.1, ← answered, success]
      · rw [printed, page, still, kept.2, quiet]

/-- A cut of an extract shows what a cut of the whole content shows. So a table of matches, as it is
handed to the console, has the content of each document on one line, trimmed, whole or up to its
width and with one ellipsis. -/
theorem table_shows_content_cut_once :
    (∀ (content : String) (wide narrow : Int), 0 ≤ narrow → narrow ≤ wide →
      Text.snippet narrow (Text.onOneLine (Text.snippet wide content)) =
        Text.snippet narrow (Text.onOneLine content)) ∧
    ∀ (command : Command) (hasServer : Bool) (meanwhile : Work (List StepResult))
      (session after : Session) (outcome : CommandOutcome), command.name = .search →
      command.run hasServer meanwhile session = (.ok outcome, after) →
      outcome.ending = .success →
      ∃ location store opened, session.archive.openStore location = (.ok store, opened) ∧
        (after.printed = session.printed ++ [.line "[yellow]No matches found.[/yellow]"] ∨
          ∃ documents rows, (opened.listDocuments store mainThread 0).1 = .ok documents ∧
            after.printed = session.printed ++ [.table ["Score", "Document", "Snippet"] rows] ∧
            ∀ row ∈ rows, ∃ document ∈ documents, ∃ score text cell,
              row = [score, document.path, cell] ∧
              Text.Trims Text.isBlank (Text.flat document.content.toList) text ∧
              Text.ShownWithin 180 text cell.toList) := by
  refine ⟨fun content wide narrow positive narrower => ?_, ?_⟩
  · obtain ⟨wide, rfl⟩ := Int.eq_ofNat_of_zero_le (positive.trans narrower)
    obtain ⟨narrow, rfl⟩ := Int.eq_ofNat_of_zero_le positive
    exact Text.snippet_onOneLine_snippet (Int.ofNat_le.mp narrower) content
  · intro command hasServer meanwhile session after outcome named ran success
    have searched : command.searchIndex session = (.ok outcome, after) := by
      rwa [run, named] at ran
    obtain ⟨location, store, opened, limit, found, opening, finds, printed⟩ :=
      searchIndex_prints searched success
    refine ⟨location, store, opened, opening, ?_⟩
    obtain ⟨line, table⟩ := searchPage_eq found
    by_cases none : found = []
    · exact .inl (by rw [printed, line.mpr none])
    · obtain ⟨documents, listed, hits⟩ := Searcher.search_hits finds none
      rw [table none] at printed
      refine .inr ⟨documents, _, listed, printed, fun row member => ?_⟩
      obtain ⟨hit, among, rfl⟩ := List.mem_map.mp member
      obtain ⟨document, stored, path, extract⟩ := hits hit among
      have once : Text.snippet 180 (Text.onOneLine hit.snippet) =
          Text.snippet (180 : Nat) (Text.onOneLine document.content) := by
        rw [extract]
        exact Text.snippet_onOneLine_snippet (by decide : 180 ≤ 220) document.content
      refine ⟨document, stored, hit.score.toDouble.toFixed 4,
        Text.trim (Text.flat document.content.toList), _, by rw [path, once],
        Text.trims_trimWhere _ _, Text.shownWithin_snippet 180 document.content⟩

theorem blanks_at_a_cut_are_shown :
    (0 : Int) ≤ 2 ∧ (2 : Int) ≤ 5 ∧
    Text.snippet 2 (Text.onOneLine (Text.snippet 5 " a \nb  c ")) = "a ..." ∧
    exampleSearch.name = .search ∧
    ∃ after, exampleSearch.run false (pure []) exampleTerminal = (.ok (ended .success), after) ∧
      after.printed = [.table ["Score", "Document", "Snippet"] [["0.5000", "/a", "Hi, you."]]] ∧
      ∃ content text : List Char, Text.Trims Text.isBlank (Text.flat content) text ∧
        Text.ShownWithin 180 text "Hi, you.".toList := by
  obtain ⟨cutOnce, shown⟩ := table_shows_content_cut_once
  have present : exampleTerminal.files.exists?
      (exampleSearch.databaseIn exampleTerminal.files) = .ok true := by decide
  have cell : Text.snippet 2 (Text.onOneLine " a \nb  c ") = "a ..." := by decide +kernel
  have rows : (Searcher.foundIn exampleTables.rows Text.snippetLength
      (Match.resolveLimit Match.defaultLimit (some 0)) "HI").map matchRow =
        [["0.5000", "/a", "Hi, you."]] := by decide +kernel
  obtain ⟨after, ran, printed⟩ := run_of_searches exampleSearch_searches present
    exampleTerminal_names exampleTerminal_hosts false (pure [])
  have page : after.printed =
      [.table ["Score", "Document", "Snippet"] [["0.5000", "/a", "Hi, you."]]] := by
    rw [printed, searchPage, if_neg, rows]
    · rfl
    · intro none
      rw [List.isEmpty_iff.mp none] at rows
      cases rows
  obtain ⟨_, _, _, _, line | ⟨documents, listed, _, table, cells⟩⟩ :=
    shown exampleSearch false (pure []) exampleTerminal after (ended .success) rfl ran rfl
  · rw [page] at line
    cases line
  · rw [page] at table
    cases table
    obtain ⟨document, _, score, text, shownCell, row, trims, within⟩ :=
      cells _ (List.mem_singleton.mpr rfl)
    obtain ⟨_, _, rfl⟩ : "0.5000" = score ∧ "/a" = document.path ∧ "Hi, you." = shownCell := by
      simpa using row
    exact ⟨by decide, by decide, (cutOnce _ 5 2 (by decide) (by decide)).trans cell, rfl, after, ran,
      page, document.content.toList, text, trims, within⟩

end Command

end FolderIndex
