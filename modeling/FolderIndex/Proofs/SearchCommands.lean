import FolderIndex.Proofs.Findings
import FolderIndex.Proofs.Hosting
import FolderIndex.Proofs.Work
import FolderIndex.Session.Command

namespace FolderIndex

/-! The command that searches: which command lines ask for it, and what it prints. -/

/-- A command that searches for a query, with a limit if there is one. -/
structure Command.Searches (command : Command) (query : String) (limit? : Option Int) : Prop where
  name : command.name = .search
  query : command.query = query
  limit : command.limit? = limit?
  watch : command.watch = []
  interval : command.interval.isNonPositive = false

namespace Command

open Session

variable {command : Command} {known : List OptionKey} {session : Session} {place : List String}
  {number : Nat} {tables : Tables} {location : Location} {query : String} {limit? : Option Int}

/-- Whether the options of a word are known ones. -/
structure OptionWord.IsOf (known : List OptionKey) (word : OptionWord) : Prop where
  options : ∀ option ∈ word.1, option.1 ∈ known
  pending : ∀ key ∈ word.2, key ∈ known

theorem readLetters?_isOf {letters : List Char} {word : OptionWord}
    (read : readLetters? known letters = some word) : word.IsOf known := by
  induction letters generalizing word with
  | nil =>
      cases read
      exact ⟨by simp, by simp⟩
  | cons letter rest ih =>
      unfold readLetters? at read
      split at read
      · cases read
      · rename_i key found
        have member : key ∈ known := List.mem_of_find?_eq_some found
        split at read
        · split at read <;> cases read
          · exact ⟨by simp, by simpa using member⟩
          · exact ⟨by simpa using member, by simp⟩
        · obtain ⟨after, later, rfl⟩ := Option.map_eq_some_iff.mp read
          obtain ⟨options, pending⟩ := ih later
          exact ⟨List.forall_mem_cons.mpr ⟨member, options⟩, pending⟩

theorem readOptionWord?_isOf {text : String} {word : OptionWord}
    (read : readOptionWord? known text = some word) : word.IsOf known := by
  unfold readOptionWord? at read
  dsimp only at read
  split at read
  · rename_i key value found _
    have member : key ∈ known := List.mem_of_find?_eq_some found
    split at read <;> cases read
    exact ⟨by simpa using member, by simp⟩
  · rename_i key found _
    have member : key ∈ known := List.mem_of_find?_eq_some found
    split at read <;> cases read
    · exact ⟨by simp, by simpa using member⟩
    · exact ⟨by simpa using member, by simp⟩
  · split at read
    · cases read
    · exact readLetters?_isOf read

/-- A command is given no options but its own. -/
theorem readWords?_known {texts : List String} {words : Words}
    (read : readWords? known texts = some words) : ∀ option ∈ words.options, option.1 ∈ known := by
  fun_induction readWords? known texts generalizing words with
  | case1 =>
      cases read
      simp
  | case2 rest =>
      cases read
      simp
  | case3 => cases read
  | case4 _ rest _ _ options found ih =>
      obtain ⟨later, others, rfl⟩ := Option.map_eq_some_iff.mp read
      have own := (readOptionWord?_isOf found).options
      exact List.forall_mem_append.mpr ⟨own, ih others⟩
  | case5 => cases read
  | case6 _ _ _ options key found value rest ih =>
      obtain ⟨later, others, rfl⟩ := Option.map_eq_some_iff.mp read
      obtain ⟨own, pending⟩ := readOptionWord?_isOf found
      have valued : ∀ option ∈ options ++ [(key, value)], option.1 ∈ known :=
        List.forall_mem_append.mpr ⟨own, by simpa using pending⟩
      exact List.forall_mem_append.mpr ⟨valued, ih others⟩
  | case7 _ rest _ _ ih =>
      obtain ⟨later, others, rfl⟩ := Option.map_eq_some_iff.mp read
      exact fun option member => ih others option member

/-- What a command does not take is not given to it. -/
theorem Words.all_of_not_mem {words : Words} (only : ∀ option ∈ words.options, option.1 ∈ known)
    {key : OptionKey} (other : key ∉ known) : words.all key = [] := by
  unfold Words.all
  rw [List.map_eq_nil_iff, List.filter_eq_nil_iff]
  intro option member same
  have key := decide_eq_true_iff.mp same
  exact other (key ▸ only option member)

/-- A command line that asks for a search gives a command that searches. -/
theorem searches_of_named {texts : List String}
    (named : named? ("search" :: texts) = some command) :
    command.Searches command.query command.limit? := by
  have read : (readWords? CommandName.search.options texts).bind (ofWords? .search) =
      some command := named
  obtain ⟨words, found, made⟩ := Option.bind_eq_some_iff.mp read
  have known := readWords?_known found
  have unwatched : words.all .watch = [] := Words.all_of_not_mem known (by decide)
  have untimed : words.read? .interval Double.read? = some none := by
    rw [Words.read?, Words.all_of_not_mem known (by decide)]
    rfl
  have timed : (Double.ofQuotient 10 1).isNonPositive = false := by decide +kernel
  simp only [ofWords?, untimed, Option.bind_eq_bind, Option.bind_some,
    Option.bind_eq_some_iff] at made
  obtain ⟨limit, _, port, _, database, _, made⟩ := made
  split at made
  · cases made
  · cases made
    exact ⟨rfl, rfl, rfl, unwatched, timed⟩

/-- Where a command looks for its database. -/
def databaseIn (command : Command) (files : FileTree) : Location :=
  (Location.ofString files.surroundings.current).join
    ((command.database?.map Location.ofString).getD (Settings.defaultDatabase files))

/-- What a command hands to the console of the matches that it finds. -/
def searchPage (found : List (Match Similarity)) : Printed :=
  if found.isEmpty then .line "[yellow]No matches found.[/yellow]"
  else .table ["Score", "Document", "Snippet"] (found.map matchRow)

/-- A table has a row for each match. -/
theorem searchPage_eq (found : List (Match Similarity)) :
    (searchPage found = .line "[yellow]No matches found.[/yellow]" ↔ found = []) ∧
      (found ≠ [] → searchPage found = .table ["Score", "Document", "Snippet"]
        (found.map fun hit => [hit.score.toDouble.toFixed 4, hit.path,
          Text.snippet 180 (Text.onOneLine hit.snippet)])) := by
  cases found with
  | nil => exact ⟨⟨fun _ => rfl, fun _ => rfl⟩, fun some => absurd rfl some⟩
  | cons hit rest =>
      refine ⟨⟨fun line => ?_, fun none => ?_⟩, fun _ => rfl⟩
      · cases line
      · cases none

/-- The settings of a command that searches. Its limit is settled in them. -/
theorem settings_of_searches (searches : command.Searches query limit?) (files : FileTree) :
    ∃ settings, Settings.ofRequest files command.request = .ok settings ∧
      settings.searchLimit = Match.resolveLimit Match.defaultLimit limit? ∧
      settings.databaseFrom (some (Location.ofString files.surroundings.current)) =
        command.databaseIn files := by
  have limit : (if limit?.getD Settings.defaultSearchLimit ≤ 0 then Settings.defaultSearchLimit
      else limit?.getD Settings.defaultSearchLimit) =
        Match.resolveLimit Match.defaultLimit limit? := by
    cases limit? with
    | none => rfl
    | some limit =>
        by_cases positive : 0 < limit
        · rw [Match.resolveLimit_of_pos _ positive]
          exact if_neg (by simpa using positive)
        · have other : limit ≤ 0 := not_lt.mp positive
          simp only [Option.getD_some, Match.resolveLimit, if_pos other, if_neg positive]
          rfl
  have unwatched : Settings.watchLocations files.surroundings.homes command.request.watch = .ok [] := by
    simp [Settings.watchLocations, request, searches.watch, pure, Except.pure]
  have positive : command.request.interval.isNonPositive = false := searches.interval
  have made : Settings.ofRequest files command.request = .ok {
      database := (command.database?.map Location.ofString).getD (Settings.defaultDatabase files)
      watch := []
      extensions := command.request.extensions.map Settings.dotted
      interval := command.interval
      searchLimit := Match.resolveLimit Match.defaultLimit limit?
      snippetLength := Text.snippetLength } := by
    rw [← limit, ← searches.limit]
    simp only [Settings.ofRequest, unwatched, positive, bind, Except.bind, pure, Except.pure]
    rfl
  exact ⟨_, made, rfl, rfl⟩

/-- A store that was just opened on a database can be searched. -/
theorem openStore_search (names : session.files.Names location place)
    (hosts : session.archive.Hosts place number tables) (default? : Option Int)
    (audience : Audience) (query : String) (limit? : Option Int) :
    let store := session.archive.handles.length
    let searcher := Searcher.make store Text.snippetLength default? audience
    ∃ opened, session.archive.openStore location = (.ok store, opened) ∧
      (searcher.search opened mainThread query limit?).matches? =
        .ok (Searcher.foundIn tables.rows Text.snippetLength
          (Match.resolveLimit searcher.defaultLimit limit?) query) := by
  intro store searcher
  obtain ⟨opened, opening, leaves⟩ := hosts.openStore names
  have unclosed : (opened.handle store).closed = false := by
    have last := leaves.opened_last
    rwa [List.length_map] at last
  obtain ⟨read, reading, _⟩ := leaves.hosts.reading unclosed mainThread .listDocuments
  have rows : (tables.entries?.getD .empty).rows = tables.rows := by
    unfold Tables.rows
    cases tables.entries? <;> rfl
  have found := searcher.search_finds reading rfl query limit?
  rw [rows] at found
  exact ⟨opened, opening, found⟩

/-- A command that searches an index which is there hands over what is found in its rows. -/
theorem run_of_searches (searches : command.Searches query limit?)
    (present : session.files.exists? (command.databaseIn session.files) = .ok true)
    (names : session.files.Names (command.databaseIn session.files) place)
    (hosts : session.archive.Hosts place number tables) (hasServer : Bool)
    (meanwhile : Work (List StepResult)) :
    ∃ after, command.run hasServer meanwhile session = (.ok (ended .success), after) ∧
      after.printed = session.printed ++ [searchPage (Searcher.foundIn tables.rows
        Text.snippetLength (Match.resolveLimit Match.defaultLimit limit?) query)] := by
  obtain ⟨settings, made, limit, location⟩ := settings_of_searches searches session.files
  obtain ⟨opened, opening, found⟩ :=
    openStore_search names hosts (some settings.searchLimit) .terminal query none
  let store := session.archive.handles.length
  let searcher := Searcher.make store Text.snippetLength (some settings.searchLimit) .terminal
  have settled : Match.resolveLimit searcher.defaultLimit none =
      Match.resolveLimit Match.defaultLimit limit? := by
    have positive := Match.resolveLimit_pos (by decide : 0 < Match.defaultLimit) limit?
    change Match.resolveLimit Match.defaultLimit (some settings.searchLimit) = _
    rw [limit, Match.resolveLimit_of_pos _ positive]
  rw [settled] at found
  generalize Searcher.foundIn tables.rows _ _ query = page at found ⊢
  have asked : Session.settings command.request session = (.ok settings, session) := by
    simp [Session.settings, made]
  have located : databaseOf settings session =
      (.ok (command.databaseIn session.files), session) := by
    simp [databaseOf, location]
  have attached : Session.openStore (command.databaseIn session.files) session =
      (.ok store, { session with archive := opened }) := by
    simp [Session.openStore, opening, store]
  obtain ⟨held, naming, rfl, untouched⟩ : ∃ held : Session,
      nameStore mainStore store { session with archive := opened } = (.ok ⟨⟩, held) ∧
        held.archive = opened ∧ held.printed = session.printed := ⟨_, rfl, rfl, rfl⟩
  obtain ⟨after, searched, kept⟩ : ∃ after,
      Session.search searcher query none held = (.ok page, after) ∧
        after.printed = held.printed := by
    let run := searcher.search held.archive mainThread query none
    refine ⟨{ held with archive := run.archive, notices := held.notices ++ run.notices }, ?_, rfl⟩
    simp [Session.search, found, run, searcher, store]
  obtain ⟨closed, closing, same⟩ : ∃ closed,
      closeStore store after = (.ok ⟨⟩, closed) ∧ closed.printed = after.printed := ⟨_, rfl, rfl⟩
  refine ⟨{ closed with printed := closed.printed ++ [searchPage page] }, ?_, ?_⟩
  · simp only [run, searches.name, searchIndex, searches.query]
    by_cases none : page = [] <;>
      simp [asked, located, present, attached, naming, searched, searcher, closing, print,
        searchPage, none]
  · rw [same, kept, untouched]

end Command

end FolderIndex
