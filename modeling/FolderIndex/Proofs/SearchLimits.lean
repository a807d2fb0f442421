import FolderIndex.Proofs.Findings
import FolderIndex.Proofs.LastingProperties
import FolderIndex.Proofs.Outcomes

namespace FolderIndex

/-! How many matches a request gets. The number is what its parameter spells, if that is positive, and
else the one that its searcher was made with, which is positive as well. -/

namespace Text

variable {fallback limit number : Int} {text : String} {raw? : Option String}

theorem limitOr_of_spells (fallback : Int) (spells : Spells text number) (positive : 0 < number) :
    limitOr fallback (some text) = number := by
  rw [limitOr, Option.bind_some, (readInteger?_eq_some_iff text).mpr spells]
  exact if_pos positive

theorem limitOr_of_none (fallback : Int)
    (none : ∀ text ∈ raw?, ∀ number, Spells text number → number ≤ 0) :
    limitOr fallback raw? = fallback := by
  cases read : raw?.bind readInteger? with
  | none => rw [limitOr, read]
  | some number =>
      obtain ⟨text, given, spelled⟩ := Option.bind_eq_some_iff.mp read
      have small := none text given number ((readInteger?_eq_some_iff text).mp spelled)
      rw [limitOr, read]
      exact if_neg (by omega)

/-- The limit is the positive number that is spelled, or the fallback if there is none. -/
theorem limitOr_eq_iff (fallback limit : Int) (raw? : Option String) :
    limitOr fallback raw? = limit ↔
      (0 < limit ∧ ∃ text ∈ raw?, Spells text limit) ∨
        (limit = fallback ∧ ∀ text ∈ raw?, ∀ number, Spells text number → number ≤ 0) := by
  by_cases spelled : ∃ text ∈ raw?, ∃ number, Spells text number ∧ 0 < number
  · obtain ⟨text, rfl, number, spells, positive⟩ := spelled
    rw [limitOr_of_spells fallback spells positive]
    constructor
    · rintro rfl
      exact .inl ⟨positive, text, rfl, spells⟩
    · rintro (⟨wanted, _, ⟨⟩, other⟩ | ⟨_, small⟩)
      · rw [← limitOr_of_spells fallback spells positive, limitOr_of_spells fallback other wanted]
      · exact absurd (small text rfl number spells) (by omega)
  · have small : ∀ text ∈ raw?, ∀ number, Spells text number → number ≤ 0 := by
      intro text given number spells
      by_contra positive
      exact spelled ⟨text, given, number, spells, by omega⟩
    rw [limitOr_of_none fallback small]
    constructor
    · rintro rfl
      exact .inr ⟨rfl, small⟩
    · rintro (⟨wanted, text, given, spells⟩ | ⟨same, _⟩)
      · exact absurd (small text given limit spells) (by omega)
      · exact same.symm

example : ["12", " +1_2 ", "-12", "1__2", "_12", "12_", "+ 12", "1 2", "0", ""].map
    (fun text => limitOr 5 (some text)) = [12, 12, 5, 5, 5, 5, 5, 5, 5, 5] := by decide +kernel

theorem limitOr_pos (positive : 0 < fallback) (raw? : Option String) : 0 < limitOr fallback raw? := by
  rcases (limitOr_eq_iff fallback _ raw?).mp rfl with ⟨spelled, _⟩ | ⟨same, _⟩
  · exact spelled
  · rwa [same]

end Text

/-- Whether some matches are given where nothing is said. -/
def Searcher.IsLimited (searcher : Searcher) : Prop := 1 ≤ searcher.defaultLimit

theorem Searcher.make_isLimited (store : Nat) (snippetLength : Int) (limit? : Option Int)
    (audience : Audience) : (make store snippetLength limit? audience).IsLimited :=
  Match.resolveLimit_pos (by decide) limit?

namespace Session

/-- Whether the current searcher and that of the service give some matches where nothing is said. -/
structure IsLimited (session : Session) : Prop where
  current : ∀ searcher ∈ session.searcher?, searcher.IsLimited
  serving : ∀ application ∈ session.application?, ∀ searcher ∈ application.service.searcher?,
    searcher.IsLimited

theorem isLimited_lasting : Lasting IsLimited where
  elsewhere held searcher application _ :=
    ⟨by rw [searcher]; exact held.current, by rw [application]; exact held.serving⟩
  searcher store snippetLength limit? audience held := by
    refine ⟨?_, held.serving⟩
    rintro searcher ⟨⟩
    exact Searcher.make_isLimited store snippetLength limit? audience
  application service lifespan? held taken := by
    refine ⟨held.current, ?_⟩
    rintro application ⟨⟩ searcher attached
    rcases taken with none | same
    · cases none.symm.trans attached
    · exact held.current searcher (same.symm.trans attached)
  scheduler held _ := ⟨held.current, held.serving⟩
  progress held _ _ := ⟨held.current, held.serving⟩

theorem isLimited_initial (surroundings : Surroundings) (clock : Clock) :
    (initial surroundings clock).IsLimited := ⟨nofun, nofun⟩

end Session

/-- The answer that a search comes to. -/
def Service.answering (service : Service) (run : SearchRun) : ServiceRun :=
  match run.matches? with
  | .ok found => ⟨.plain 200 (.matches found), run.archive, run.notices⟩
  | .error failure =>
      ⟨.problem 500 "search failed", run.archive,
        run.notices ++ [service.notice (.searchFailed failure)]⟩

theorem Service.search_eq_answering {service : Service} {searcher : Searcher} {request : Request}
    {query : String} (attached : service.searcher? = some searcher)
    (asked : request.asked? = some query) (archive : Archive) (thread : Nat) :
    service.search archive thread request =
      service.answering (searcher.search archive thread query
        (some (Text.limitOr searcher.defaultLimit (request.parameter? "limit")))) := by
  have query : (request.parameter? "q").filter (· ≠ "") = some query := asked
  simp only [search, attached, query]
  rfl

/-- A request asks for as many matches as its parameter spells in the way of integers, if it spells a
positive one, and else for as many as its searcher was made for. In every session that arises this
is at least one match, and the searcher of the service is asked for just so many. -/
theorem requests_ask_for_spelled_limits {session : Session} {application : Application}
    {searcher : Searcher} {request : Request} {query : String} (arises : session.Arises)
    (serving : session.application? = some application)
    (attached : application.service.searcher? = some searcher)
    (asked : request.asked? = some query) :
    (∀ fallback limit raw?, Text.limitOr fallback raw? = limit ↔
      (0 < limit ∧ ∃ text ∈ raw?, Text.Spells text limit) ∨
        (limit = fallback ∧ ∀ text ∈ raw?, ∀ number, Text.Spells text number → number ≤ 0)) ∧
    (∀ number : Int, (Nat.toDigits 10 number.natAbs).length ≤ 4300 →
      Text.Spells (toString number) number) ∧
    (∀ store snippetLength limit? audience,
      1 ≤ (Searcher.make store snippetLength limit? audience).defaultLimit) ∧
    let limit := Text.limitOr searcher.defaultLimit (request.parameter? "limit")
    1 ≤ limit ∧ ∀ archive thread, application.service.search archive thread request =
      application.service.answering (searcher.search archive thread query (some limit)) := by
  have limited := (Session.isLimited_lasting.of_arises Session.isLimited_initial arises).serving
    application serving searcher attached
  exact ⟨Text.limitOr_eq_iff, fun number short => Text.spells_toString short, Searcher.make_isLimited,
    Text.limitOr_pos limited _, Service.search_eq_answering attached asked⟩

/-! A service whose searcher was made for no matches, and a request for twelve of them in digits of
two scripts, with a sign and with blanks around it. -/

def exampleAttending : Session :=
  let opened := (Session.run (.openStore "main" ":memory:")
    (.initial ⟨"/home", "/work"⟩ ⟨0, 1⟩)).2
  let searching := (Session.run (.searcher "main" 220 (some 0)) opened).2
  (Session.run (.attached false true false) searching).2

def exampleTwelve : Request :=
  ⟨"GET", "/index/search?q=hi&limit=%C2%A0%2B%D9%A1_2%20", []⟩

theorem twelve_matches_asked_for :
    let searcher := Searcher.make 0 220 (some 0) .caller
    let service : Service := ⟨none, some searcher, none, .caller⟩
    exampleAttending.Arises ∧ exampleAttending.application? = some ⟨service, none⟩ ∧
    service.searcher? = some searcher ∧ exampleTwelve.asked? = some "hi" ∧
    (∃ text ∈ exampleTwelve.parameter? "limit", Text.Spells text 12) ∧
    1 ≤ Text.limitOr searcher.defaultLimit (exampleTwelve.parameter? "limit") ∧
    ∀ archive thread, service.search archive thread exampleTwelve =
      service.answering (searcher.search archive thread "hi"
        (some (Text.limitOr searcher.defaultLimit (exampleTwelve.parameter? "limit")))) := by
  intro searcher service
  have arises : exampleAttending.Arises :=
    .step _ (.step _ (.step _ (.initial ⟨"/home", "/work"⟩ ⟨0, 1⟩)))
  have serving : exampleAttending.application? = some ⟨service, none⟩ := by decide +kernel
  have asked : exampleTwelve.asked? = some "hi" := by decide +kernel
  obtain ⟨settled, _, _, positive, asks⟩ := requests_ask_for_spelled_limits arises serving rfl asked
  have twelve : Text.limitOr 5 (exampleTwelve.parameter? "limit") = 12 := by decide +kernel
  have spelled : ∃ text ∈ exampleTwelve.parameter? "limit", Text.Spells text 12 := by
    rcases (settled 5 12 _).mp twelve with ⟨_, spelled⟩ | ⟨same, _⟩
    · exact spelled
    · cases same
  exact ⟨arises, serving, rfl, asked, spelled, positive, asks⟩

end FolderIndex
