import FolderIndex.Archive
import FolderIndex.Event
import FolderIndex.Ranking
import FolderIndex.Text.Snippet
import FolderIndex.Text.Token

namespace FolderIndex

/-! Searches: the stored documents whose tokens are most like those of a query. -/

/-- A way to search a store: how long extracts are, how many matches are given where a search
does not say, and who is told of it. -/
structure Searcher where
  store : Nat
  snippetLength : Int
  defaultLimit : Int
  audience : Audience
deriving DecidableEq, Repr

namespace Searcher

/-- A searcher whose limit is the given one if that is positive. -/
def make (store : Nat) (snippetLength : Int) (limit? : Option Int) (audience : Audience) :
    Searcher :=
  ⟨store, snippetLength, Match.resolveLimit Match.defaultLimit limit?, audience⟩

/-- The documents that share a token with the query, with their whole content. -/
def candidates (query : List String) (documents : List Document) : List (Match Similarity) :=
  (documents.map fun document =>
    (⟨document.path, Similarity.of query document.tokens, document.content⟩ : Match Similarity)).filter
      fun candidate => Score.positive candidate.score

/-- The best candidates, their content cut to extracts. -/
def best (searcher : Searcher) (limit? : Option Int) (found : List (Match Similarity)) :
    List (Match Similarity) :=
  (Match.rank (some (Match.resolveLimit searcher.defaultLimit limit?)) found).map fun candidate =>
    { candidate with snippet := Text.snippet searcher.snippetLength candidate.snippet }

end Searcher

/-- The matches of a search or its failure, the archive afterwards, and what was logged. -/
structure SearchRun where
  matches? : Except Failure (List (Match Similarity))
  archive : Archive
  notices : List Notice

/-- A search. A query without tokens matches nothing and does not touch the store. -/
def Searcher.search (searcher : Searcher) (archive : Archive) (thread : Nat) (query : String)
    (limit? : Option Int) : SearchRun :=
  let tokens := Text.tokenize query
  if tokens.isEmpty then ⟨.ok [], archive, []⟩
  else
    match archive.listDocuments searcher.store thread 0 with
    | (.error failure, after) => ⟨.error failure, after, []⟩
    | (.ok documents, after) =>
        let found := Searcher.candidates tokens documents
        ⟨.ok (searcher.best limit? found), after,
          [⟨searcher.audience, .queryMatched query found.length documents.length⟩]⟩

end FolderIndex
