import FolderIndex.Sequence

namespace FolderIndex.Text

/-! The words that documents and queries are compared by: maximal runs of ASCII letters and
digits, in lowercase, each once. -/

def isTokenCharacter (character : Char) : Bool :=
  character.isAlphanum

/-- The lowercase form of a run. It is taken after the run is cut out, so that no letter
outside ASCII folds into a token. -/
def foldRun (run : List Char) : String :=
  String.ofList (run.map Char.toLower)

/-- The tokens without empty ones, each at its first occurrence. -/
def distinctTokens (tokens : List String) : List String :=
  firsts (tokens.filter (· ≠ ""))

def tokenize (text : String) : List String :=
  distinctTokens ((runs isTokenCharacter text.toList).map foldRun)

end FolderIndex.Text
