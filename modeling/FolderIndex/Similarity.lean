import FolderIndex.Double
import FolderIndex.Sequence

namespace FolderIndex

/-! How alike two collections of tokens are: the share of their tokens that both have. -/

/-- A share, as the counts of its parts and of the whole. -/
structure Similarity where
  shared : Nat
  total : Nat
deriving DecidableEq, Repr

namespace Similarity

/-- The share of the different tokens of both collections that are in both of them; nothing
where a collection is empty. -/
def of (query document : List String) : Similarity :=
  let query := firsts query
  let document := firsts document
  if query.isEmpty || document.isEmpty then ⟨0, 1⟩
  else
    let shared := (query.filter document.contains).length
    ⟨shared, query.length + document.length - shared⟩

/-- The share as a binary fraction. -/
def toDouble (similarity : Similarity) : Double :=
  .ofQuotient similarity.shared similarity.total

end Similarity

end FolderIndex
