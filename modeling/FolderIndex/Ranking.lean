import FolderIndex.Similarity

namespace FolderIndex

/-! The order of matches: higher scores first, equal scores in the order of their paths. -/

/-- A scale on which matches are scored. -/
class Score (σ : Type) where
  positive : σ → Bool
  above : σ → σ → Bool

instance : Score Double where
  positive score := score.isPositive
  above left right := right.below left

/-- Shares are compared as exact fractions. -/
instance : Score Similarity where
  positive score := 0 < score.shared
  above left right := decide (right.shared * left.total < left.shared * right.total)

/-- A document that was found, with an extract of it. -/
structure Match (σ : Type) where
  path : String
  score : σ
  snippet : String
deriving DecidableEq, Repr

namespace Match

variable {σ : Type} [Score σ]

/-- Whether one match may stand in front of another. -/
def precedes (left right : Match σ) : Bool :=
  Score.above left.score right.score ||
    (!Score.above right.score left.score && decide (left.path ≤ right.path))

/-- The limit, or the fallback where the limit is missing or not positive. -/
def resolveLimit (fallback : Int) (limit? : Option Int) : Int :=
  match limit? with
  | some limit => if 0 < limit then limit else fallback
  | none => fallback

/-- How many matches are given where nothing is said. -/
def defaultLimit : Int := 5

/-- The matches with a positive score, in order. -/
def ordered (found : List (Match σ)) : List (Match σ) :=
  (found.filter fun candidate => Score.positive candidate.score).mergeSort precedes

/-- The best matches, as many as the limit says. -/
def rank (limit? : Option Int) (found : List (Match σ)) : List (Match σ) :=
  (ordered found).take (resolveLimit defaultLimit limit?).toNat

end Match

end FolderIndex
