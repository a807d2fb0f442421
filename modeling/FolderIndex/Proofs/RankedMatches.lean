import FolderIndex.Proofs.Doubles
import FolderIndex.Proofs.TopMatches

namespace FolderIndex.Match

/-! The order of matches with scores of 64 bits, of which some may be no number and some may be
equal. -/

/-- Whether a score is a number above zero. -/
def isCounted (candidate : Match Double) : Bool :=
  candidate.score.value?.any fun value => decide (0 < value)

/-- Whether a match has a score and a path. -/
def hasRank (value : WithBot (WithTop ℚ)) (path : String) (candidate : Match Double) : Bool :=
  decide (candidate.score.value? = some value ∧ candidate.path = path)

/-- A higher score, or an equal one with a path that is not behind. -/
def MayPrecede (left right : Match Double) : Prop :=
  ∃ more less, left.score.value? = some more ∧ right.score.value? = some less ∧
    (less < more ∨ more = less ∧ left.path ≤ right.path)

/-- The same score and the same path. -/
def Agrees (left right : Match Double) : Prop :=
  ∃ value, left.score.value? = some value ∧ right.score.value? = some value ∧
    left.path = right.path

variable {left right : Match Double} {found others : List (Match Double)}

theorem agrees_iff :
    left.Agrees right ↔ left.score.same right.score = true ∧ left.path = right.path := by
  rw [Double.same_iff]
  constructor
  · rintro ⟨value, first, second, samePath⟩
    exact ⟨⟨value, first, second⟩, samePath⟩
  · rintro ⟨⟨value, first, second⟩, samePath⟩
    exact ⟨value, first, second, samePath⟩

instance : Decidable (left.Agrees right) :=
  decidable_of_iff _ agrees_iff.symm

instance : Std.Symm fun left right : Match Double => ¬ left.Agrees right where
  symm left right unlike := by
    rintro ⟨value, first, second, samePath⟩
    exact unlike ⟨value, second, first, samePath.symm⟩

theorem isCounted_eq (candidate : Match Double) :
    isCounted candidate = Score.positive candidate.score := by
  rw [Bool.eq_iff_iff, isCounted, Option.any_eq_true]
  change _ ↔ candidate.score.isPositive = true
  simp only [Double.isPositive_iff, decide_eq_true_eq]

theorem isNan_of_isCounted (counted : isCounted left = true) : left.score.isNan = false := by
  cases unknown : left.score.isNan with
  | false => rfl
  | true => simp [isCounted, Double.value?_of_isNan unknown] at counted

/-- Scores that are numbers are weighed by their places. -/
theorem precedes_eq (leftKnown : left.score.isNan = false)
    (rightKnown : right.score.isNan = false) :
    left.precedes right = weighsFirst (·.score.key) (·.path) left right := by
  simp [precedes, weighsFirst, Score.above, Double.below, leftKnown, rightKnown]

theorem mayPrecede_iff (leftKnown : left.score.isNan = false)
    (rightKnown : right.score.isNan = false) :
    left.MayPrecede right ↔ weighsFirst (·.score.key) (·.path) left right = true := by
  have below : right.score.key < left.score.key ↔ right.score.below left.score = true := by
    simp [Double.below, leftKnown, rightKnown]
  have same : left.score.key = right.score.key ↔ left.score.same right.score = true := by
    simp [Double.same, leftKnown, rightKnown]
  rw [weighsFirst_iff, below, same, Double.below_iff, Double.same_iff]
  constructor
  · rintro ⟨more, less, first, second, above | ⟨rfl, inOrder⟩⟩
    · exact .inl ⟨less, more, second, first, above⟩
    · exact .inr ⟨⟨more, first, second⟩, inOrder⟩
  · rintro (⟨less, more, second, first, above⟩ | ⟨⟨value, first, second⟩, inOrder⟩)
    · exact ⟨more, less, first, second, .inl above⟩
    · exact ⟨value, value, first, second, .inr ⟨rfl, inOrder⟩⟩

/-- What is not counted is gone before anything is compared. -/
theorem ordered_eq (found : List (Match Double)) :
    ordered found =
      (found.filter isCounted).mergeSort (weighsFirst (·.score.key) (·.path)) := by
  have counted : (found.filter fun candidate => Score.positive candidate.score) =
      found.filter isCounted := by
    simp only [← isCounted_eq]
  have weighed : ((found.filter isCounted).mergeSort precedes).map id =
      ((found.filter isCounted).map id).mergeSort (weighsFirst (·.score.key) (·.path)) := by
    apply List.map_mergeSort
    intro left leftMember right rightMember
    exact precedes_eq (isNan_of_isCounted (List.mem_filter.mp leftMember).2)
      (isNan_of_isCounted (List.mem_filter.mp rightMember).2)
  rw [List.map_id, List.map_id] at weighed
  rw [ordered, counted, weighed]

theorem ordered_perm (found : List (Match Double)) :
    (ordered found).Perm (found.filter isCounted) := by
  rw [ordered_eq]
  exact List.mergeSort_perm _ _

theorem isNan_of_mem_ordered (member : left ∈ ordered found) : left.score.isNan = false :=
  isNan_of_isCounted (List.mem_filter.mp ((ordered_perm found).mem_iff.mp member)).2

theorem ordered_pairwise (found : List (Match Double)) :
    (ordered found).Pairwise MayPrecede := by
  have sorted : (ordered found).Pairwise fun left right =>
      weighsFirst (·.score.key) (·.path) left right = true := by
    rw [ordered_eq]
    exact pairwise_mergeSort_weighsFirst _ _ _
  refine sorted.imp_of_mem ?_
  intro left right leftMember rightMember inOrder
  exact (mayPrecede_iff (isNan_of_mem_ordered leftMember) (isNan_of_mem_ordered rightMember)).mpr
    inOrder

/-- Matches of one rank keep their order. -/
theorem filter_ordered (value : WithBot (WithTop ℚ)) (path : String) (found : List (Match Double)) :
    (ordered found).filter (hasRank value path) =
      (found.filter isCounted).filter (hasRank value path) := by
  rw [ordered_eq]
  apply filter_mergeSort_weighsFirst
  intro left _ right _ leftRank rightRank
  obtain ⟨leftValue, leftPath⟩ := of_decide_eq_true leftRank
  obtain ⟨rightValue, rightPath⟩ := of_decide_eq_true rightRank
  have same := Double.same_iff.mpr ⟨value, leftValue, rightValue⟩
  simp only [Double.same, Bool.and_eq_true, beq_iff_eq] at same
  exact ⟨same.2, leftPath.trans rightPath.symm⟩

theorem ordered_filter_known (found : List (Match Double)) :
    ordered (found.filter fun candidate => !candidate.score.isNan) = ordered found := by
  rw [ordered_eq, ordered_eq, List.filter_filter]
  congr 1
  apply List.filter_congr
  intro candidate _
  cases counted : isCounted candidate with
  | false => rfl
  | true => simp [isNan_of_isCounted counted]

theorem ordered_of_perm (perm : others.Perm found)
    (apart : found.Pairwise fun left right => ¬ left.Agrees right) :
    ordered others = ordered found := by
  rw [ordered_eq, ordered_eq]
  apply mergeSort_weighsFirst_of_perm (perm.filter _)
  intro left leftMember right rightMember sameKey samePath
  obtain ⟨leftInside, leftCounted⟩ := List.mem_filter.mp leftMember
  obtain ⟨rightInside, rightCounted⟩ := List.mem_filter.mp rightMember
  by_contra unlike
  have agrees : left.Agrees right := by
    refine agrees_iff.mpr ⟨?_, samePath⟩
    simp [Double.same, isNan_of_isCounted leftCounted, isNan_of_isCounted rightCounted, sameKey]
  exact apart.forall leftInside rightInside unlike agrees

/-- The best matches are the first of all that have a score above zero, in the order of their
scores, their paths and their places in what was found. Scores that are no number do not count. -/
theorem rank_gives_best_scores (limit? : Option Int) (found : List (Match Double)) :
    let limit := positiveOr 5 limit?
    (∃ ranking : List (Match Double),
      ranking.Perm (found.filter isCounted) ∧
      ranking.Pairwise MayPrecede ∧
      (∀ value path, ranking.filter (hasRank value path) =
        (found.filter isCounted).filter (hasRank value path)) ∧
      rank limit? found = ranking.take limit ∧
      ∀ chosen ∈ ranking.take limit, ∀ dropped ∈ ranking.drop limit,
        chosen.MayPrecede dropped) ∧
    (∀ chosen ∈ rank limit? found, chosen.score.isNan = false) ∧
    rank limit? (found.filter fun candidate => !candidate.score.isNan) = rank limit? found ∧
    ∀ others : List (Match Double), others.Perm found →
      (found.Pairwise fun left right => ¬ left.Agrees right) →
      rank limit? others = rank limit? found := by
  intro limit
  have cut : ∀ found : List (Match Double), rank limit? found = (ordered found).take limit := by
    intro found
    have resolved : resolveLimit defaultLimit limit? = limit := Searcher.resolveLimit_eq 5 limit?
    rw [rank, resolved, Int.toNat_natCast]
  have sorted := ordered_pairwise found
  refine ⟨⟨ordered found, ordered_perm found, sorted,
    fun value path => filter_ordered value path found, cut found,
    fun chosen inside dropped outside => sorted.rel_of_mem_take_of_mem_drop inside outside⟩,
    ?_, ?_, ?_⟩
  · intro chosen member
    rw [cut] at member
    exact isNan_of_mem_ordered (List.mem_of_mem_take member)
  · rw [cut, cut, ordered_filter_known]
  · intro others perm apart
    rw [cut, cut, ordered_of_perm perm apart]

/-! Equal scores, an infinite one, a zero with a sign, and scores that are no numbers. -/

def exampleMatches : List (Match Double) :=
  [⟨"/b", ⟨0x3FF0000000000000⟩, ""⟩, ⟨"/n", .nan, ""⟩, ⟨"/a", ⟨0x3FF0000000000000⟩, ""⟩,
    ⟨"/z", ⟨0x8000000000000000⟩, ""⟩, ⟨"/n", .nan, ""⟩, ⟨"/a", ⟨0x7FF0000000000000⟩, ""⟩,
    ⟨"/s", ⟨1⟩, ""⟩]

theorem rank_of_reversed_matches :
    exampleMatches.reverse.Perm exampleMatches ∧
    (exampleMatches.Pairwise fun left right => ¬ left.Agrees right) ∧
    rank (some (-1)) exampleMatches.reverse = rank (some (-1)) exampleMatches := by
  have perm : exampleMatches.reverse.Perm exampleMatches := List.reverse_perm _
  have apart : exampleMatches.Pairwise fun left right => ¬ left.Agrees right := by decide
  exact ⟨perm, apart, (rank_gives_best_scores (some (-1)) exampleMatches).2.2.2 _ perm apart⟩

end FolderIndex.Match
