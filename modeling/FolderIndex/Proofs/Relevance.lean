import FolderIndex.Database
import FolderIndex.Proofs.Sorting
import FolderIndex.Ranking
import FolderIndex.Text.Token
import Mathlib.Algebra.Order.Field.Rat
import Mathlib.Data.Finset.Card
import Mathlib.Data.String.Basic

namespace FolderIndex

/-! How relevant a document is to a query: the share of the tokens of both that they have in
common, as an exact fraction. -/

theorem length_firsts (tokens : List String) : (firsts tokens).length = tokens.toFinset.card := by
  rw [← List.toFinset_card_of_nodup (nodup_firsts tokens)]
  congr 1
  ext token
  simp [mem_firsts]

theorem length_filter_firsts (query document : List String) :
    ((firsts query).filter (firsts document).contains).length =
      (query.toFinset ∩ document.toFinset).card := by
  rw [← List.toFinset_card_of_nodup ((nodup_firsts query).filter _)]
  congr 1
  ext token
  simp [mem_firsts]

namespace Similarity

theorem of_eq {query document : List String} (asked : query ≠ []) (filled : document ≠ []) :
    Similarity.of query document = ⟨(query.toFinset ∩ document.toFinset).card,
      (query.toFinset ∪ document.toFinset).card⟩ := by
  have askedFirst : (firsts query).isEmpty = false := by
    cases query with
    | nil => contradiction
    | cons token rest => rfl
  have filledFirst : (firsts document).isEmpty = false := by
    cases document with
    | nil => contradiction
    | cons token rest => rfl
  unfold Similarity.of
  dsimp only
  rw [askedFirst, filledFirst, length_filter_firsts, length_firsts, length_firsts,
    Finset.card_union]
  rfl

theorem of_nil (query : List String) : Similarity.of query [] = ⟨0, 1⟩ := by
  simp [Similarity.of, firsts]

end Similarity

/-- The tokens of the content of a row. -/
def Entry.tokenSet (row : Entry) : Finset String :=
  (Text.tokenize row.content).toFinset

/-- The share of the tokens of a query and of a row that are in both of them. -/
def relevance (query : Finset String) (row : Entry) : Rat :=
  ((query ∩ row.tokenSet).card : Rat) / ((query ∪ row.tokenSet).card : Rat)

/-- Rows that are more relevant come first, equally relevant ones in the order of their paths. -/
def ComesBefore (query : Finset String) (left right : Entry) : Prop :=
  relevance query right < relevance query left ∨
    relevance query left = relevance query right ∧ left.path < right.path

/-- Whether a row may stand in front of another. -/
def ranksBefore (query : Finset String) (left right : Entry) : Bool :=
  decide (relevance query right < relevance query left) ||
    (!decide (relevance query left < relevance query right) && decide (left.path ≤ right.path))

variable {query : Finset String} {left right : Entry}

theorem ranksBefore_eq (query : Finset String) :
    ranksBefore query = weighsFirst (relevance query) (·.path) := rfl

theorem ranksBefore_iff :
    ranksBefore query left right = true ↔
      ComesBefore query left right ∨
        relevance query left = relevance query right ∧ left.path = right.path := by
  rw [ranksBefore_eq, weighsFirst_iff, ComesBefore, le_iff_lt_or_eq, and_or_left, or_assoc]

theorem ComesBefore.asymm (before : ComesBefore query left right) :
    ¬ ComesBefore query right left := by
  rintro (more | ⟨same, reversed⟩)
  · rcases before with less | ⟨same, _⟩
    · exact less.asymm more
    · exact more.ne same
  · rcases before with less | ⟨_, inOrder⟩
    · exact less.ne same
    · exact inOrder.asymm reversed

/-- Whether a row has a token of a query. -/
def Entry.meets (query : Finset String) (row : Entry) : Bool :=
  decide (query ∩ row.tokenSet).Nonempty

/-- A row as it is found, with its whole content. -/
def Entry.scored (query : List String) (row : Entry) : Match Similarity :=
  ⟨row.path, Similarity.of query (Text.tokenize row.content), row.content⟩

section Scored

variable {query : List String} {left right : Entry}

theorem scored_of_filled (asked : query ≠ []) {row : Entry}
    (filled : Text.tokenize row.content ≠ []) :
    (row.scored query).score = ⟨(query.toFinset ∩ row.tokenSet).card,
      (query.toFinset ∪ row.tokenSet).card⟩ :=
  Similarity.of_eq asked filled

theorem tokenSet_of_empty {row : Entry} (empty : Text.tokenize row.content = []) :
    row.tokenSet = ∅ := by
  simp [Entry.tokenSet, empty]

theorem total_scored_pos (asked : query ≠ []) (row : Entry) :
    0 < (row.scored query).score.total := by
  by_cases empty : Text.tokenize row.content = []
  · simp [Entry.scored, empty, Similarity.of_nil]
  · rw [scored_of_filled asked empty]
    have some : query.toFinset.Nonempty := (List.toFinset_nonempty_iff query).mpr asked
    have all : (query.toFinset ∪ row.tokenSet).Nonempty := some.mono Finset.subset_union_left
    exact all.card_pos

/-- The score of a row is its relevance. -/
theorem relevance_eq (asked : query ≠ []) (row : Entry) :
    relevance query.toFinset row =
      ((row.scored query).score.shared : Rat) / ((row.scored query).score.total : Rat) := by
  by_cases empty : Text.tokenize row.content = []
  · simp [relevance, tokenSet_of_empty empty, Entry.scored, empty, Similarity.of_nil]
  · rw [scored_of_filled asked empty]
    rfl

theorem positive_scored (asked : query ≠ []) (row : Entry) :
    Score.positive (row.scored query).score = row.meets query.toFinset := by
  by_cases empty : Text.tokenize row.content = []
  · simp [Entry.scored, Entry.meets, empty, Similarity.of_nil, tokenSet_of_empty empty,
      Score.positive]
  · rw [scored_of_filled asked empty]
    simp [Score.positive, Entry.meets, Finset.card_pos]

theorem above_scored (asked : query ≠ []) (left right : Entry) :
    Score.above (left.scored query).score (right.scored query).score =
      decide (relevance query.toFinset right < relevance query.toFinset left) := by
  have leftPositive : (0 : Rat) < (left.scored query).score.total :=
    Nat.cast_pos.mpr (total_scored_pos asked left)
  have rightPositive : (0 : Rat) < (right.scored query).score.total :=
    Nat.cast_pos.mpr (total_scored_pos asked right)
  rw [relevance_eq asked, relevance_eq asked]
  apply decide_eq_decide.mpr
  rw [div_lt_div_iff₀ rightPositive leftPositive]
  norm_cast

/-- Matches are ordered as their rows. -/
theorem precedes_scored (asked : query ≠ []) (left right : Entry) :
    ranksBefore query.toFinset left right =
      Match.precedes (left.scored query) (right.scored query) := by
  unfold ranksBefore Match.precedes
  rw [above_scored asked, above_scored asked]
  rfl

end Scored

end FolderIndex
