import FolderIndex.Proofs.Relevance
import Mathlib.Algebra.Order.Field.Basic
import Mathlib.Tactic.NormNum

namespace FolderIndex.Similarity

/-! The share of tokens as a measure of two sets: how it hangs on what both have and on what only
one of them has. -/

/-- The share of the tokens of two lists that are in both, as an exact fraction. -/
def share (query document : List String) : Rat :=
  ((Similarity.of query document).shared : Rat) / ((Similarity.of query document).total : Rat)

variable {query document queries documents : List String} {token : String}

theorem of_nil_left (document : List String) : Similarity.of [] document = ⟨0, 1⟩ := by
  simp [Similarity.of, firsts]

theorem of_cases (query document : List String) :
    (query = [] ∨ document = []) ∧ Similarity.of query document = ⟨0, 1⟩ ∨
      query ≠ [] ∧ document ≠ [] ∧ Similarity.of query document =
        ⟨(query.toFinset ∩ document.toFinset).card, (query.toFinset ∪ document.toFinset).card⟩ := by
  by_cases unasked : query = []
  · subst unasked
    exact .inl ⟨.inl rfl, of_nil_left document⟩
  · by_cases unfilled : document = []
    · subst unfilled
      exact .inl ⟨.inr rfl, of_nil query⟩
    · exact .inr ⟨unasked, unfilled, of_eq unasked unfilled⟩

theorem toFinset_eq_of_mem_iff (same : ∀ token, token ∈ queries ↔ token ∈ query) :
    queries.toFinset = query.toFinset := by
  ext token
  simp [same]

/-- Neither the order nor the repetitions of tokens matter. -/
theorem of_congr (sameQuery : ∀ token, token ∈ queries ↔ token ∈ query)
    (sameDocument : ∀ token, token ∈ documents ↔ token ∈ document) :
    Similarity.of queries documents = Similarity.of query document := by
  have empty : ∀ {left right : List String}, (∀ token, token ∈ left ↔ token ∈ right) →
      (left = [] ↔ right = []) := by
    intro left right same
    simp only [List.eq_nil_iff_forall_not_mem, same]
  rcases of_cases query document with ⟨missing, without⟩ | ⟨asked, filled, shares⟩
  · rw [← empty sameQuery, ← empty sameDocument] at missing
    rcases missing with rfl | rfl
    · rw [of_nil_left, without]
    · rw [of_nil, without]
  · rw [shares, of_eq (fun none => asked ((empty sameQuery).mp none))
      fun none => filled ((empty sameDocument).mp none), toFinset_eq_of_mem_iff sameQuery,
      toFinset_eq_of_mem_iff sameDocument]

theorem of_comm (query document : List String) :
    Similarity.of document query = Similarity.of query document := by
  rcases of_cases query document with ⟨rfl | rfl, without⟩ | ⟨asked, filled, shares⟩
  · rw [of_nil, without]
  · rw [of_nil_left, without]
  · rw [shares, of_eq filled asked, Finset.inter_comm, Finset.union_comm]

theorem card_union_pos (asked : query ≠ []) (document : List String) :
    0 < (query.toFinset ∪ document.toFinset).card := by
  have some : query.toFinset.Nonempty := (List.toFinset_nonempty_iff query).mpr asked
  exact (some.mono Finset.subset_union_left).card_pos

theorem total_pos (query document : List String) : 0 < (Similarity.of query document).total := by
  rcases of_cases query document with ⟨_, without⟩ | ⟨asked, _, shares⟩
  · rw [without]
    exact Nat.one_pos
  · rw [shares]
    exact card_union_pos asked document

/-- What both have, out of what any of them has. -/
theorem share_eq (query document : List String) :
    share query document =
      ((query.toFinset ∩ document.toFinset).card : Rat) /
        ((query.toFinset ∪ document.toFinset).card : Rat) := by
  rcases of_cases query document with ⟨rfl | rfl, without⟩ | ⟨_, _, shares⟩
  · simp [without, share]
  · simp [without, share]
  · rw [share, shares]

theorem shared_le_total (query document : List String) :
    (Similarity.of query document).shared ≤ (Similarity.of query document).total := by
  rcases of_cases query document with ⟨_, without⟩ | ⟨_, _, shares⟩
  · simp [without]
  · rw [shares]
    have within : query.toFinset ∩ document.toFinset ⊆ query.toFinset ∪ document.toFinset :=
      Finset.inter_subset_left.trans Finset.subset_union_left
    exact Finset.card_le_card within

theorem share_nonneg (query document : List String) :
    0 ≤ share query document :=
  div_nonneg (Nat.cast_nonneg _) (Nat.cast_nonneg _)

theorem share_le_one (query document : List String) :
    share query document ≤ 1 := by
  have positive : (0 : Rat) < (Similarity.of query document).total :=
    Nat.cast_pos.mpr (total_pos query document)
  rw [share, div_le_one positive]
  exact Nat.cast_le.mpr (shared_le_total query document)

theorem share_eq_zero_iff :
    share query document = 0 ↔ ∀ token ∈ query, token ∉ document := by
  have whole : query.toFinset ∩ document.toFinset = ∅ ↔ ∀ token ∈ query, token ∉ document := by
    rw [← Finset.disjoint_iff_inter_eq_empty, Finset.disjoint_left]
    simp
  rw [← whole, share_eq, div_eq_zero_iff, Nat.cast_eq_zero, Nat.cast_eq_zero, Finset.card_eq_zero,
    Finset.card_eq_zero, or_iff_left_iff_imp, Finset.union_eq_empty]
  intro neither
  rw [neither.1, Finset.empty_inter]

theorem share_eq_one_iff :
    share query document = 1 ↔
      query ≠ [] ∧ document ≠ [] ∧ ∀ token, token ∈ query ↔ token ∈ document := by
  rcases of_cases query document with ⟨missing, without⟩ | ⟨asked, filled, shares⟩
  · simp only [without, share, Nat.cast_zero, zero_div, zero_ne_one, false_iff]
    rintro ⟨asked, filled, _⟩
    exact missing.elim asked filled
  · have positive : ((query.toFinset ∪ document.toFinset).card : Rat) ≠ 0 :=
      Nat.cast_ne_zero.mpr (card_union_pos asked document).ne'
    have within : query.toFinset ∩ document.toFinset ⊆ query.toFinset ∪ document.toFinset :=
      Finset.inter_subset_left.trans Finset.subset_union_left
    rw [share, shares, div_eq_one_iff_eq positive, Nat.cast_inj]
    refine ⟨fun same => ⟨asked, filled, fun token => ?_⟩, fun ⟨_, _, same⟩ => ?_⟩
    · have equal := Finset.eq_of_subset_of_card_le within same.ge
      have both := congrArg (token ∈ ·) equal
      simp only [Finset.mem_inter, Finset.mem_union, List.mem_toFinset, eq_iff_iff] at both
      exact ⟨fun own => (both.mpr (.inl own)).2, fun own => (both.mpr (.inr own)).1⟩
    · rw [toFinset_eq_of_mem_iff same, Finset.inter_self, Finset.union_self]

theorem toFinset_append_token (document : List String) (token : String) :
    (document ++ [token]).toFinset = insert token document.toFinset := by
  ext other
  simp

/-- A token that only the query had is one more in common, of as many as before. -/
theorem share_lt_of_asked (asked : token ∈ query) (missing : token ∉ document) :
    share query document < share query (document ++ [token]) := by
  have member : token ∈ query.toFinset := List.mem_toFinset.mpr asked
  have outside : token ∉ query.toFinset ∩ document.toFinset := fun inside =>
    missing (List.mem_toFinset.mp (Finset.mem_inter.mp inside).2)
  have common : query.toFinset ∩ insert token document.toFinset =
      insert token (query.toFinset ∩ document.toFinset) := Finset.inter_insert_of_mem member
  have all : query.toFinset ∪ insert token document.toFinset =
      query.toFinset ∪ document.toFinset := by
    rw [Finset.union_insert, Finset.insert_eq_of_mem (Finset.mem_union_left _ member)]
  have positive : (0 : Rat) < (query.toFinset ∪ document.toFinset).card :=
    Nat.cast_pos.mpr (card_union_pos (List.ne_nil_of_mem asked) document)
  rw [share_eq, share_eq, toFinset_append_token, common, all, Finset.card_insert_of_notMem outside]
  exact div_lt_div_of_pos_right (Nat.cast_lt.mpr (Nat.lt_succ_self _)) positive

/-- A token that neither had is one more of all, and none in common. -/
theorem share_lt_of_unasked (unasked : token ∉ query) (missing : token ∉ document)
    (positive : 0 < share query document) :
    share query (document ++ [token]) < share query document := by
  have apart : token ∉ query.toFinset := fun member => unasked (List.mem_toFinset.mp member)
  have outside : token ∉ query.toFinset ∪ document.toFinset := by
    simp [unasked, missing]
  have common : query.toFinset ∩ insert token document.toFinset =
      query.toFinset ∩ document.toFinset := Finset.inter_insert_of_notMem apart
  have all : query.toFinset ∪ insert token document.toFinset =
      insert token (query.toFinset ∪ document.toFinset) := Finset.union_insert _ _ _
  rw [share_eq] at positive
  have some : (0 : Rat) < (query.toFinset ∪ document.toFinset).card := by
    by_contra empty
    have zero : ((query.toFinset ∪ document.toFinset).card : Rat) = 0 :=
      le_antisymm (not_lt.mp empty) (Nat.cast_nonneg _)
    rw [zero, div_zero] at positive
    exact positive.false
  have shared : (0 : Rat) < (query.toFinset ∩ document.toFinset).card := by
    rwa [lt_div_iff₀ some, zero_mul] at positive
  rw [share_eq, share_eq, toFinset_append_token, common, all, Finset.card_insert_of_notMem outside]
  exact div_lt_div_of_pos_left shared some (Nat.cast_lt.mpr (Nat.lt_succ_self _))

/-- How alike two lists of tokens are is a measure of their sets. It is what they have in common
out of all, never out of nothing; it is whole for equal sets and nothing for disjoint ones; and a
token more in one of them raises it if the other has the token, and lowers it if not. -/
theorem share_measures_token_sets (query document : List String) :
    (∀ queries documents : List String, (∀ token, token ∈ queries ↔ token ∈ query) →
      (∀ token, token ∈ documents ↔ token ∈ document) →
        Similarity.of queries documents = Similarity.of query document) ∧
    Similarity.of document query = Similarity.of query document ∧
    0 < (Similarity.of query document).total ∧
    share query document = ((query.toFinset ∩ document.toFinset).card : Rat) /
      ((query.toFinset ∪ document.toFinset).card : Rat) ∧
    0 ≤ share query document ∧ share query document ≤ 1 ∧
    (share query document = 1 ↔
      query ≠ [] ∧ document ≠ [] ∧ ∀ token, token ∈ query ↔ token ∈ document) ∧
    (share query document = 0 ↔ ∀ token ∈ query, token ∉ document) ∧
    ∀ token, token ∉ document →
      (token ∈ query → share query document < share query (document ++ [token])) ∧
      (token ∉ query → 0 < share query document →
        share query (document ++ [token]) < share query document) := by
  refine ⟨fun _ _ => of_congr, of_comm query document, total_pos query document,
    share_eq query document, share_nonneg query document, share_le_one query document,
    share_eq_one_iff, share_eq_zero_iff, fun token missing => ⟨?_, ?_⟩⟩
  · exact fun asked => share_lt_of_asked asked missing
  · exact fun unasked positive => share_lt_of_unasked unasked missing positive

theorem share_of_one_in_three :
    Similarity.of ["b", "a", "a"] ["c", "b", "b"] = Similarity.of ["a", "b"] ["b", "c"] ∧
    share ["a", "b"] ["b", "c"] = 1 / 3 ∧ "a" ∉ ["b", "c"] ∧ "d" ∉ ["b", "c"] ∧
    share ["a", "b"] ["b", "c"] < share ["a", "b"] ["b", "c", "a"] ∧
    share ["a", "b"] ["b", "c", "d"] < share ["a", "b"] ["b", "c"] := by
  obtain ⟨same, _, _, _, _, _, _, _, more⟩ := share_measures_token_sets ["a", "b"] ["b", "c"]
  have third : share ["a", "b"] ["b", "c"] = 1 / 3 := by
    have counts : Similarity.of ["a", "b"] ["b", "c"] = ⟨1, 3⟩ := by decide
    rw [share, counts]
    norm_num
  refine ⟨same _ _ (by simp [or_comm]) (by simp [or_comm]), third, by decide, by decide,
    (more "a" (by decide)).1 (by decide), (more "d" (by decide)).2 (by decide) ?_⟩
  rw [third]
  norm_num

end FolderIndex.Similarity
