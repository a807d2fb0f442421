import Mathlib.Data.List.Sort
import Mathlib.Data.String.Basic

namespace FolderIndex

/-! Lists in the order of a text that belongs to each of their members, or of a weight and such a
text. -/

variable {α : Type} {key : α → String} {members others : List α}

theorem pairwise_mergeSort_key (distinct : (members.map key).Nodup) :
    (members.mergeSort fun left right => decide (key left ≤ key right)).Pairwise
      fun left right => key left < key right := by
  have sorted : (members.mergeSort fun left right => decide (key left ≤ key right)).Pairwise
      fun left right => decide (key left ≤ key right) = true := by
    apply List.pairwise_mergeSort
    · intro left between right first second
      exact decide_eq_true ((of_decide_eq_true first).trans (of_decide_eq_true second))
    · intro left right
      simpa using le_total (key left) (key right)
  have apart : ((members.mergeSort fun left right => decide (key left ≤ key right)).map key).Nodup :=
    (((List.mergeSort_perm _ _).map key).nodup_iff).mpr distinct
  rw [List.Nodup, List.pairwise_map] at apart
  refine List.Pairwise.imp₂ ?_ sorted apart
  intro left right inOrder unlike
  exact lt_of_le_of_ne (of_decide_eq_true inOrder) unlike

/-- Lists in the same strict order with the same members are equal. -/
theorem eq_of_pairwise_of_mem_iff {before : α → α → Prop}
    (asymm : ∀ {left right}, before left right → ¬ before right left)
    (sorted : members.Pairwise before) (alsoSorted : others.Pairwise before)
    (same : ∀ member, member ∈ members ↔ member ∈ others) : members = others := by
  have distinct : ∀ {list : List α}, list.Pairwise before → list.Nodup := by
    intro list inOrder
    refine inOrder.imp ?_
    rintro left right first rfl
    exact asymm first first
  have perm : members.Perm others :=
    (List.perm_ext_iff_of_nodup (distinct sorted) (distinct alsoSorted)).mpr same
  exact perm.eq_of_pairwise (fun _ _ _ _ first second => absurd second (asymm first)) sorted
    alsoSorted

section Weights

variable {ω : Type} [LinearOrder ω]

/-- Greater weights first, equal ones in the order of a text. -/
def weighsFirst (weight : α → ω) (key : α → String) (left right : α) : Bool :=
  decide (weight right < weight left) ||
    (!decide (weight left < weight right) && decide (key left ≤ key right))

variable {weight : α → ω} {left between right : α}

theorem weighsFirst_iff :
    weighsFirst weight key left right = true ↔
      weight right < weight left ∨ weight left = weight right ∧ key left ≤ key right := by
  simp only [weighsFirst, Bool.or_eq_true, Bool.and_eq_true, Bool.not_eq_true', decide_eq_true_eq,
    decide_eq_false_iff_not, not_lt]
  constructor
  · rintro (more | ⟨notLess, inOrder⟩)
    · exact .inl more
    · exact notLess.lt_or_eq.imp id fun same => ⟨same.symm, inOrder⟩
  · rintro (more | ⟨same, inOrder⟩)
    · exact .inl more
    · exact .inr ⟨same.ge, inOrder⟩

theorem weighsFirst_trans (first : weighsFirst weight key left between = true)
    (second : weighsFirst weight key between right = true) :
    weighsFirst weight key left right = true := by
  rw [weighsFirst_iff] at first second ⊢
  rcases first with more | ⟨same, inOrder⟩
  · rcases second with still | ⟨same, _⟩
    · exact .inl (still.trans more)
    · exact .inl (same ▸ more)
  · rcases second with more | ⟨alsoSame, alsoInOrder⟩
    · exact .inl (same ▸ more)
    · exact .inr ⟨same.trans alsoSame, inOrder.trans alsoInOrder⟩

theorem weighsFirst_total (left right : α) :
    (weighsFirst weight key left right || weighsFirst weight key right left) = true := by
  rw [Bool.or_eq_true, weighsFirst_iff, weighsFirst_iff]
  rcases lt_trichotomy (weight left) (weight right) with less | same | more
  · exact .inr (.inl less)
  · rcases le_total (key left) (key right) with inOrder | inOrder
    · exact .inl (.inr ⟨same, inOrder⟩)
    · exact .inr (.inr ⟨same.symm, inOrder⟩)
  · exact .inl (.inl more)

theorem weighsFirst_antisymm (first : weighsFirst weight key left right = true)
    (second : weighsFirst weight key right left = true) :
    weight left = weight right ∧ key left = key right := by
  rw [weighsFirst_iff] at first second
  rcases first with more | ⟨same, inOrder⟩
  · rcases second with less | ⟨same, _⟩
    · exact absurd more less.asymm
    · exact absurd more same.not_lt
  · rcases second with more | ⟨_, alsoInOrder⟩
    · exact absurd more same.not_lt
    · exact ⟨same, le_antisymm inOrder alsoInOrder⟩

theorem pairwise_mergeSort_weighsFirst (weight : α → ω) (key : α → String) (members : List α) :
    (members.mergeSort (weighsFirst weight key)).Pairwise
      fun left right => weighsFirst weight key left right = true := by
  apply List.pairwise_mergeSort
  · exact fun _ _ _ => weighsFirst_trans
  · exact weighsFirst_total

/-- Members that are told apart by their weights and texts have one order. -/
theorem mergeSort_weighsFirst_of_perm (perm : members.Perm others)
    (apart : ∀ left ∈ others, ∀ right ∈ others, weight left = weight right →
      key left = key right → left = right) :
    members.mergeSort (weighsFirst weight key) = others.mergeSort (weighsFirst weight key) := by
  have same := ((List.mergeSort_perm members (weighsFirst weight key)).trans perm).trans
    (List.mergeSort_perm others (weighsFirst weight key)).symm
  refine same.eq_of_pairwise ?_ (pairwise_mergeSort_weighsFirst weight key members)
    (pairwise_mergeSort_weighsFirst weight key others)
  intro left right leftMember rightMember first second
  rw [List.mem_mergeSort] at leftMember rightMember
  obtain ⟨sameWeight, sameKey⟩ := weighsFirst_antisymm first second
  exact apart left (perm.mem_iff.mp leftMember) right rightMember sameWeight sameKey

/-- Members of one weight and text keep their order. -/
theorem filter_mergeSort_weighsFirst {chosen : α → Bool} (members : List α)
    (alike : ∀ left ∈ members, ∀ right ∈ members, chosen left = true → chosen right = true →
      weight left = weight right ∧ key left = key right) :
    (members.mergeSort (weighsFirst weight key)).filter chosen = members.filter chosen := by
  have inOrder : (members.filter chosen).Pairwise
      fun left right => weighsFirst weight key left right = true := by
    refine List.pairwise_of_forall_mem_list ?_
    intro left leftMember right rightMember
    obtain ⟨leftInside, leftChosen⟩ := List.mem_filter.mp leftMember
    obtain ⟨rightInside, rightChosen⟩ := List.mem_filter.mp rightMember
    obtain ⟨sameWeight, sameKey⟩ := alike left leftInside right rightInside leftChosen rightChosen
    exact weighsFirst_iff.mpr (.inr ⟨sameWeight, sameKey.le⟩)
  have kept := (List.sublist_mergeSort (fun _ _ _ => weighsFirst_trans) weighsFirst_total inOrder
    List.filter_sublist).filter chosen
  simp only [List.filter_filter, Bool.and_self] at kept
  exact (kept.eq_of_length (((List.mergeSort_perm members _).filter chosen).length_eq.symm)).symm

end Weights

end FolderIndex
