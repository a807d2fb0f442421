import FolderIndex.Text.Lowercase

namespace FolderIndex.Text

/-! Lowercase forms of names and of their endings. The form of a capital sigma hangs on the letters
on both of its sides, so the ending of a lowercase name may differ from the lowercase ending. -/

def capitalSigma : Char := '\u03A3'

/-- A text with a capital sigma before any other letter, and with no letter next to it on its
right: behind a letter, the sigma ends a word. -/
def OpensWithSigma (text : List Char) : Prop :=
  ∃ marks after, text = marks ++ capitalSigma :: after ∧
    (∀ mark ∈ marks, isCaseIgnorable mark = true) ∧ meetsCased after = false

/-- A stem that ends in a letter, but for marks behind it, and makes a word end in an extension. -/
def EndsWordIn (stem extension : String) : Prop :=
  meetsCased stem.toList.reverse = true ∧ OpensWithSigma extension.toList

variable {character : Char} {before others text after stem : List Char}

theorem isCapitalSigma_iff : isCapitalSigma character = true ↔ character = capitalSigma := by
  rw [isCapitalSigma, beq_iff_eq]
  refine ⟨fun code => ?_, fun same => by rw [same]; decide⟩
  rw [← Char.ofNat_toNat character, code]
  decide

theorem isCaseIgnorable_capitalSigma : isCaseIgnorable capitalSigma = false := by decide +kernel

theorem meetsCased_cons (character : Char) (side : List Char) :
    meetsCased (character :: side) =
      if isCaseIgnorable character then meetsCased side else isCased character := by
  unfold meetsCased
  cases ignored : isCaseIgnorable character with
  | true => simp [ignored]
  | false => simp [ignored]

theorem meetsCased_cons_congr (same : meetsCased before = meetsCased others) :
    meetsCased (character :: before) = meetsCased (character :: others) := by
  rw [meetsCased_cons, meetsCased_cons, same]

/-- What precedes a text matters to its lowercase form only by whether it ends in a letter. -/
theorem lowerFrom_congr (same : meetsCased before = meetsCased others) :
    lowerFrom before text = lowerFrom others text := by
  induction text generalizing before others with
  | nil => rfl
  | cons character rest ih =>
      simp only [lowerFrom, lowerSigma, same, ih (meetsCased_cons_congr same)]

theorem length_lowerFrom (before others text : List Char) :
    (lowerFrom before text).length = (lowerFrom others text).length := by
  induction text generalizing before others with
  | nil => rfl
  | cons character rest ih =>
      rw [lowerFrom, lowerFrom, List.length_append, List.length_append,
        ih (character :: before) (character :: others)]
      split <;> rfl

/-- The lowercase form of a text begins with a form of its stem. -/
theorem lowerFrom_append (before stem text : List Char) :
    ∃ front, lowerFrom before (stem ++ text) = front ++ lowerFrom (stem.reverse ++ before) text := by
  induction stem generalizing before with
  | nil => exact ⟨[], rfl⟩
  | cons character rest ih =>
      obtain ⟨front, split⟩ := ih (character :: before)
      refine ⟨(if isCapitalSigma character then [lowerSigma before (rest ++ text)]
        else lowerAlone character) ++ front, ?_⟩
      rw [List.cons_append, lowerFrom, split, List.append_assoc, List.reverse_cons,
        List.append_assoc]
      rfl

theorem opensWithSigma_cons :
    OpensWithSigma (character :: after) ↔
      character = capitalSigma ∧ meetsCased after = false ∨
        isCaseIgnorable character = true ∧ OpensWithSigma after := by
  constructor
  · rintro ⟨marks, behind, split, ignored, alone⟩
    cases marks with
    | nil =>
        cases split
        exact .inl ⟨rfl, alone⟩
    | cons mark rest =>
        cases split
        obtain ⟨first, later⟩ := List.forall_mem_cons.mp ignored
        exact .inr ⟨first, rest, behind, rfl, later, alone⟩
  · rintro (⟨rfl, alone⟩ | ⟨ignored, marks, behind, rfl, later, alone⟩)
    · exact ⟨[], after, rfl, by simp, alone⟩
    · exact ⟨character :: marks, behind, rfl, List.forall_mem_cons.mpr ⟨ignored, later⟩, alone⟩

theorem lowerSigma_eq_iff (beforeCased : meetsCased before = true) :
    lowerSigma before after = lowerSigma [] after ↔ meetsCased after = true := by
  have apart : Char.ofNat 0x3C2 ≠ Char.ofNat 0x3C3 := by decide
  have nothing : meetsCased [] = false := rfl
  unfold lowerSigma
  cases letter : meetsCased after <;> simp [beforeCased, nothing, apart]

/-- A text behind a letter is lowered as it is alone, unless the letter makes a word end at a sigma
in it. -/
theorem lowerFrom_eq_iff (beforeCased : meetsCased before = true) :
    lowerFrom before text = lowerFrom [] text ↔ ¬ OpensWithSigma text := by
  induction text generalizing before with
  | nil =>
      refine ⟨fun _ => ?_, fun _ => rfl⟩
      rintro ⟨marks, after, split, _⟩
      simp at split
  | cons character after ih =>
      rw [opensWithSigma_cons, lowerFrom, lowerFrom]
      by_cases sigma : character = capitalSigma
      · -- Behind the sigma both sides go on alike, so its own form decides.
        subst sigma
        have tails : lowerFrom (capitalSigma :: before) after = lowerFrom [capitalSigma] after := by
          apply lowerFrom_congr
          simp [meetsCased_cons, isCaseIgnorable_capitalSigma]
        rw [tails, if_pos (isCapitalSigma_iff.mpr rfl), if_pos (isCapitalSigma_iff.mpr rfl),
          List.append_cancel_right_eq, List.singleton_inj, lowerSigma_eq_iff beforeCased]
        simp [isCaseIgnorable_capitalSigma]
      · have plain : ¬ isCapitalSigma character = true := mt isCapitalSigma_iff.mp sigma
        rw [if_neg plain, if_neg plain, List.append_cancel_left_eq]
        cases ignored : isCaseIgnorable character with
        | true =>
            have front : meetsCased (character :: before) = true := by
              rw [meetsCased_cons, ignored, if_pos rfl, beforeCased]
            have mark : lowerFrom [character] after = lowerFrom [] after := by
              apply lowerFrom_congr
              rw [meetsCased_cons, ignored, if_pos rfl]
            rw [mark, ih front]
            simp [sigma]
        | false =>
            have stops : lowerFrom (character :: before) after = lowerFrom [character] after := by
              apply lowerFrom_congr
              simp [meetsCased_cons, ignored]
            simp [stops, sigma]

/-- The lowercase form of a name ends in that of its ending, unless a word ends at a sigma in it. -/
theorem lower_isSuffixOf_append (stem extension : String) :
    (lower extension).isSuffixOf (lower (stem ++ extension)) = true ↔
      ¬ EndsWordIn stem extension := by
  have whole : lower (stem ++ extension) = lowerFrom [] (stem.toList ++ extension.toList) := by
    rw [lower, String.toList_append]
  obtain ⟨front, split⟩ := lowerFrom_append [] stem.toList extension.toList
  rw [List.append_nil] at split
  have ends : lower extension <:+ front ++ lowerFrom stem.toList.reverse extension.toList ↔
      lowerFrom stem.toList.reverse extension.toList = lowerFrom [] extension.toList := by
    have length := length_lowerFrom [] stem.toList.reverse extension.toList
    constructor
    · rintro ⟨other, same⟩
      exact (List.append_inj' same length).2.symm
    · intro same
      rw [same]
      exact List.suffix_append front _
  rw [List.isSuffixOf_iff_suffix, whole, split, ends, EndsWordIn]
  by_cases letter : meetsCased stem.toList.reverse = true
  · rw [lowerFrom_eq_iff letter]
    simp [letter]
  · have same : lowerFrom stem.toList.reverse extension.toList = lowerFrom [] extension.toList := by
      apply lowerFrom_congr
      rw [Bool.not_eq_true] at letter
      rw [letter]
      rfl
    simp [same, letter]

end FolderIndex.Text
