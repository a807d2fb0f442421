import FolderIndex.Proofs.Text.Spellings

namespace FolderIndex.Text

/-! A whole number that was written out is read as that number, as long as it has no more digits
than are read at all. -/

variable {character : Char} {text : List Char} {number : Int}

/-- A number in decimal digits, with a minus sign if it is negative. -/
theorem toList_toString (number : Int) :
    (toString number).toList =
      (if number < 0 then ['-'] else []) ++ Nat.toDigits 10 number.natAbs := by
  rw [Int.toString_eq_repr, Int.repr_eq_if]
  split
  · rename_i whole
    have same : number.toNat = number.natAbs := by omega
    rw [if_neg (by omega), Nat.toList_repr, same, List.nil_append]
  · rename_i negative
    have same : (-number).toNat = number.natAbs := by omega
    rw [if_pos (by omega), String.toList_append, Nat.toList_repr, same]
    rfl

theorem isDigit_of_ascii (ascii : character.isDigit = true) :
    IsDigit character (character.toNat - '0'.toNat) := by
  simp only [Char.isDigit, Bool.and_eq_true, decide_eq_true_eq, ge_iff_le,
    UInt32.le_iff_toNat_le] at ascii
  have above : 0x30 ≤ character.toNat := ascii.1
  have below : character.toNat ≤ 0x39 := ascii.2
  have first : '0'.toNat = 0x30 := rfl
  exact ⟨by omega, 0x30, by decide, by omega⟩

theorem spellsDigits_of_ascii (some : text ≠ [])
    (ascii : ∀ character ∈ text, character.isDigit = true) :
    SpellsDigits text (text.map fun character => character.toNat - '0'.toNat) := by
  induction text with
  | nil => contradiction
  | cons character rest ih =>
      obtain ⟨first, later⟩ := List.forall_mem_cons.mp ascii
      cases rest with
      | nil => exact .last (isDigit_of_ascii first)
      | cons next more => exact .joined (isDigit_of_ascii first) (ih (by simp) later)

/-- The digits of a number spell digits with its value. -/
theorem spellsDigits_toDigits (number : Nat) :
    ∃ digits, SpellsDigits (Nat.toDigits 10 number) digits ∧
      digits.length = (Nat.toDigits 10 number).length ∧ Nat.ofDigits 10 digits.reverse = number := by
  refine ⟨_, spellsDigits_of_ascii Nat.toDigits_ne_nil fun character =>
    Nat.isDigit_of_mem_toDigits (by decide) (by decide), List.length_map _, ?_⟩
  rw [← digitsValue_eq, digitsValue, List.foldl_map, ← Nat.ofDigitChars_eq_foldl]
  exact Nat.ofDigitChars_ten_toDigits

theorem spells_toString (short : (Nat.toDigits 10 number.natAbs).length ≤ 4300) :
    Spells (toString number) number := by
  obtain ⟨digits, spells, length, value⟩ := spellsDigits_toDigits number.natAbs
  rw [← length] at short
  have signs : Signs (if number < 0 then ['-'] else []) number.natAbs number := by
    split
    · have same : -(number.natAbs : Int) = number := by omega
      have minus : Signs ['-'] number.natAbs (-(number.natAbs : Int)) := .minus
      rwa [same] at minus
    · have same : (number.natAbs : Int) = number := by omega
      have none : Signs [] number.natAbs (number.natAbs : Int) := .none
      rwa [same] at none
  exact ⟨[], _, _, [], digits, by rw [toList_toString, List.nil_append, List.append_nil], by simp,
    by simp, spells, short, by rwa [value]⟩

/-- A number that was written out is read as it was. -/
theorem readInteger?_toString (short : (Nat.toDigits 10 number.natAbs).length ≤ digitLimit) :
    readInteger? (toString number) = some number :=
  (readInteger?_eq_some_iff _).mpr (spells_toString short)

end FolderIndex.Text
