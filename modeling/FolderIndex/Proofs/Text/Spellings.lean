import FolderIndex.Proofs.Text.Trimming
import FolderIndex.Text.Numeral
import Mathlib.Data.List.Pairwise
import Mathlib.Data.Nat.Digits.Defs

namespace FolderIndex.Text

/-! The spellings of a whole number: blanks around it, a sign in front if there is one, and decimal
digits of any script with single underscores between them. A text is read as a number just if it is
a spelling of it. -/

/-- The digit that a character is, in one of the scripts that have digits. -/
def IsDigit (character : Char) (digit : Nat) : Prop :=
  digit < 10 ∧ ∃ start ∈ digitZeros, character.toNat = start + digit

/-- Texts that spell digits. -/
inductive SpellsDigits : List Char → List Nat → Prop where
  | last {character : Char} {digit : Nat} (first : IsDigit character digit) :
      SpellsDigits [character] [digit]
  | joined {character : Char} {digit : Nat} {text : List Char} {digits : List Nat}
      (first : IsDigit character digit) (rest : SpellsDigits text digits) :
      SpellsDigits (character :: text) (digit :: digits)
  | parted {character : Char} {digit : Nat} {text : List Char} {digits : List Nat}
      (first : IsDigit character digit) (rest : SpellsDigits text digits) :
      SpellsDigits (character :: '_' :: text) (digit :: digits)

/-- The signs that may stand in front of digits, and what they make of the value. -/
inductive Signs : List Char → Nat → Int → Prop where
  | none {value : Nat} : Signs [] value value
  | plus {value : Nat} : Signs ['+'] value value
  | minus {value : Nat} : Signs ['-'] value (-value)

/-- The blanks that may surround a number, which the four information separators are not. -/
def IsMargin (character : Char) : Prop :=
  isBlank character = true ∧ ¬ (0x1C ≤ character.toNat ∧ character.toNat ≤ 0x1F)

/-- A text that spells a number, in at most 4300 digits. -/
def Spells (text : String) (number : Int) : Prop :=
  ∃ before sign body after digits,
    text.toList = before ++ (sign ++ body) ++ after ∧
      (∀ character ∈ before, IsMargin character) ∧ (∀ character ∈ after, IsMargin character) ∧
      SpellsDigits body digits ∧ digits.length ≤ 4300 ∧
      Signs sign (Nat.ofDigits 10 digits.reverse) number

variable {character : Char} {digit other : Nat} {digits : List Nat} {text sign body : List Char}
  {number : Int}

/-- No character is a digit of two scripts. -/
theorem digitZeros_apart :
    digitZeros.Pairwise fun start next => start + 10 ≤ next ∨ next + 10 ≤ start := by
  decide +kernel

theorem IsDigit.unique (one : IsDigit character digit) (two : IsDigit character other) :
    digit = other := by
  obtain ⟨small, start, member, same⟩ := one
  obtain ⟨smallToo, next, memberToo, sameToo⟩ := two
  by_cases alike : start = next
  · omega
  · have mutually : Std.Symm fun start next : Nat => start + 10 ≤ next ∨ next + 10 ≤ start :=
      ⟨fun _ _ => Or.symm⟩
    have apart := digitZeros_apart.forall member memberToo alike
    omega

theorem digitValue?_eq_some_iff : digitValue? character = some digit ↔ IsDigit character digit := by
  have sound : ∀ value, digitValue? character = some value → IsDigit character value := by
    intro value found
    obtain ⟨start, member, given⟩ := List.exists_of_findSome?_eq_some found
    split at given
    · rename_i within
      obtain rfl := Option.some.inj given
      exact ⟨by omega, start, member, by omega⟩
    · cases given
  refine ⟨sound digit, fun isDigit => ?_⟩
  obtain ⟨small, start, member, same⟩ := isDigit
  cases found : digitValue? character with
  | some value => rw [(sound value found).unique ⟨small, start, member, same⟩]
  | none =>
      have missed := List.findSome?_eq_none_iff.mp found start member
      simp [same, small] at missed

/-- The digits of all scripts are neither blanks nor signs nor underscores. -/
theorem digit_apart : ∀ start ∈ digitZeros, ∀ digit < 10,
    isNumeralSpace (Char.ofNat (start + digit)) = false ∧
      Char.ofNat (start + digit) ∉ ['+', '-', '_'] := by
  decide +kernel

theorem IsDigit.apart (isDigit : IsDigit character digit) :
    isNumeralSpace character = false ∧ character ∉ ['+', '-', '_'] := by
  obtain ⟨small, start, member, same⟩ := isDigit
  have found := digit_apart start member digit small
  rwa [← same, Char.ofNat_toNat] at found

theorem SpellsDigits.head? (spells : SpellsDigits text digits) :
    ∃ character digit, text.head? = some character ∧ IsDigit character digit := by
  cases spells with
  | last first => exact ⟨_, _, rfl, first⟩
  | joined first _ => exact ⟨_, _, rfl, first⟩
  | parted first _ => exact ⟨_, _, rfl, first⟩

theorem SpellsDigits.getLast? (spells : SpellsDigits text digits) :
    ∃ character digit, text.getLast? = some character ∧ IsDigit character digit := by
  induction spells with
  | last first => exact ⟨_, _, rfl, first⟩
  | joined _ _ ih =>
      obtain ⟨character, digit, ends, isDigit⟩ := ih
      exact ⟨character, digit, by simp [List.getLast?_cons, ends], isDigit⟩
  | parted _ _ ih =>
      obtain ⟨character, digit, ends, isDigit⟩ := ih
      exact ⟨character, digit, by simp [List.getLast?_cons, ends], isDigit⟩

theorem spellsDigits_of_readDigits? (read : readDigits? text = some digits) :
    SpellsDigits text digits := by
  induction text using readDigits?.induct generalizing digits with
  | case1 => cases read
  | case2 character =>
      obtain ⟨digit, value, rfl⟩ := Option.map_eq_some_iff.mp read
      exact .last (digitValue?_eq_some_iff.mp value)
  | case3 character next rest ih ihNext =>
      by_cases parted : next = '_'
      · obtain ⟨digit, value, values, later, rfl⟩ : ∃ digit, digitValue? character = some digit ∧
            ∃ values, readDigits? rest = some values ∧ digit :: values = digits := by
          simpa [readDigits?, parted, Option.bind_eq_some_iff] using read
        subst parted
        exact .parted (digitValue?_eq_some_iff.mp value) (ih later)
      · obtain ⟨digit, value, values, later, rfl⟩ : ∃ digit, digitValue? character = some digit ∧
            ∃ values, readDigits? (next :: rest) = some values ∧ digit :: values = digits := by
          simpa [readDigits?, parted, Option.bind_eq_some_iff] using read
        exact .joined (digitValue?_eq_some_iff.mp value) (ihNext later)

theorem readDigits?_of_spellsDigits (spells : SpellsDigits text digits) :
    readDigits? text = some digits := by
  induction spells with
  | last first => simp [readDigits?, digitValue?_eq_some_iff.mpr first]
  | parted first rest ih => simp [readDigits?, digitValue?_eq_some_iff.mpr first, ih]
  | @joined character digit text digits first rest ih =>
      obtain ⟨next, _, leads, isDigit⟩ := rest.head?
      obtain ⟨more, rfl⟩ := List.head?_eq_some_iff.mp leads
      have plain : next ≠ '_' := by
        rintro rfl
        exact isDigit.apart.2 (by decide)
      simp [readDigits?, digitValue?_eq_some_iff.mpr first, plain, ih]

theorem readDigits?_eq_some_iff : readDigits? text = some digits ↔ SpellsDigits text digits :=
  ⟨spellsDigits_of_readDigits?, readDigits?_of_spellsDigits⟩

/-- The value of digits, the first of which counts most. -/
theorem digitsValue_eq (digits : List Nat) :
    digitsValue digits = Nat.ofDigits 10 digits.reverse := by
  rw [Nat.ofDigits_eq_foldr, List.foldr_reverse, digitsValue]
  simp only [Nat.cast_id, Nat.add_comm]

theorem isNumeralSpace_iff : isNumeralSpace character = true ↔ IsMargin character := by
  simp [isNumeralSpace, IsMargin, isBlank, blankRanges, inRanges]
  omega

/-- The sign that is taken off a text, and what it says of the number behind it. -/
theorem signs_splitSign (text : List Char) (value : Nat) :
    ∃ sign, text = sign ++ (splitSign text).2 ∧
      Signs sign value (if (splitSign text).1 then -value else value) := by
  unfold splitSign
  split
  · exact ⟨['-'], rfl, .minus⟩
  · exact ⟨['+'], rfl, .plus⟩
  · exact ⟨[], rfl, .none⟩

/-- Digits behind a sign are left when it is taken off. -/
theorem splitSign_of_signs {value : Nat} (signs : Signs sign value number)
    (spells : SpellsDigits body digits) :
    (splitSign (sign ++ body)).2 = body ∧
      (if (splitSign (sign ++ body)).1 then -(value : Int) else value) = number := by
  cases signs with
  | plus => exact ⟨rfl, rfl⟩
  | minus => exact ⟨rfl, rfl⟩
  | none =>
      obtain ⟨character, digit, leads, isDigit⟩ := spells.head?
      obtain ⟨rest, rfl⟩ := List.head?_eq_some_iff.mp leads
      have unsigned : splitSign (character :: rest) = (false, character :: rest) := by
        unfold splitSign
        split
        · rename_i same
          cases same
          exact absurd isDigit.apart.2 (by decide)
        · rename_i same
          cases same
          exact absurd isDigit.apart.2 (by decide)
        · rfl
      rw [List.nil_append, unsigned]
      exact ⟨rfl, rfl⟩

/-- A number without its blanks neither begins nor ends with one. -/
theorem trims_of_spells {value : Nat} {before after : List Char}
    (blank : ∀ character ∈ before, IsMargin character)
    (blankAfter : ∀ character ∈ after, IsMargin character) (signs : Signs sign value number)
    (spells : SpellsDigits body digits) :
    Trims isNumeralSpace (before ++ (sign ++ body) ++ after) (sign ++ body) := by
  refine ⟨⟨before, after, rfl, fun character member => isNumeralSpace_iff.mpr (blank character member),
    fun character member => isNumeralSpace_iff.mpr (blankAfter character member)⟩, ?_, ?_⟩
  · obtain ⟨first, _, leads, isDigit⟩ := spells.head?
    cases signs with
    | none => simp [leads, isDigit.apart.1]
    | plus => simp; decide
    | minus => simp; decide
  · obtain ⟨last, _, ends, isDigit⟩ := spells.getLast?
    simp [List.getLast?_append, ends, isDigit.apart.1]

/-- A text is read as a number just if it spells it. -/
theorem readInteger?_eq_some_iff (text : String) :
    readInteger? text = some number ↔ Spells text number := by
  constructor
  · intro read
    obtain ⟨trimmed, held⟩ : ∃ trimmed, trimmed = trimWhere isNumeralSpace text.toList := ⟨_, rfl⟩
    obtain ⟨before, after, same, blank, blankAfter⟩ :=
      (trims_trimWhere isNumeralSpace text.toList).parts
    simp only [readInteger?, ← held, Option.bind_eq_bind, Option.bind_eq_some_iff] at read same
    obtain ⟨digits, digitsRead, rest⟩ := read
    by_cases short : digits.length ≤ digitLimit
    · obtain ⟨sign, signed, signs⟩ := signs_splitSign trimmed (digitsValue digits)
      rw [if_pos short, Option.pure_def, Option.some.injEq] at rest
      rw [signed] at same
      rw [rest, digitsValue_eq] at signs
      exact ⟨before, sign, _, after, digits, same,
        fun character member => isNumeralSpace_iff.mp (blank character member),
        fun character member => isNumeralSpace_iff.mp (blankAfter character member),
        readDigits?_eq_some_iff.mp digitsRead, short, signs⟩
    · rw [if_neg short] at rest
      cases rest
  · rintro ⟨before, sign, body, after, digits, same, blank, blankAfter, spells, short, signs⟩
    have trimmed := (trims_of_spells blank blankAfter signs spells).eq
    obtain ⟨left, valued⟩ := splitSign_of_signs signs spells
    have within : digits.length ≤ digitLimit := short
    simp only [readInteger?, same, trimmed, left, readDigits?_eq_some_iff.mpr spells, digitsValue_eq,
      Option.bind_eq_bind, Option.bind_some, within, if_true, valued, Option.pure_def]

end FolderIndex.Text
