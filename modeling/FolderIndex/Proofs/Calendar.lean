import FolderIndex.Instant
import Mathlib.Algebra.Ring.Nat
import Mathlib.Order.Monotone.Basic

namespace FolderIndex.Instant

/-! The calendar in the order of its days: a later day has a later year, or in one year a later
month, or in one month a later day. -/

/-- Earlier in the calendar: years count most, and days least. -/
def Day.Before (left right : Day) : Prop :=
  left.year < right.year ∨ left.year = right.year ∧
    (left.month < right.month ∨ left.month = right.month ∧ left.day < right.day)

def yearLength (year : Nat) : Nat := if isLeap year then 366 else 365

theorem daysBeforeYear_succ (passed : Nat) :
    daysBeforeYear (passed + 2) = daysBeforeYear (passed + 1) + yearLength (passed + 1) := by
  have before : daysBeforeYear (passed + 1) =
      365 * passed + passed / 4 - passed / 100 + passed / 400 := rfl
  have after : daysBeforeYear (passed + 2) =
      365 * (passed + 1) + (passed + 1) / 4 - (passed + 1) / 100 + (passed + 1) / 400 := rfl
  have fewer : passed / 100 ≤ passed / 4 := Nat.div_le_div_left (by decide) (by decide)
  have leap : isLeap (passed + 1) = true ↔
      4 ∣ passed + 1 ∧ ¬ 100 ∣ passed + 1 ∨ 400 ∣ passed + 1 := by
    simp [isLeap, Nat.dvd_iff_mod_eq_zero]
  have fourth (hundredth : 100 ∣ passed + 1) : 4 ∣ passed + 1 := Nat.dvd_trans (by decide) hundredth
  have fourHundredth (longest : 400 ∣ passed + 1) : 100 ∣ passed + 1 :=
    Nat.dvd_trans (by decide) longest
  rw [before, after, yearLength, Nat.succ_div, Nat.succ_div, Nat.succ_div]
  clear before after
  generalize passed / 4 = fourths at *
  generalize passed / 100 = hundredths at *
  generalize passed / 400 = longests at *
  simp only [leap]
  split <;> split <;> split <;> split <;> omega

/-- The year of a day begins by then and has not ended. -/
theorem yearOfDay_spec (days : Nat) :
    daysBeforeYear (yearOfDay days) ≤ days ∧ days < daysBeforeYear (yearOfDay days + 1) := by
  let era := days / 146097
  let inEra := days % 146097
  let century := min (inEra / 36524) 3
  let inCentury := inEra - 36524 * century
  let cycle := inCentury / 1461
  let inCycle := inCentury % 1461
  let year := min (inCycle / 365) 3
  have whole : yearOfDay days = 400 * era + 100 * century + 4 * cycle + year + 1 := rfl
  have days_eq : days = 146097 * era + inEra := (Nat.div_add_mod days 146097).symm
  have inEra_lt : inEra < 146097 := Nat.mod_lt _ (by decide)
  have century_le : century ≤ 3 := Nat.min_le_right _ _
  have inEra_eq : inEra = 36524 * century + inCentury := by omega
  have inCentury_lt : inCentury < 36524 ∨ century = 3 ∧ inCentury < 36525 := by omega
  have inCentury_eq : inCentury = 1461 * cycle + inCycle := (Nat.div_add_mod inCentury 1461).symm
  have inCycle_lt : inCycle < 1461 := Nat.mod_lt _ (by decide)
  have cycle_le : cycle ≤ 24 := by omega
  have year_le : year ≤ 3 := Nat.min_le_right _ _
  have inCycle_eq : 365 * year ≤ inCycle ∧ (inCycle < 365 * (year + 1) ∨ year = 3) := by omega
  rw [whole]
  clear_value era inEra century inCentury cycle inCycle year
  have passed : daysBeforeYear (400 * era + 100 * century + 4 * cycle + year + 1) =
      146097 * era + 36524 * century + 1461 * cycle + 365 * year := by
    have fourths : (400 * era + 100 * century + 4 * cycle + year) / 4 =
        100 * era + 25 * century + cycle := by omega
    have hundredths : (400 * era + 100 * century + 4 * cycle + year) / 100 =
        4 * era + century := by omega
    have longests : (400 * era + 100 * century + 4 * cycle + year) / 400 = era := by omega
    simp only [daysBeforeYear, Nat.add_sub_cancel, fourths, hundredths, longests]
    omega
  rw [daysBeforeYear_succ, passed, yearLength, isLeap]
  simp only [Bool.or_eq_true, Bool.and_eq_true, decide_eq_true_eq]
  split <;> omega

theorem daysBeforeYear_mono : Monotone daysBeforeYear := by
  refine monotone_nat_of_le_succ fun year => ?_
  cases year with
  | zero => exact Nat.le_refl _
  | succ passed => exact Nat.le.intro (daysBeforeYear_succ passed).symm

theorem yearOfDay_mono : Monotone yearOfDay := by
  intro days later inOrder
  by_contra earlier
  have ended := (yearOfDay_spec later).2
  have begun := (yearOfDay_spec days).1
  have between : daysBeforeYear (yearOfDay later + 1) ≤ daysBeforeYear (yearOfDay days) :=
    daysBeforeYear_mono (by omega)
  omega

theorem yearOfDay_pos (days : Nat) : 0 < yearOfDay days := Nat.succ_pos _

/-- A day lies in its year. -/
theorem dayOfYear_lt (days : Nat) :
    days - daysBeforeYear (yearOfDay days) < yearLength (yearOfDay days) := by
  obtain ⟨begun, unended⟩ := yearOfDay_spec days
  obtain ⟨passed, same⟩ := Nat.exists_eq_succ_of_ne_zero (yearOfDay_pos days).ne'
  rw [same, Nat.succ_eq_add_one] at begun unended ⊢
  rw [daysBeforeYear_succ] at unended
  omega

/-! Months. -/

theorem sum_monthLengths (year : Nat) : (monthLengths year).sum = yearLength year := by
  unfold monthLengths yearLength
  split <;> rfl

theorem le_thirtyOne_of_mem_monthLengths {year length : Nat} (member : length ∈ monthLengths year) :
    length ≤ 31 := by
  simp only [monthLengths, List.mem_cons, List.not_mem_nil, or_false] at member
  split at member <;> omega

variable {lengths : List Nat} {dayOfYear later : Nat}

theorem le_splitMonths (month dayOfYear : Nat) (lengths : List Nat) :
    month ≤ (splitMonths month dayOfYear lengths).1 := by
  induction lengths generalizing month dayOfYear with
  | nil => exact Nat.le_refl _
  | cons length rest ih =>
      unfold splitMonths
      split
      · exact Nat.le_refl _
      · exact Nat.le_of_succ_le (ih (month + 1) (dayOfYear - length))

/-- A later day of a year is in a later month, or later in the same one. -/
theorem splitMonths_lt (month : Nat) (lengths : List Nat) (inOrder : dayOfYear < later) :
    let first := splitMonths month dayOfYear lengths
    let second := splitMonths month later lengths
    first.1 < second.1 ∨ first.1 = second.1 ∧ first.2 < second.2 := by
  induction lengths generalizing month dayOfYear later with
  | nil => exact .inr ⟨rfl, Nat.succ_lt_succ inOrder⟩
  | cons length rest ih =>
      by_cases within : later < length
      · have also : dayOfYear < length := inOrder.trans within
        simp only [splitMonths, if_pos within, if_pos also]
        exact .inr ⟨trivial, Nat.succ_lt_succ inOrder⟩
      · by_cases also : dayOfYear < length
        · simp only [splitMonths, if_neg within, if_pos also]
          exact .inl (le_splitMonths (month + 1) (later - length) rest)
        · simp only [splitMonths, if_neg within, if_neg also]
          exact ih (month + 1) (by omega)

theorem splitMonths_bounds (month : Nat) (short : ∀ length ∈ lengths, length ≤ 31)
    (within : dayOfYear < lengths.sum) :
    (splitMonths month dayOfYear lengths).1 < month + lengths.length ∧
      (splitMonths month dayOfYear lengths).2 ≤ 31 := by
  induction lengths generalizing month dayOfYear with
  | nil => simp at within
  | cons length rest ih =>
      have first := short length List.mem_cons_self
      rw [List.sum_cons] at within
      unfold splitMonths
      split
      · simp only [List.length_cons]
        omega
      · have shorter : dayOfYear - length < rest.sum := by omega
        have others := ih (month + 1)
          (fun other member => short other (List.mem_cons_of_mem _ member)) shorter
        simp only [List.length_cons]
        omega

/-! Days. -/

theorem dayOf_before {days later : Nat} (inOrder : days < later) :
    (dayOf days).Before (dayOf later) := by
  have years : yearOfDay days ≤ yearOfDay later := yearOfDay_mono inOrder.le
  rcases years.lt_or_eq with earlier | same
  · exact .inl earlier
  · have begun := (yearOfDay_spec days).1
    have dayOfYear : days - daysBeforeYear (yearOfDay days) <
        later - daysBeforeYear (yearOfDay days) := by omega
    refine .inr ⟨same, ?_⟩
    unfold dayOf
    rw [← same]
    exact splitMonths_lt 1 _ dayOfYear

theorem dayOf_bounds (days : Nat) : (dayOf days).month ≤ 12 ∧ (dayOf days).day ≤ 31 := by
  have within := dayOfYear_lt days
  rw [← sum_monthLengths] at within
  have bounds := splitMonths_bounds 1 (fun _ => le_thirtyOne_of_mem_monthLengths) within
  exact ⟨Nat.le_of_lt_succ bounds.1, bounds.2⟩

theorem yearOfDay_lt {days year : Nat} (within : days < daysBeforeYear year) :
    yearOfDay days < year := by
  by_contra later
  have begun := (yearOfDay_spec days).1
  have onward := daysBeforeYear_mono (Nat.le_of_not_lt later)
  omega

end FolderIndex.Instant
