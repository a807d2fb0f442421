import FolderIndex.Proofs.Calendar
import Mathlib.Data.String.Basic

namespace FolderIndex

/-! The texts of moments, which are compared as texts: all fields but the fraction have a fixed
number of digits, and where there is no fraction a character stands that is less than a point. -/

/-- Of texts that are equally long, what is put behind them does not change the order. -/
theorem append_lt_append {left right : List Char} (length : left.length = right.length)
    (less : left < right) (front back : List Char) : left ++ front < right ++ back := by
  induction left generalizing right with
  | nil =>
      cases right with
      | nil => exact absurd less (List.lt_irrefl _)
      | cons character rest => cases length
  | cons character rest ih =>
      cases right with
      | nil => cases length
      | cons other more =>
          rw [List.cons_append, List.cons_append, List.cons_lt_cons_iff]
          rcases List.cons_lt_cons_iff.mp less with first | ⟨same, later⟩
          · exact .inl first
          · exact .inr ⟨same, ih (Nat.succ.inj length) later⟩

namespace Double

variable {width value greater : Nat} {rest others : List Char}

theorem paddedDigits_succ (some : 0 < width) (value : Nat) :
    paddedDigits (width + 1) value =
      paddedDigits width (value / 10) ++ [Nat.digitChar (value % 10)] := by
  obtain ⟨fewer, rfl⟩ := Nat.exists_eq_add_one.mpr some
  unfold paddedDigits
  dsimp only
  rw [Nat.toDigits_eq_if (b := 10) (n := value) (by decide)]
  split
  · rename_i single
    have none : value / 10 = 0 := by omega
    have all : value % 10 = value := by omega
    rw [none, all, Nat.toDigits_of_lt_base (by decide : 0 < 10)]
    simp [Nat.digitChar, List.replicate_succ']
  · simp

theorem length_paddedDigits (some : 0 < width) (fits : value < 10 ^ width) :
    (paddedDigits width value).length = width := by
  induction width, some using Nat.le_induction generalizing value with
  | base => simp [paddedDigits, Nat.toDigits_of_lt_base (show value < 10 from fits)]
  | succ width some ih =>
      have shorter : value / 10 < 10 ^ width := by
        rw [Nat.pow_succ] at fits
        omega
      rw [paddedDigits_succ some, List.length_append, ih shorter]
      rfl

theorem digitChar_lt : ∀ greater < 10, ∀ value < greater,
    Nat.digitChar value < Nat.digitChar greater := by
  decide

theorem paddedDigits_lt (some : 0 < width) (fits : greater < 10 ^ width)
    (less : value < greater) : paddedDigits width value < paddedDigits width greater := by
  induction width, some using Nat.le_induction generalizing value greater with
  | base =>
      have single : greater < 10 := fits
      have digits := digitChar_lt greater single value less
      simpa [paddedDigits, Nat.toDigits_of_lt_base single,
        Nat.toDigits_of_lt_base (less.trans single), List.cons_lt_cons_iff] using digits
  | succ width some ih =>
      have shorter : greater / 10 < 10 ^ width := by
        rw [Nat.pow_succ] at fits
        omega
      rw [paddedDigits_succ some, paddedDigits_succ some]
      rcases (Nat.div_le_div_right (c := 10) less.le).lt_or_eq with tens | same
      · refine append_lt_append ?_ (ih shorter tens) _ _
        rw [length_paddedDigits some shorter, length_paddedDigits some (tens.trans shorter)]
      · rw [same]
        refine List.append_left_lt (List.cons_lt_cons_iff.mpr (.inl ?_))
        exact digitChar_lt _ (Nat.mod_lt _ (by decide)) _ (by omega)

/-- Numbers in front of other text: the greater number decides, or the text behind equal ones. -/
theorem paddedDigits_append_lt (some : 0 < width) (fits : greater < 10 ^ width)
    (less : value < greater ∨ value = greater ∧ rest < others) :
    paddedDigits width value ++ rest < paddedDigits width greater ++ others := by
  rcases less with less | ⟨rfl, later⟩
  · refine append_lt_append ?_ (paddedDigits_lt some fits less) _ _
    rw [length_paddedDigits some fits, length_paddedDigits some (less.trans fits)]
  · exact List.append_left_lt later

end Double

namespace Instant

open Double

/-- The days from the beginning of the first year to that of the day in which a moment lies. -/
def daysPassed (instant : Instant) : Int :=
  instant.micros.fdiv microsPerDay + epochDays

/-- The microseconds from the beginning of that day on. -/
def inDay (instant : Instant) : Nat :=
  (instant.micros.fmod microsPerDay).toNat

/-- Whether a moment lies in the years 1 to 9999. -/
def Dated (instant : Instant) : Prop :=
  0 ≤ instant.daysPassed ∧ instant.daysPassed < daysBeforeYear 10000

instance (instant : Instant) : Decidable instant.Dated :=
  inferInstanceAs (Decidable (_ ∧ _))

/-! The parts of a text. -/

def dayText (day : Day) : List Char :=
  paddedDigits 4 day.year ++ '-' :: (paddedDigits 2 day.month ++ '-' :: paddedDigits 2 day.day)

def timeText (seconds : Nat) : List Char :=
  paddedDigits 2 (seconds / 3600) ++ ':' ::
    (paddedDigits 2 (seconds / 60 % 60) ++ ':' :: paddedDigits 2 (seconds % 60))

/-- What stands behind the seconds: a fraction, if there is one, and the offset. -/
def fractionText (micros : Nat) : List Char :=
  (if micros = 0 then [] else '.' :: paddedDigits 6 micros) ++ ['+', '0', '0', ':', '0', '0']

theorem toText_eq (instant : Instant) :
    instant.toText = String.ofList
      (dayText (dayOf instant.daysPassed.toNat) ++
        ('T' :: timeText (instant.inDay / 1000000) ++ fractionText (instant.inDay % 1000000))) := by
  simp [toText, dayText, timeText, fractionText, daysPassed, inDay]
  rfl

variable {day later : Day} {seconds more micros : Nat}

theorem length_dayText (year : day.year < 10 ^ 4) (month : day.month < 10 ^ 2)
    (dayOfMonth : day.day < 10 ^ 2) : (dayText day).length = 10 := by
  simp only [dayText, List.length_append, List.length_cons,
    length_paddedDigits (by decide) year, length_paddedDigits (by decide) month,
    length_paddedDigits (by decide) dayOfMonth]

theorem dayText_lt (before : day.Before later) (year : later.year < 10 ^ 4)
    (month : later.month < 10 ^ 2) (dayOfMonth : later.day < 10 ^ 2) :
    dayText day < dayText later := by
  refine paddedDigits_append_lt (by decide) year (before.imp_right fun ⟨same, months⟩ => ⟨same, ?_⟩)
  refine List.cons_lt_cons_self.mpr (paddedDigits_append_lt (by decide) month
    (months.imp_right fun ⟨same, days⟩ => ⟨same, ?_⟩))
  exact List.cons_lt_cons_self.mpr (paddedDigits_lt (by decide) dayOfMonth days)

theorem length_timeText (within : seconds < 86400) : (timeText seconds).length = 8 := by
  have hours : seconds / 3600 < 10 ^ 2 := by omega
  have minutes : seconds / 60 % 60 < 10 ^ 2 := by omega
  have rest : seconds % 60 < 10 ^ 2 := by omega
  simp only [timeText, List.length_append, List.length_cons, length_paddedDigits (by decide) hours,
    length_paddedDigits (by decide) minutes, length_paddedDigits (by decide) rest]

theorem timeText_lt (less : seconds < more) (within : more < 86400) :
    timeText seconds < timeText more := by
  refine paddedDigits_append_lt (by decide) (by omega) ?_
  by_cases hours : seconds / 3600 < more / 3600
  · exact .inl hours
  · refine .inr ⟨by omega, List.cons_lt_cons_self.mpr ?_⟩
    refine paddedDigits_append_lt (by decide) (by omega) ?_
    by_cases minutes : seconds / 60 % 60 < more / 60 % 60
    · exact .inl minutes
    · exact .inr ⟨by omega, List.cons_lt_cons_self.mpr
        (paddedDigits_lt (by decide) (by omega) (by omega))⟩

/-- A sign of the offset comes before a point, so that no fraction is less than any. -/
theorem fractionText_lt {greater : Nat} (less : micros < greater) (within : greater < 1000000) :
    fractionText micros < fractionText greater := by
  have some : greater ≠ 0 := by omega
  unfold fractionText
  rw [if_neg some]
  split
  · exact List.cons_lt_cons_iff.mpr (.inl (by decide))
  · exact List.cons_lt_cons_self.mpr
      (paddedDigits_append_lt (by decide) within (.inl less))

theorem length_fractionText (within : micros < 1000000) :
    (fractionText micros).length = if micros = 0 then 6 else 13 := by
  unfold fractionText
  split
  · rfl
  · rw [List.length_append, List.length_cons, length_paddedDigits (by decide) within]
    rfl

/-! Whole texts. -/

theorem inDay_lt (instant : Instant) : instant.inDay < 86400000000 := by
  have nonneg := Int.fmod_nonneg_of_pos instant.micros (show 0 < microsPerDay by decide)
  have within := Int.fmod_lt_of_pos instant.micros (show 0 < microsPerDay by decide)
  unfold inDay
  unfold microsPerDay at *
  omega

/-- Time passes by days, and within a day by microseconds. -/
theorem micros_eq (instant : Instant) :
    instant.micros = microsPerDay * (instant.daysPassed - epochDays) + instant.inDay := by
  have nonneg := Int.fmod_nonneg_of_pos instant.micros (show 0 < microsPerDay by decide)
  have whole := Int.mul_fdiv_add_fmod instant.micros microsPerDay
  unfold inDay daysPassed
  rw [Int.toNat_of_nonneg nonneg, Int.add_sub_cancel]
  exact whole.symm

variable {first second : Instant}

theorem passed_of_micros_lt (inOrder : first.micros < second.micros) :
    first.daysPassed < second.daysPassed ∨
      first.daysPassed = second.daysPassed ∧ first.inDay < second.inDay := by
  have firstWhole := first.micros_eq
  have secondWhole := second.micros_eq
  have firstWithin := first.inDay_lt
  have secondWithin := second.inDay_lt
  unfold microsPerDay at *
  omega

theorem Dated.dayOf_bounds (dated : first.Dated) :
    (dayOf first.daysPassed.toNat).year < 10 ^ 4 ∧
      (dayOf first.daysPassed.toNat).month < 10 ^ 2 ∧
      (dayOf first.daysPassed.toNat).day < 10 ^ 2 := by
  obtain ⟨begun, unended⟩ := dated
  have bounds := Instant.dayOf_bounds first.daysPassed.toNat
  have ended : first.daysPassed.toNat < daysBeforeYear (10 ^ 4) := by
    change _ < daysBeforeYear 10000
    omega
  exact ⟨yearOfDay_lt ended, by omega, by omega⟩

/-- The texts of moments are in the order of time. -/
theorem toText_lt (inOrder : first.micros < second.micros) (firstDated : first.Dated)
    (secondDated : second.Dated) : first.toText < second.toText := by
  obtain ⟨year, month, day⟩ := secondDated.dayOf_bounds
  obtain ⟨firstYear, firstMonth, firstDay⟩ := firstDated.dayOf_bounds
  have within := second.inDay_lt
  rw [toText_eq, toText_eq, String.lt_iff_toList_lt, String.toList_ofList, String.toList_ofList]
  rcases passed_of_micros_lt inOrder with days | ⟨sameDay, inDay⟩
  · have before : first.daysPassed.toNat < second.daysPassed.toNat := by
      have begun := firstDated.1
      omega
    refine append_lt_append ?_ (dayText_lt (dayOf_before before) year month day) _ _
    rw [length_dayText firstYear firstMonth firstDay, length_dayText year month day]
  · rw [sameDay]
    refine List.append_left_lt (List.cons_lt_cons_self.mpr ?_)
    have seconds : first.inDay / 1000000 ≤ second.inDay / 1000000 :=
      Nat.div_le_div_right inDay.le
    rcases seconds.lt_or_eq with earlier | same
    · refine append_lt_append ?_ (timeText_lt earlier (by omega)) _ _
      rw [length_timeText (by omega), length_timeText (by omega)]
    · rw [same]
      exact List.append_left_lt (fractionText_lt (by omega) (Nat.mod_lt _ (by decide)))

theorem toText_lt_iff (firstDated : first.Dated) (secondDated : second.Dated) :
    first.toText < second.toText ↔ first.micros < second.micros := by
  refine ⟨fun less => ?_, fun inOrder => toText_lt inOrder firstDated secondDated⟩
  rcases lt_trichotomy first.micros second.micros with earlier | same | later
  · exact earlier
  · have equal : first = second := congrArg Instant.mk same
    exact absurd less (equal ▸ lt_irrefl _)
  · exact absurd less (lt_asymm (toText_lt later secondDated firstDated))

theorem toText_inj (firstDated : first.Dated) (secondDated : second.Dated) :
    first.toText = second.toText ↔ first = second := by
  refine ⟨fun same => ?_, congrArg toText⟩
  have notEarlier : ¬ first.micros < second.micros := fun earlier =>
    same.not_lt ((toText_lt_iff firstDated secondDated).mpr earlier)
  have notLater : ¬ second.micros < first.micros := fun later =>
    same.not_gt ((toText_lt_iff secondDated firstDated).mpr later)
  exact congrArg Instant.mk (le_antisymm (not_lt.mp notLater) (not_lt.mp notEarlier))

/-- A text is as long as its moment needs: a fraction is there or not, and no other part varies. -/
theorem length_toText (dated : first.Dated) :
    first.toText.length = if first.micros % 1000000 = 0 then 25 else 32 := by
  obtain ⟨year, month, day⟩ := dated.dayOf_bounds
  have within := first.inDay_lt
  have whole : first.micros % 1000000 = 0 ↔ first.inDay % 1000000 = 0 := by
    have passed := first.micros_eq
    unfold microsPerDay at passed
    omega
  rw [toText_eq, String.length_ofList, List.length_append, List.length_append, List.length_cons,
    length_dayText year month day, length_timeText (by omega),
    length_fractionText (Nat.mod_lt _ (by decide))]
  simp only [whole]
  split <;> rfl

end Instant

end FolderIndex
