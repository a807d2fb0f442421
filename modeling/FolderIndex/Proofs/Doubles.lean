import FolderIndex.Double
import Mathlib.Algebra.Order.Field.Power
import Mathlib.Algebra.Order.Field.Rat
import Mathlib.Algebra.Order.Monoid.WithTop
import Mathlib.Order.WithBot
import Mathlib.Tactic.FieldSimp
import Mathlib.Tactic.Positivity
import Mathlib.Tactic.Ring

namespace FolderIndex.Double

/-! What numbers of 64 bits stand for. They are compared by their bits, and that is how the numbers
compare that they stand for. -/

/-- The number that finite bits stand for. -/
def exact (number : Double) : ℚ :=
  let parts := number.toQuotient
  if number.isNegative then -((parts.1 : ℚ) / parts.2) else (parts.1 : ℚ) / parts.2

/-- What bits stand for: a fraction or one of the infinities, or nothing if they are no number. -/
def value? (number : Double) : Option (WithBot (WithTop ℚ)) :=
  if number.isNan then none
  else if number.isInfinite then some (if number.isNegative then ⊥ else WithBot.some ⊤)
  else some (WithBot.some (WithTop.some number.exact))

/-- The place of a magnitude, counted in the least number above zero. -/
def steps (magnitude : Nat) : Nat :=
  if magnitude / fractionCount = 0 then magnitude % fractionCount
  else (fractionCount + magnitude % fractionCount) * 2 ^ (magnitude / fractionCount - 1)

theorem steps_lt_succ (magnitude : Nat) : steps magnitude < steps (magnitude + 1) := by
  have positive : 0 < fractionCount := by decide
  have bound := Nat.mod_lt magnitude positive
  have split := Nat.div_add_mod magnitude fractionCount
  unfold steps
  generalize magnitude / fractionCount = exponent at split ⊢
  generalize magnitude % fractionCount = fraction at split bound ⊢
  by_cases last : fraction + 1 = fractionCount
  · -- The next exponent begins, where the unit is twice as large or is the same for the first one.
    have next : magnitude + 1 = fractionCount * (exponent + 1) := by
      rw [Nat.mul_add, Nat.mul_one]
      omega
    rw [next, Nat.mul_div_cancel_left _ positive, Nat.mul_mod_right, if_neg (Nat.succ_ne_zero _),
      Nat.add_zero, Nat.add_sub_cancel]
    cases exponent with
    | zero =>
        rw [if_pos rfl, Nat.pow_zero, Nat.mul_one]
        exact bound
    | succ lower =>
        rw [if_neg (Nat.succ_ne_zero _), Nat.add_sub_cancel, Nat.pow_succ', ← Nat.mul_assoc]
        exact Nat.mul_lt_mul_of_pos_right (by omega) (Nat.two_pow_pos lower)
  · have next : magnitude + 1 = fractionCount * exponent + (fraction + 1) := by omega
    have within : fraction + 1 < fractionCount := by omega
    rw [next, Nat.mul_add_div positive, Nat.div_eq_of_lt within, Nat.mul_add_mod,
      Nat.mod_eq_of_lt within, Nat.add_zero]
    cases exponent with
    | zero => simp
    | succ lower =>
        simp only [Nat.succ_ne_zero, if_false]
        exact Nat.mul_lt_mul_of_pos_right (by omega) (Nat.two_pow_pos _)

theorem steps_strictMono : StrictMono steps :=
  strictMono_nat_of_lt_succ steps_lt_succ

theorem scaled_ratio (numerator denominator : Nat) (power : Int) :
    ((scaled numerator denominator power).1 : ℚ) / (scaled numerator denominator power).2 =
      (numerator : ℚ) / denominator * (2 : ℚ) ^ power := by
  unfold scaled
  split
  · rename_i nonnegative
    obtain ⟨exponent, rfl⟩ := Int.eq_ofNat_of_zero_le nonnegative
    simp only [Int.toNat_natCast, Nat.pow_eq, Nat.cast_mul, Nat.cast_pow, Nat.cast_ofNat,
      zpow_natCast]
    ring
  · rename_i negative
    obtain ⟨exponent, rfl⟩ : ∃ exponent : Nat, power = -(exponent : Int) :=
      ⟨power.natAbs, by omega⟩
    simp only [Int.natAbs_neg, Int.natAbs_natCast, Nat.pow_eq, Nat.cast_mul, Nat.cast_pow,
      Nat.cast_ofNat, zpow_neg, zpow_natCast]
    rw [div_mul_eq_div_div, div_eq_mul_inv _ ((2 : ℚ) ^ exponent)]

/-- The value of a magnitude, in units of the least number above zero. -/
theorem toQuotient_ratio (number : Double) :
    (number.toQuotient.1 : ℚ) / number.toQuotient.2 =
      (steps number.magnitude : ℚ) * (2 : ℚ) ^ (-1074 : Int) := by
  unfold toQuotient steps
  have exponent : number.exponentField = number.magnitude / fractionCount := rfl
  have fraction : number.fraction = number.magnitude % fractionCount := rfl
  rw [← exponent, ← fraction]
  by_cases least : number.exponentField = 0
  · rw [if_pos least, if_pos least, scaled_ratio, Nat.cast_one, div_one]
  · rw [if_neg least, if_neg least, scaled_ratio, Nat.cast_one, div_one, Nat.cast_mul,
      Nat.cast_pow, Nat.cast_ofNat, mul_assoc, ← zpow_natCast, ← zpow_add₀ two_ne_zero]
    congr 2
    omega

/-- Signed steps. -/
def place (key : Int) : Int :=
  if key < 0 then -(steps key.natAbs : Int) else steps key.natAbs

theorem steps_zero : steps 0 = 0 := by decide

theorem place_neg (magnitude : Nat) : place (-(magnitude : Int)) = -place magnitude := by
  unfold place
  by_cases none : magnitude = 0
  · simp [none, steps_zero]
  · rw [if_pos (by omega), if_neg (by omega), Int.natAbs_neg]

theorem place_lt {lesser greater : Int} (less : lesser < greater) :
    place lesser < place greater := by
  unfold place
  split <;> split
  · have smaller := steps_strictMono (show greater.natAbs < lesser.natAbs by omega)
    omega
  · have positive : 0 < steps lesser.natAbs := by
      have grown := steps_strictMono (show 0 < lesser.natAbs by omega)
      rwa [steps_zero] at grown
    omega
  · omega
  · have more := steps_strictMono (show lesser.natAbs < greater.natAbs by omega)
    omega

theorem place_zero : place 0 = 0 := by decide

/-- What the numbers with a key stand for. -/
def valueAt (key : Int) : WithBot (WithTop ℚ) :=
  if key = infiniteMagnitude then WithBot.some ⊤
  else if key = -infiniteMagnitude then ⊥
  else WithBot.some (WithTop.some ((place key : ℚ) * (2 : ℚ) ^ (-1074 : Int)))

theorem valueAt_lt {lesser greater : Int} (least : -infiniteMagnitude ≤ lesser)
    (less : lesser < greater) (most : greater ≤ infiniteMagnitude) :
    valueAt lesser < valueAt greater := by
  have unit : (0 : ℚ) < (2 : ℚ) ^ (-1074 : Int) := zpow_pos two_pos _
  unfold valueAt
  rw [if_neg (show lesser ≠ infiniteMagnitude by omega),
    if_neg (show greater ≠ -infiniteMagnitude by omega)]
  by_cases lowest : lesser = -infiniteMagnitude
  · rw [if_pos lowest]
    split <;> exact WithBot.bot_lt_coe _
  · rw [if_neg lowest]
    split
    · exact WithBot.coe_lt_coe.mpr (WithTop.coe_lt_top _)
    · refine WithBot.coe_lt_coe.mpr (WithTop.coe_lt_coe.mpr ?_)
      exact mul_lt_mul_of_pos_right (Int.cast_lt.mpr (place_lt less)) unit

variable {number left right : Double}

theorem key_bounds (known : number.isNan = false) :
    -infiniteMagnitude ≤ number.key ∧ number.key ≤ infiniteMagnitude := by
  simp only [isNan, decide_eq_false_iff_not, Nat.not_lt] at known
  unfold key
  split <;> omega

theorem exact_eq (number : Double) :
    number.exact = (place number.key : ℚ) * (2 : ℚ) ^ (-1074 : Int) := by
  unfold exact key
  dsimp only
  rw [toQuotient_ratio]
  have placed : place (number.magnitude : Int) = steps number.magnitude := if_neg (by omega)
  split
  · rw [place_neg, placed, Int.cast_neg, Int.cast_natCast, neg_mul]
  · rw [placed, Int.cast_natCast]

/-- What bits stand for is told by their key alone. -/
theorem value?_eq (known : number.isNan = false) : number.value? = some (valueAt number.key) := by
  have positive : 0 < infiniteMagnitude := by decide
  unfold value? valueAt isInfinite
  rw [known, if_neg Bool.false_ne_true, ← exact_eq]
  by_cases infinite : number.magnitude = infiniteMagnitude
  · rw [if_pos (decide_eq_true infinite)]
    unfold key
    cases number.isNegative with
    | false => simp [infinite]
    | true =>
        have apart : (-(infiniteMagnitude : Int)) ≠ infiniteMagnitude := by omega
        simp [infinite, apart]
  · rw [if_neg (by simp [infinite])]
    have finite : number.key ≠ infiniteMagnitude ∧ number.key ≠ -infiniteMagnitude := by
      unfold key
      split <;> omega
    rw [if_neg finite.1, if_neg finite.2]

theorem value?_of_isNan (unknown : number.isNan = true) : number.value? = none :=
  if_pos unknown

/-- Bits compare as the numbers do that they stand for. -/
theorem below_iff :
    left.below right = true ↔
      ∃ lesser greater, left.value? = some lesser ∧ right.value? = some greater ∧
        lesser < greater := by
  unfold below
  cases first : left.isNan with
  | true => simp [value?_of_isNan first]
  | false =>
      cases second : right.isNan with
      | true => simp [value?_of_isNan second]
      | false =>
          obtain ⟨leftLeast, leftMost⟩ := key_bounds first
          obtain ⟨rightLeast, rightMost⟩ := key_bounds second
          simp only [value?_eq first, value?_eq second, Bool.not_false, Bool.true_and,
            decide_eq_true_eq, Option.some.injEq]
          constructor
          · exact fun less => ⟨_, _, rfl, rfl, valueAt_lt leftLeast less rightMost⟩
          · rintro ⟨_, _, rfl, rfl, less⟩
            by_contra notLess
            rcases (not_lt.mp notLess).eq_or_lt with same | more
            · exact absurd (same ▸ less) (lt_irrefl _)
            · exact absurd less (valueAt_lt rightLeast more leftMost).asymm

theorem same_iff :
    left.same right = true ↔ ∃ value, left.value? = some value ∧ right.value? = some value := by
  unfold same
  cases first : left.isNan with
  | true => simp [value?_of_isNan first]
  | false =>
      cases second : right.isNan with
      | true => simp [value?_of_isNan second]
      | false =>
          obtain ⟨leftLeast, leftMost⟩ := key_bounds first
          obtain ⟨rightLeast, rightMost⟩ := key_bounds second
          simp only [value?_eq first, value?_eq second, Bool.not_false, Bool.true_and, beq_iff_eq,
            Option.some.injEq]
          constructor
          · exact fun same => ⟨_, rfl, congrArg valueAt same.symm⟩
          · rintro ⟨_, rfl, equal⟩
            rcases lt_trichotomy left.key right.key with less | same | more
            · exact absurd equal.symm (valueAt_lt leftLeast less rightMost).ne
            · exact same
            · exact absurd equal (valueAt_lt rightLeast more leftMost).ne

theorem value?_zero : zero.value? = some 0 := by
  have known : zero.isNan = false := by decide
  have key : zero.key = 0 := by decide
  have finite : (0 : Int) ≠ infiniteMagnitude ∧ (0 : Int) ≠ -infiniteMagnitude := by decide
  rw [value?_eq known, key, valueAt, if_neg finite.1, if_neg finite.2, place_zero, Int.cast_zero,
    zero_mul]
  rfl

theorem isPositive_iff :
    number.isPositive = true ↔ ∃ value, number.value? = some value ∧ 0 < value := by
  unfold isPositive
  rw [below_iff, value?_zero]
  constructor
  · rintro ⟨_, value, found, known, more⟩
    exact ⟨value, known, Option.some.inj found ▸ more⟩
  · rintro ⟨value, known, more⟩
    exact ⟨0, value, rfl, known, more⟩

theorem isNonPositive_iff :
    number.isNonPositive = true ↔ ∃ value, number.value? = some value ∧ value ≤ 0 := by
  unfold isNonPositive
  rw [Bool.or_eq_true, below_iff, same_iff, value?_zero]
  constructor
  · rintro (⟨value, _, known, found, less⟩ | ⟨value, known, found⟩)
    · exact ⟨value, known, Option.some.inj found ▸ less.le⟩
    · exact ⟨value, known, (Option.some.inj found).ge⟩
  · rintro ⟨value, known, most⟩
    rcases most.lt_or_eq with less | rfl
    · exact .inl ⟨value, 0, known, rfl, less⟩
    · exact .inr ⟨0, known, rfl⟩

/-! Whole numbers. -/

theorem toNat_bits_ofMagnitude (magnitude : Nat) :
    (ofMagnitude magnitude).bits.toNat = min magnitude infiniteMagnitude := by
  have fits : min magnitude infiniteMagnitude < 2 ^ 64 :=
    (Nat.min_le_right _ _).trans_lt (by decide)
  exact Nat.mod_eq_of_lt fits

theorem magnitude_ofMagnitude (magnitude : Nat) :
    (ofMagnitude magnitude).magnitude = min magnitude infiniteMagnitude := by
  have fits : min magnitude infiniteMagnitude < signWeight :=
    (Nat.min_le_right _ _).trans_lt (by decide)
  rw [Double.magnitude, toNat_bits_ofMagnitude, Nat.mod_eq_of_lt fits]

theorem isNan_ofMagnitude (magnitude : Nat) : (ofMagnitude magnitude).isNan = false := by
  rw [isNan, magnitude_ofMagnitude]
  exact decide_eq_false (Nat.not_lt.mpr (Nat.min_le_right _ _))

theorem key_ofMagnitude (magnitude : Nat) :
    (ofMagnitude magnitude).key = (min magnitude infiniteMagnitude : Nat) := by
  have fits : min magnitude infiniteMagnitude < signWeight :=
    (Nat.min_le_right _ _).trans_lt (by decide)
  have positive : (ofMagnitude magnitude).isNegative = false := by
    rw [isNegative, toNat_bits_ofMagnitude]
    exact decide_eq_false (Nat.not_le.mpr fits)
  rw [key, positive, magnitude_ofMagnitude, if_neg Bool.false_ne_true]

theorem toNat_bits_negate (number : Double) :
    number.negate.bits.toNat = number.bits.toNat ^^^ signWeight :=
  UInt64.toNat_xor _ _

theorem magnitude_negate (number : Double) : number.negate.magnitude = number.magnitude := by
  rw [Double.magnitude, toNat_bits_negate]
  exact (Nat.xor_mod_two_pow (n := 63)).trans (Nat.xor_zero _)

theorem isNan_negate (number : Double) : number.negate.isNan = number.isNan := by
  rw [isNan, isNan, magnitude_negate]

theorem isNegative_negate (number : Double) : number.negate.isNegative = !number.isNegative := by
  have bound : number.bits.toNat < 2 ^ 64 := number.bits.toNat_lt
  have weight : signWeight = 2 ^ 63 := by decide
  have quotient : (number.bits.toNat ^^^ 2 ^ 63) / 2 ^ 63 = number.bits.toNat / 2 ^ 63 ^^^ 1 :=
    Nat.xor_div_two_pow
  simp only [isNegative, toNat_bits_negate, weight]
  by_cases signed : 2 ^ 63 ≤ number.bits.toNat
  · have one : number.bits.toNat / 2 ^ 63 = 1 := by omega
    rw [one] at quotient
    have none : ¬ 2 ^ 63 ≤ number.bits.toNat ^^^ 2 ^ 63 := by
      intro some
      have positive := Nat.div_pos some (by decide)
      rw [quotient] at positive
      exact absurd positive (by decide)
    rw [decide_eq_true signed, decide_eq_false none]
    rfl
  · have zero : number.bits.toNat / 2 ^ 63 = 0 := by omega
    rw [zero] at quotient
    have some : 2 ^ 63 ≤ number.bits.toNat ^^^ 2 ^ 63 := by
      by_contra less
      rw [Nat.div_eq_of_lt (Nat.not_le.mp less)] at quotient
      exact absurd quotient (by decide)
    rw [decide_eq_false signed, decide_eq_true some]
    rfl

theorem key_negate (number : Double) : number.negate.key = -number.key := by
  rw [key, key, isNegative_negate, magnitude_negate]
  cases number.isNegative with
  | false => rfl
  | true => exact (Int.neg_neg _).symm

theorem roundQuotient_ge (numerator denominator : Nat) :
    numerator / denominator ≤ roundQuotient numerator denominator := by
  unfold roundQuotient
  dsimp only
  split
  · exact Nat.le_refl _
  · split <;> omega

theorem scaled_ge_one {whole : Nat} (some : whole ≠ 0) (power : Int)
    (low : power ≤ (whole.log2 : Int)) :
    1 ≤ (scaled whole 1 (-power)).1 / (scaled whole 1 (-power)).2 := by
  unfold scaled
  split
  · rw [Nat.div_one]
    exact Nat.mul_pos (Nat.pos_of_ne_zero some) (Nat.pow_pos (by decide))
  · have less : 2 ^ (-power).natAbs ≤ whole :=
      (Nat.pow_le_pow_right (by decide) (by omega)).trans (Nat.log2_self_le some)
    rw [Nat.one_mul]
    exact Nat.div_pos less (Nat.two_pow_pos _)

/-- The number nearest to a whole number above zero is a magnitude above zero. -/
theorem ofQuotient_one {whole : Nat} (some : whole ≠ 0) :
    ∃ magnitude, 0 < magnitude ∧ ofQuotient whole 1 = ofMagnitude magnitude := by
  obtain ⟨tight, low, rounded⟩ : ∃ tight : Int, tight ≤ (whole.log2 : Int) - 52 ∧
      ofQuotient whole 1 =
        let power := max tight (-1074)
        let parts := scaled whole 1 (-power)
        let significand := roundQuotient parts.1 parts.2
        if significand < fractionCount then ofMagnitude significand
        else ofMagnitude ((power + 1074).toNat * fractionCount + significand) := by
    refine ⟨_, ?_, if_neg (by simp [some])⟩
    have one : Nat.log2 1 = 0 := by decide
    rw [one]
    split <;> omega
  have positive := (scaled_ge_one some (max tight (-1074)) (by omega)).trans
    (roundQuotient_ge _ _)
  rw [rounded]
  dsimp only
  split
  · exact ⟨_, positive, rfl⟩
  · exact ⟨_, by omega, rfl⟩

/-- A whole number and the number nearest to it are on the same side of zero. -/
theorem key_ofInteger (integer : Int) :
    (ofInteger integer).isNan = false ∧ (0 < (ofInteger integer).key ↔ 0 < integer) ∧
      ((ofInteger integer).key < 0 ↔ integer < 0) := by
  by_cases none : integer = 0
  · subst none
    exact ⟨by decide, by decide, by decide⟩
  · obtain ⟨magnitude, positive, nearest⟩ := ofQuotient_one (Int.natAbs_ne_zero.mpr none)
    have above : 0 < (ofMagnitude magnitude).key := by
      have some : 0 < infiniteMagnitude := by decide
      rw [key_ofMagnitude]
      omega
    unfold ofInteger
    rw [nearest]
    dsimp only
    split
    · rw [isNan_negate, key_negate, isNan_ofMagnitude]
      exact ⟨rfl, by omega, by omega⟩
    · rw [isNan_ofMagnitude]
      exact ⟨rfl, by omega, by omega⟩

theorem isNonPositive_ofInteger (integer : Int) :
    (ofInteger integer).isNonPositive = true ↔ integer ≤ 0 := by
  obtain ⟨known, above, below⟩ := key_ofInteger integer
  have zeroKnown : zero.isNan = false := by decide
  have zeroKey : zero.key = 0 := by decide
  simp only [isNonPositive, Double.below, same, known, zeroKnown, zeroKey, Bool.not_false,
    Bool.true_and, Bool.or_eq_true, decide_eq_true_eq, beq_iff_eq]
  omega

end FolderIndex.Double
