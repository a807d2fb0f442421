namespace FolderIndex

/-! Binary fractions of 64 bits, by their bits alone: scores and intervals are compared,
rounded and printed in exact arithmetic. -/

/-- A number of the 64-bit binary format: a sign bit, eleven bits of exponent and fifty-two
of fraction. -/
structure Double where
  bits : UInt64
deriving DecidableEq, Repr

namespace Double

/-- The weight of the sign bit, two to the sixty-third. -/
def signWeight : Nat := 0x8000000000000000

/-- The number of fractions, two to the fifty-second. -/
def fractionCount : Nat := 0x10000000000000

def isNegative (number : Double) : Bool :=
  signWeight ≤ number.bits.toNat

/-- The bits without the sign. They order the absolute values of all numbers. -/
def magnitude (number : Double) : Nat :=
  number.bits.toNat % signWeight

def exponentField (number : Double) : Nat :=
  number.magnitude / fractionCount

def fraction (number : Double) : Nat :=
  number.magnitude % fractionCount

/-- The magnitude of infinity; every larger one is no number. -/
def infiniteMagnitude : Nat := 2047 * fractionCount

def isNan (number : Double) : Bool :=
  infiniteMagnitude < number.magnitude

def isInfinite (number : Double) : Bool :=
  number.magnitude = infiniteMagnitude

def nan : Double := ⟨0x7FF8000000000000⟩

def zero : Double := ⟨0⟩

/-- The place of a number in the order of all numbers; both zeros have the same. -/
def key (number : Double) : Int :=
  if number.isNegative then -(number.magnitude : Int) else number.magnitude

/-- Strictly below, which nothing is of what is no number. -/
def below (left right : Double) : Bool :=
  !left.isNan && !right.isNan && left.key < right.key

def same (left right : Double) : Bool :=
  !left.isNan && !right.isNan && left.key == right.key

def isPositive (number : Double) : Bool :=
  zero.below number

/-- Zero or below, which what is no number is not. -/
def isNonPositive (number : Double) : Bool :=
  number.below zero || number.same zero

def negate (number : Double) : Double :=
  ⟨number.bits ^^^ 0x8000000000000000⟩

def ofMagnitude (magnitude : Nat) : Double :=
  ⟨UInt64.ofNat (min magnitude infiniteMagnitude)⟩

/-- The whole number nearest to a quotient, of two the even one. -/
def roundQuotient (numerator denominator : Nat) : Nat :=
  let quotient := numerator / denominator
  let twice := 2 * (numerator % denominator)
  if twice < denominator then quotient
  else if denominator < twice then quotient + 1
  else quotient + quotient % 2

/-- A quotient times a power of two, as a quotient. -/
def scaled (numerator denominator : Nat) (power : Int) : Nat × Nat :=
  if 0 ≤ power then (numerator * Nat.pow 2 power.toNat, denominator)
  else (numerator, denominator * Nat.pow 2 power.natAbs)

/-- The number nearest to a quotient, of two the one with the even fraction. -/
def ofQuotient (numerator denominator : Nat) : Double :=
  if numerator = 0 ∨ denominator = 0 then zero
  else
    let guess : Int := (numerator.log2 : Int) - denominator.log2 - 53
    let floor (power : Int) : Nat :=
      let parts := scaled numerator denominator (-power)
      parts.1 / parts.2
    let tight := if floor guess < 2 * fractionCount then guess else guess + 1
    let power := max tight (-1074)
    let parts := scaled numerator denominator (-power)
    let significand := roundQuotient parts.1 parts.2
    if significand < fractionCount then ofMagnitude significand
    else ofMagnitude ((power + 1074).toNat * fractionCount + significand)

/-- The number nearest to a whole number, of two the one with the even fraction. -/
def ofInteger (integer : Int) : Double :=
  let size := ofQuotient integer.natAbs 1
  if integer < 0 then size.negate else size

/-- The exact absolute value of a finite number, as a quotient. -/
def toQuotient (number : Double) : Nat × Nat :=
  if number.exponentField = 0 then scaled number.fraction 1 (-1074)
  else scaled (fractionCount + number.fraction) 1 ((number.exponentField : Int) - 1075)

end Double

end FolderIndex
