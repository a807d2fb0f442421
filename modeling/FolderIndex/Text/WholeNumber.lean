import FolderIndex.Text.Numeral

namespace FolderIndex.Text

/-! Whole numbers in ASCII digits. Blanks around them, zeros in front, a fraction of nothing but
zeros, and single underscores change nothing. -/

/-- Whether two underscores stand side by side. -/
def hasUnderscorePair : List Char → Bool
  | [] => false
  | character :: rest =>
      (character = '_' && rest.head? = some '_') || hasUnderscorePair rest

/-- The text without its underscores, if it has some that all stand alone and none at an end. -/
def withoutUnderscores? (text : List Char) : Option (List Char) :=
  if text.head? = some '_' ∨ text.getLast? = some '_' ∨ hasUnderscorePair text then none
  else if text.contains '_' then some (text.filter (· ≠ '_'))
  else none

/-- What follows the zeros and underscores at the front of a number, the last of which is
`last`. It is kept where nothing follows, or a point. -/
def afterZeros (last : Char) : List Char → List Char
  | [] => [last]
  | character :: rest =>
      if character = '0' ∨ character = '_' then afterZeros character rest
      else if character = '.' then last :: character :: rest
      else character :: rest

/-- A number without the zeros in front of it; behind a sign they are not passed over. -/
def withoutLeadingZeros : List Char → List Char
  | '0' :: rest => afterZeros '0' rest
  | text => text

/-- A number without the fraction that nothing but zeros makes. -/
def withoutZeroFraction (text : List Char) : List Char :=
  let fraction := (text.dropWhile (· ≠ '.')).drop 1
  if !fraction.isEmpty && fraction.all (· = '0') then text.takeWhile (· ≠ '.') else text

/-- The value of ASCII digits. -/
def asciiValue (digits : List Char) : Nat :=
  digitsValue (digits.map fun digit => digit.toNat - '0'.toNat)

/-- Digits of which the first is a zero only if it is the only one. -/
def readPlainDigits? (digits : List Char) : Option Nat :=
  if digits.isEmpty || !digits.all Char.isDigit then none
  else if digits.head? = some '0' && 1 < digits.length then none
  else some (asciiValue digits)

/-- Such digits, or a minus sign and such digits, not too many with the sign. -/
def readPlainInteger? (text : List Char) : Option Int :=
  if digitLimit < text.length then none
  else
    match text with
    | '-' :: digits => (readPlainDigits? digits).map fun value => -(value : Int)
    | digits => (readPlainDigits? digits).map fun value => (value : Int)

/-- The number without a plus sign, which no other sign may follow. -/
def withoutPlus? : List Char → Option (List Char)
  | '+' :: '-' :: _ => none
  | '+' :: rest => some rest
  | text => some text

/-- The whole number that a text spells. -/
def readWholeNumber? (text : String) : Option Int := do
  let unsigned ← withoutPlus? (trimWhere isNumeralSpace text.toList)
  let number := withoutZeroFraction (withoutLeadingZeros unsigned)
  readPlainInteger? ((withoutUnderscores? number).getD number)

end FolderIndex.Text
