import FolderIndex.Double
import FolderIndex.Text.WholeNumber

namespace FolderIndex

/-! Binary fractions in decimal notation. -/

namespace Double

/-- At least `width` decimal digits, zeros in front. -/
def paddedDigits (width value : Nat) : List Char :=
  let digits := Nat.toDigits 10 value
  List.replicate (width - digits.length) '0' ++ digits

/-- The number with `places` digits behind the point, half of the last place going to the
even neighbour. -/
def toFixed (places : Nat) (number : Double) : String :=
  if number.isNan then "nan"
  else
    let sign := if number.isNegative then ['-'] else []
    let body :=
      if number.isInfinite then ['i', 'n', 'f']
      else
        let parts := number.toQuotient
        let unit := Nat.pow 10 places
        let units := roundQuotient (parts.1 * unit) parts.2
        Nat.toDigits 10 (units / unit) ++ '.' :: paddedDigits places (units % unit)
    String.ofList (sign ++ body)

/-- The number nearest to `significand` times a power of ten. Beyond some four hundred places
it is infinite or zero whatever the digits. -/
def ofDecimal (significand : Nat) (exponent : Int) : Double :=
  if significand = 0 then zero
  else if 400 < exponent then ofMagnitude infiniteMagnitude
  else if exponent + (Nat.toDigits 10 significand).length < -400 then zero
  else if 0 ≤ exponent then ofQuotient (significand * Nat.pow 10 exponent.toNat) 1
  else ofQuotient significand (Nat.pow 10 exponent.natAbs)

/-- The mark of an exponent and a signed whole number behind it, or nothing. -/
def readExponent? : List Char → Option Int
  | [] => some 0
  | mark :: rest =>
      let (negative, digits) := Text.splitSign rest
      if mark.toLower = 'e' && !digits.isEmpty && digits.all Char.isDigit then
        let value : Int := Text.asciiValue digits
        some (if negative then -value else value)
      else none

/-- An unsigned number in decimal notation: digits, a point and digits, an exponent. There is a
digit in front of the exponent. -/
def readUnsigned? (text : List Char) : Option Double := do
  let whole := text.takeWhile Char.isDigit
  let (part, rest) :=
    match text.dropWhile Char.isDigit with
    | '.' :: tail => (tail.takeWhile Char.isDigit, tail.dropWhile Char.isDigit)
    | tail => ([], tail)
  if whole.isEmpty && part.isEmpty then none
  else
    let exponent ← readExponent? rest
    pure (ofDecimal (Text.asciiValue (whole ++ part)) (exponent - part.length))

/-- A number in decimal notation, or one of the words for what is not finite. -/
def readCharacters? (text : List Char) : Option Double := do
  let (negative, body) := Text.splitSign text
  let word := String.ofList (body.map Char.toLower)
  let number ←
    if word = "nan" then some nan
    else if word = "inf" ∨ word = "infinity" then some (ofMagnitude infiniteMagnitude)
    else readUnsigned? body
  pure (if negative then number.negate else number)

/-- The number that a text spells, with blanks around it or with underscores in it. -/
def read? (text : String) : Option Double :=
  (readCharacters? (Text.trimWhere Text.isNumeralSpace text.toList)).or
    ((Text.withoutUnderscores? text.toList).bind readCharacters?)

end Double

end FolderIndex
