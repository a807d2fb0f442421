import FolderIndex.Text.Blank

namespace FolderIndex.Text

/-! Integers as people write them: a sign, decimal digits of any script, and single
underscores between digits. -/

/-- The zeros of the scripts that have decimal digits; the nine others follow each zero. -/
def digitZeros : List Nat := [
    0x30, 0x660, 0x6F0, 0x7C0, 0x966, 0x9E6, 0xA66, 0xAE6, 0xB66, 0xBE6, 0xC66,
    0xCE6, 0xD66, 0xDE6, 0xE50, 0xED0, 0xF20, 0x1040, 0x1090, 0x17E0, 0x1810, 0x1946,
    0x19D0, 0x1A80, 0x1A90, 0x1B50, 0x1BB0, 0x1C40, 0x1C50, 0xA620, 0xA8D0, 0xA900, 0xA9D0,
    0xA9F0, 0xAA50, 0xABF0, 0xFF10, 0x104A0, 0x10D30, 0x11066, 0x110F0, 0x11136, 0x111D0, 0x112F0,
    0x11450, 0x114D0, 0x11650, 0x116C0, 0x11730, 0x118E0, 0x11950, 0x11C50, 0x11D50, 0x11DA0, 0x16A60,
    0x16AC0, 0x16B50, 0x1D7CE, 0x1D7D8, 0x1D7E2, 0x1D7EC, 0x1D7F6, 0x1E140, 0x1E2F0, 0x1E950, 0x1FBF0]

def digitValue? (character : Char) : Option Nat :=
  digitZeros.findSome? fun first =>
    if first ≤ character.toNat ∧ character.toNat < first + 10 then some (character.toNat - first)
    else none

/-- The blanks that may surround a number: the ASCII spaces, and every blank outside ASCII. -/
def isNumeralSpace (character : Char) : Bool :=
  inRanges [(0x9, 0xD), (0x20, 0x20)] character || (0x80 ≤ character.toNat && isBlank character)

/-- The most digits that a number may be written with, zeros in front included. -/
def digitLimit : Nat := 4300

/-- Digits with at most one underscore between two of them. -/
def readDigits? : List Char → Option (List Nat)
  | [] => none
  | [character] => (digitValue? character).map ([·])
  | character :: next :: rest => do
      let digit ← digitValue? character
      let digits ← if next = '_' then readDigits? rest else readDigits? (next :: rest)
      pure (digit :: digits)

def digitsValue (digits : List Nat) : Nat :=
  digits.foldl (fun value digit => 10 * value + digit) 0

/-- The sign in front of a number, and what follows it. -/
def splitSign : List Char → Bool × List Char
  | '-' :: rest => (true, rest)
  | '+' :: rest => (false, rest)
  | text => (false, text)

def readInteger? (text : String) : Option Int := do
  let (negative, rest) := splitSign (trimWhere isNumeralSpace text.toList)
  let digits ← readDigits? rest
  if digits.length ≤ digitLimit then
    let value : Int := digitsValue digits
    pure (if negative then -value else value)
  else none

/-- The positive integer that `raw` spells, or else the fallback. -/
def limitOr (fallback : Int) (raw : Option String) : Int :=
  match raw.bind readInteger? with
  | some value => if 0 < value then value else fallback
  | none => fallback

end FolderIndex.Text
