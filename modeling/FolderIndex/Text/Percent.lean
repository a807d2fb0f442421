import FolderIndex.Text.Quoted
import FolderIndex.Text.Utf8

namespace FolderIndex.Text

/-! Percent escapes of addresses. -/

def hexValue? (character : Char) : Option Nat :=
  let code := character.toNat
  if 48 ≤ code ∧ code ≤ 57 then some (code - 48)
  else if 65 ≤ code ∧ code ≤ 70 then some (code - 55)
  else if 97 ≤ code ∧ code ≤ 102 then some (code - 87)
  else none

/-- The octets that ASCII text stands for; an escape that is not two hexadecimal digits
stands for itself. -/
def percentOctets : List Char → List UInt8
  | '%' :: high :: low :: rest =>
      match hexValue? high, hexValue? low with
      | some first, some second => UInt8.ofNat (first * 16 + second) :: percentOctets rest
      | _, _ => 0x25 :: percentOctets (high :: low :: rest)
  | character :: rest => UInt8.ofNat character.toNat :: percentOctets rest
  | [] => []

def isAscii (character : Char) : Bool :=
  character.toNat < 0x80

/-- The text of an unfinished stretch of ASCII, given last character first. -/
def flushPercent (stretch : List Char) : List Char :=
  Expectation.character.decode (percentOctets stretch.reverse)

/-- Characters outside ASCII stand for themselves; each stretch of ASCII between them is
read as octets of its own. -/
def percentFrom (stretch : List Char) : List Char → List Char
  | [] => flushPercent stretch
  | character :: rest =>
      if isAscii character then percentFrom (character :: stretch) rest
      else flushPercent stretch ++ character :: percentFrom [] rest

def percentDecode (text : List Char) : List Char :=
  percentFrom [] text

def percentEscape (octet : UInt8) : List Char :=
  let upper (value : Nat) : Char := if value < 10 then Char.ofNat (48 + value) else Char.ofNat (55 + value)
  ['%', upper (octet.toNat / 16), upper (octet.toNat % 16)]

/-- Every octet of a character that is neither alphanumeric nor in `safe` is escaped. -/
def percentEncode (safe : List Char) (text : List Char) : List Char :=
  text.flatMap fun character =>
    if character.isAlphanum || safe.contains character then [character]
    else (encodeUtf8 (String.ofList [character])).flatMap percentEscape

end FolderIndex.Text
