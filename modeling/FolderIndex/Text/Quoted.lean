import FolderIndex.Text.PrintableTable

namespace FolderIndex.Text

/-! Quoted text: one line that shows every character, in single quotes unless the text holds
a single quote and no double one. -/

def isHidden (character : Char) : Bool :=
  inRanges hiddenRanges character

def hexDigit (value : Nat) : Char :=
  if value < 10 then Char.ofNat (48 + value) else Char.ofNat (87 + value)

/-- The last `width` hexadecimal digits of `value`. -/
def hexDigits : Nat → Nat → List Char
  | 0, _ => []
  | width + 1, value => hexDigits width (value / 16) ++ [hexDigit (value % 16)]

def backslash : Char := Char.ofNat 92

def singleQuote : Char := Char.ofNat 39

def doubleQuote : Char := Char.ofNat 34

/-- A hidden character by its code, in the shortest of the three widths. -/
def escapeCode (code : Nat) : List Char :=
  if code < 0x100 then backslash :: 'x' :: hexDigits 2 code
  else if code < 0x10000 then backslash :: 'u' :: hexDigits 4 code
  else backslash :: 'U' :: hexDigits 8 code

def quoteCharacter (mark character : Char) : List Char :=
  if character = mark ∨ character = backslash then [backslash, character]
  else if character = Char.ofNat 9 then [backslash, 't']
  else if character = Char.ofNat 10 then [backslash, 'n']
  else if character = Char.ofNat 13 then [backslash, 'r']
  else if isHidden character then escapeCode character.toNat
  else [character]

def quoteMark (text : List Char) : Char :=
  if text.contains singleQuote && !text.contains doubleQuote then doubleQuote else singleQuote

def quoted (text : String) : String :=
  let mark := quoteMark text.toList
  String.ofList (mark :: text.toList.flatMap (quoteCharacter mark) ++ [mark])

end FolderIndex.Text
