namespace FolderIndex.Text

/-! Text from octets. Each longest part that cannot be continued becomes one replacement
character, so damage never reaches the text around it. -/

def replacement : Char := Char.ofNat 0xFFFD

/-- What a reader of octets still expects: nothing, or the rest of a character, whose next
octet lies between two bounds. -/
inductive Expectation where
  | character
  | continuation (value left low high : Nat)
deriving DecidableEq, Repr

/-- What the first octet of a character announces. -/
def expectAfterLead (octet : Nat) : List Char × Expectation :=
  if octet < 0x80 then ([Char.ofNat octet], .character)
  else if octet < 0xC2 then ([replacement], .character)
  else if octet < 0xE0 then ([], .continuation (octet - 0xC0) 0 0x80 0xBF)
  else if octet = 0xE0 then ([], .continuation 0 1 0xA0 0xBF)
  else if octet = 0xED then ([], .continuation 0xD 1 0x80 0x9F)
  else if octet < 0xF0 then ([], .continuation (octet - 0xE0) 1 0x80 0xBF)
  else if octet = 0xF0 then ([], .continuation 0 2 0x90 0xBF)
  else if octet < 0xF4 then ([], .continuation (octet - 0xF0) 2 0x80 0xBF)
  else if octet = 0xF4 then ([], .continuation 4 2 0x80 0x8F)
  else ([replacement], .character)

/-- The text that one more octet completes, and what is expected after it. An octet that
does not continue a character ends it as damaged and is read anew. -/
def Expectation.read (octet : Nat) : Expectation → List Char × Expectation
  | .character => expectAfterLead octet
  | .continuation value left low high =>
      if low ≤ octet ∧ octet ≤ high then
        match left with
        | 0 => ([Char.ofNat (value * 64 + (octet - 0x80))], .character)
        | left + 1 => ([], .continuation (value * 64 + (octet - 0x80)) left 0x80 0xBF)
      else
        let next := expectAfterLead octet
        (replacement :: next.1, next.2)

/-- What the end of the octets leaves of an unfinished character. -/
def Expectation.finish : Expectation → List Char
  | .character => []
  | .continuation .. => [replacement]

def Expectation.decode (expectation : Expectation) : List UInt8 → List Char
  | [] => expectation.finish
  | octet :: rest =>
      let next := expectation.read octet.toNat
      next.1 ++ next.2.decode rest

/-- The text that the octets encode, damaged parts replaced. -/
def decodeUtf8 (octets : List UInt8) : String :=
  String.ofList (Expectation.character.decode octets)

def encodeUtf8 (text : String) : List UInt8 :=
  text.toUTF8.toList

end FolderIndex.Text
