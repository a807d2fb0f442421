import FolderIndex.Text.CaseTable

namespace FolderIndex.Text

/-! Full lowercase text. One character may become two, and a capital sigma takes its final
form at the end of a word, so the form of a character hangs on both of its sides. -/

def isCased (character : Char) : Bool :=
  inRanges casedRanges character

def isCaseIgnorable (character : Char) : Bool :=
  inRanges caseIgnorableRanges character

def isCapitalSigma (character : Char) : Bool :=
  character.toNat == 0x3A3

/-- The lowercase form of a character that stands alone. A capital I with a dot above keeps
its dot as a combining mark. -/
def lowerAlone (character : Char) : List Char :=
  if character.toNat < 0x80 then [character.toLower]
  else if character.toNat == 0x130 then [Char.ofNat 0x69, Char.ofNat 0x307]
  else
    match caseRuns.find? (·.covers character.toNat) with
    | some run => [Char.ofNat ((character.toNat : Int) + run.shift).toNat]
    | none => [character]

/-- Whether the nearest character of `side` that is not passed over is a letter with case. -/
def meetsCased (side : List Char) : Bool :=
  match side.dropWhile isCaseIgnorable with
  | [] => false
  | character :: _ => isCased character

/-- The form of a capital sigma between `before`, nearest first, and `after`. -/
def lowerSigma (before after : List Char) : Char :=
  if meetsCased before && !meetsCased after then Char.ofNat 0x3C2 else Char.ofNat 0x3C3

/-- The lowercase form of `after` where `before` precedes it, nearest character first. -/
def lowerFrom (before : List Char) : List Char → List Char
  | [] => []
  | character :: after =>
      (if isCapitalSigma character then [lowerSigma before after] else lowerAlone character) ++
        lowerFrom (character :: before) after

def lower (text : String) : List Char :=
  lowerFrom [] text.toList

/-- Whether the lowercase form of `name` ends in that of one of the extensions. -/
def hasExtension (extensions : List String) (name : String) : Bool :=
  extensions.any fun extension => (lower extension).isSuffixOf (lower name)

end FolderIndex.Text
