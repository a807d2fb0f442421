import FolderIndex.Sequence
import FolderIndex.Text.CodeRange

namespace FolderIndex.Text

/-! Blank characters, and what trimming and splitting at them leave. -/

/-- The blank characters: the ASCII spaces, the four information separators, the next-line
control and every space or line separator of the standard that has width. -/
def blankRanges : List CodeRange := [
    (0x9, 0xD), (0x1C, 0x20), (0x85, 0x85), (0xA0, 0xA0), (0x1680, 0x1680), (0x2000, 0x200A),
    (0x2028, 0x2029), (0x202F, 0x202F), (0x205F, 0x205F), (0x3000, 0x3000)]

def isBlank (character : Char) : Bool :=
  inRanges blankRanges character

/-- The characters between the first and the last that fail `drop`, these included. -/
def trimWhere (drop : Char → Bool) (text : List Char) : List Char :=
  ((text.dropWhile drop).reverse.dropWhile drop).reverse

def trim (text : List Char) : List Char :=
  trimWhere isBlank text

/-- Whether `text` has no character to show. -/
def isBlankText (text : String) : Bool :=
  text.toList.all isBlank

/-- The maximal runs of non-blank characters, in order. -/
def words (text : String) : List String :=
  (runs (fun character => !isBlank character) text.toList).map String.ofList

/-- One space between neighbours. -/
def joinWords (parts : List String) : String :=
  String.intercalate " " parts

end FolderIndex.Text
