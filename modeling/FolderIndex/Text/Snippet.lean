import FolderIndex.Text.Blank

namespace FolderIndex.Text

/-! Short extracts of a document. -/

/-- The length of an extract where none is given. -/
def snippetLength : Int := 220

def ellipsis : List Char := ['.', '.', '.']

/-- The first `limit` characters; a negative limit counts from the end. -/
def cut (limit : Int) (text : List Char) : List Char :=
  if 0 ≤ limit then text.take limit.toNat else text.take (text.length - limit.natAbs)

def snippetOf (limit : Int) (text : List Char) : List Char :=
  let trimmed := trim text
  if (trimmed.length : Int) ≤ limit then trimmed else cut limit trimmed ++ ellipsis

/-- The trimmed content, whole if it fits, or else its beginning with an ellipsis. -/
def snippet (limit : Int) (content : String) : String :=
  String.ofList (snippetOf limit content.toList)

/-- Line feeds as spaces. -/
def onOneLine (text : String) : String :=
  String.ofList (text.toList.map fun character => if character = '\n' then ' ' else character)

end FolderIndex.Text
