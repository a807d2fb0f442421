import FolderIndex.Session.Answer

namespace FolderIndex

/-! Pages as a plain console shows them: lines without their marks, tables in columns. It reads no
markup in a cell. -/

namespace Page

/-- The marks that give a line its colours. -/
def marks : List (List Char) :=
  ["[bold]", "[/bold]", "[yellow]", "[/yellow]", "[red]", "[/red]"].map String.toList

/-- A line without its marks, of which `hidden` characters are still to be passed over. -/
def withoutMarks (hidden : Nat) : List Char → List Char
  | [] => []
  | character :: rest =>
      match hidden with
      | hidden + 1 => withoutMarks hidden rest
      | 0 =>
          match marks.find? (·.isPrefixOf (character :: rest)) with
          | some mark => withoutMarks (mark.length - 1) rest
          | none => character :: withoutMarks 0 rest

/-- The width of each column, that of its widest cell. -/
def widths (rows : List (List String)) : List Nat :=
  rows.foldl (fun widths row =>
    List.zipWithAll (fun width? cell? => max (width?.getD 0) ((cell?.map String.length).getD 0))
      widths row) []

/-- A cell with spaces up to the width of its column. -/
def padded (width : Nat) (cell : String) : String :=
  cell ++ String.ofList (List.replicate (width - cell.length) ' ')

def rowText (widths : List Nat) (row : List String) : String :=
  String.intercalate "  " (List.zipWith padded widths row)

end Page

/-- The lines of what a plain console was handed. -/
def Printed.lines : Printed → List String
  | .line text => [String.ofList (Page.withoutMarks 0 text.toList)]
  | .table columns rows =>
      let widths := Page.widths (columns :: rows)
      (columns :: rows).map (Page.rowText widths)

end FolderIndex
