import FolderIndex.Database

namespace FolderIndex

/-! Saved indexes: the rows of a database as lines of text. A line is a list of fields with a
tab between two of them; inside a field a tab and a line feed are escaped. -/

namespace Saved

def backslash : Char := Char.ofNat 92

def escape (character : Char) : List Char :=
  if character = backslash then [backslash, backslash]
  else if character = '\n' then [backslash, 'n']
  else if character = '\t' then [backslash, 't']
  else [character]

/-- The character that a letter behind a backslash stands for. -/
def escaped (letter : Char) : Char :=
  if letter = 'n' then '\n' else if letter = 't' then '\t' else letter

def unescape : List Char → List Char
  | [] => []
  | [character] => [character]
  | character :: next :: rest =>
      if character = backslash then escaped next :: unescape rest
      else character :: unescape (next :: rest)

def lineOf (fields : List String) : String :=
  String.intercalate "\t" (fields.map fun field => String.ofList (field.toList.flatMap escape))

def fieldsOf (line : String) : List String :=
  (line.splitOn "\t").map fun field => String.ofList (unescape field.toList)

/-- The line that every saved index starts with. -/
def heading : String := "folder index"

def entryLine (entry : Entry) : String :=
  lineOf ["document", entry.path, entry.content, entry.tokens, entry.hash, entry.updatedAt]

def rootLine (scan : RootScan) : String :=
  lineOf ["root", scan.path, scan.time]

/-- The rows of both tables, one on a line. -/
def ofTables (tables : Tables) : String :=
  String.intercalate "\n"
    (heading :: tables.rows.map entryLine ++ tables.rootRows.map rootLine)

/-- The rows with that of a line; none if the line is not one that is written. -/
def readLine? (rows : List Entry × List RootScan) (line : String) :
    Option (List Entry × List RootScan) :=
  match fieldsOf line with
  | ["document", path, content, tokens, hash, updatedAt] =>
      some (rows.1 ++ [⟨path, content, tokens, hash, updatedAt⟩], rows.2)
  | ["root", path, time] => some (rows.1, rows.2 ++ [⟨path, time⟩])
  | _ => none

/-- The tables that a text holds, if it is a saved index. -/
def toTables? (text : String) : Option Tables :=
  match text.splitOn "\n" with
  | [] => none
  | first :: lines =>
      if first = heading then
        (lines.foldlM readLine? ([], [])).map fun rows => ⟨some ⟨rows.1, []⟩, some rows.2⟩
      else none

end Saved

end FolderIndex
