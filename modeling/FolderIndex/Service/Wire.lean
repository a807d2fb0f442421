import FolderIndex.Double.Decimal
import FolderIndex.Service

namespace FolderIndex

/-! Requests and responses as they are sent: a line with what is asked for or the status, headers
up to an empty line, and a body of nested fields and lists. -/

namespace Wire

/-- A body by its parts. -/
inductive Value where
  | text (text : String)
  | digits (digits : String)
  | flag (value : Bool)
  | absent
  | items (values : List Value)
  | fields (values : List (String × Value))

/-- A character inside double quotes. -/
def quoteCharacter (character : Char) : List Char :=
  if character = Text.doubleQuote ∨ character = Text.backslash then [Text.backslash, character]
  else if character.toNat < 0x20 then
    Text.backslash :: 'u' :: Text.hexDigits 4 character.toNat
  else [character]

def quoted (text : String) : String :=
  String.ofList (Text.doubleQuote :: text.toList.flatMap quoteCharacter ++ [Text.doubleQuote])

mutual

def Value.toText : Value → String
  | .text text => quoted text
  | .digits digits => digits
  | .flag value => if value then "true" else "false"
  | .absent => "null"
  | .items values => "[" ++ String.intercalate "," (itemTexts values) ++ "]"
  | .fields values => "\x7b" ++ String.intercalate "," (fieldTexts values) ++ "\x7d"

def itemTexts : List Value → List String
  | [] => []
  | value :: rest => value.toText :: itemTexts rest

def fieldTexts : List (String × Value) → List String
  | [] => []
  | (name, value) :: rest => (quoted name ++ ":" ++ value.toText) :: fieldTexts rest

end

def number (value : Nat) : Value := .digits (toString value)

/-- A number between zero and one with as few decimal digits as read back to it, or with twenty
where fewer do not. -/
def share (number : Double) : Value :=
  let texts := (List.range 20).map fun places => number.toFixed (places + 1)
  .digits ((texts.find? fun text => Double.read? text = some number).getD (number.toFixed 20))

def matchValue (found : Match Similarity) : Value :=
  .fields [("path", .text found.path), ("score", share found.score.toDouble),
    ("snippet", .text found.snippet)]

def documentValue (document : Document) : Value :=
  .fields [("path", .text document.path), ("updated_at", .text document.updatedAt)]

def rootValue (scan : RootScan) : Value :=
  .fields [("path", .text scan.path), ("last_indexed", .text scan.time)]

def statsValue (stats : IndexStats) : Value :=
  .fields [("document_count", number stats.documents), ("root_count", number stats.roots),
    ("last_indexed", (stats.lastIndexed?.map .text).getD .absent)]

def bodyText : Body → String
  | .text text => text
  | .error text => (Value.fields [("error", .text text)]).toText
  | .accepted => (Value.fields [("ok", .flag true)]).toText
  | .matches found => (Value.fields [("matches", .items (found.map matchValue))]).toText
  | .listing documents roots stats =>
      (Value.fields [("documents", .items (documents.map documentValue)),
        ("roots", .items (roots.map rootValue)), ("stats", statsValue stats)]).toText

def isText : Body → Bool
  | .text _ => true
  | _ => false

/-- The lines of a response in front of its body. -/
def headLines (response : Response) : List String :=
  let header (name : String) (value? : Option String) : List String :=
    (value?.map fun value => name ++ ": " ++ value).toList
  ["HTTP/1.1 " ++ toString response.status,
    "content-type: " ++ (if isText response.body then "text/plain" else "application/json"),
    "content-length: " ++ toString (bodyText response.body).utf8ByteSize] ++
    header "allow" response.allow? ++ header "location" response.location? ++
    header "access-control-allow-origin" response.allowOrigin?

def responseText (response : Response) : String :=
  String.intercalate "\r\n" (headLines response ++ ["", ""]) ++ bodyText response.body

/-- A header from its line. -/
def readHeader? (line : String) : Option (String × String) :=
  match line.splitOn ":" with
  | [] | [_] => none
  | name :: rest =>
      some (name, String.ofList (Text.trim (String.intercalate ":" rest).toList))

/-- A request from its first line and those of its headers. -/
def readRequest? (first : String) (headers : List String) : Option Request :=
  match Text.words first with
  | method :: target :: _ => (headers.mapM readHeader?).map (⟨method, target, ·⟩)
  | _ => none

end Wire

end FolderIndex
