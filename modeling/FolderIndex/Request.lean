import FolderIndex.Text.Percent
import FolderIndex.Sequence

namespace FolderIndex

/-! Requests to the search service, and what their targets say. -/

structure Request where
  method : String
  target : String
  headers : List (String × String)
deriving DecidableEq, Repr

namespace Request

def header? (request : Request) (name : String) : Option String :=
  (request.headers.find? fun header => header.1.toLower = name).map (·.2)

/-- The target in front of its first question mark, escapes read. -/
def path (request : Request) : List Char :=
  Text.percentDecode (request.target.toList.takeWhile (· ≠ '?'))

/-- The target behind its first question mark. -/
def queryText (request : Request) : List Char :=
  (request.target.toList.dropWhile (· ≠ '?')).drop 1

/-- A part of a query with its escapes read; a plus sign stands for a space. -/
def decodePart (part : List Char) : String :=
  String.ofList (Text.percentDecode (part.map fun character => if character = '+' then ' ' else character))

/-- A parameter of a query: a name, and a value behind an equals sign if there is one. -/
def parameterOf (piece : List Char) : String × String :=
  (decodePart (piece.takeWhile (· ≠ '=')), decodePart ((piece.dropWhile (· ≠ '=')).drop 1))

/-- The parameters of a query, which it carries as octets. -/
def parameters (request : Request) : List (String × String) :=
  let octets := Text.encodeUtf8 (String.ofList request.queryText)
  (runs (· ≠ '&') (octets.map fun octet => Char.ofNat octet.toNat)).map parameterOf

/-- The last value of a parameter. -/
def parameter? (request : Request) (name : String) : Option String :=
  ((request.parameters.filter (·.1 = name)).getLast?).map (·.2)

end Request

end FolderIndex
