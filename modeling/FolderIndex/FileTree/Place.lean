import FolderIndex.FileTree

namespace FolderIndex

/-! Places of databases. The name of a database is made into a chain of names without links
before anything is looked for, so a database can be made at the end of links that lead to
nothing yet. -/

/-- The most links that may be followed on the way to the place of a database. -/
def placeLinkLimit : Nat := 201

namespace Node

/-- The place that a chain of names stands for from `here`, where `jump` goes on behind a link.
Double dots take back the name before them, and nothing has to be there; but there is no going
on below a file, or in or below a directory that is closed. -/
def placeWith (root : Node) (closed : List (List String))
    (jump : List String → List String → Option (List String))
    (here : List String) : List String → Option (List String)
  | [] => some here
  | name :: rest =>
      if name = ".." then root.placeWith closed jump here.dropLast rest
      else if nameLimit < name.utf8ByteSize || (root.at? here).any Node.isContent ||
          closed.any (·.isPrefixOf here) then
        none
      else
        match root.at? (here ++ [name]) with
        | some (.link target) =>
            let start := if (Location.ofString target).isAbsolute then [] else here
            jump start (Location.partsOf target.toList ++ rest)
        | _ => root.placeWith closed jump (here ++ [name]) rest

/-- The place that a chain of names stands for, by way of at most so many links. -/
def placeTo (root : Node) (closed : List (List String)) :
    Nat → List String → List String → Option (List String)
  | 0 => root.placeWith closed fun _ _ => none
  | links + 1 => root.placeWith closed (root.placeTo closed links)

end Node

/-- What stands beside the file of a database while it is made and used: the journal of a change,
the log of what is committed, and the index of the log. -/
inductive Companion where
  | journal
  | log
  | logIndex
deriving DecidableEq, Repr

namespace Companion

def ending : Companion → String
  | .journal => "-journal"
  | .log => "-wal"
  | .logIndex => "-shm"

/-- The name of a companion, which is that of the file with an ending. -/
def name (companion : Companion) (place : List String) : String :=
  place.getLast?.getD "" ++ companion.ending

def place (companion : Companion) (place : List String) : List String :=
  place.dropLast ++ [companion.name place]

end Companion

namespace FileTree

/-- The most octets of the text of a place, such that every ending fits behind it. -/
def placeLimit : Nat := 504

/-- The octets of a place as text, a slash in front of each name. -/
def placeSize (names : List String) : Nat :=
  names.foldl (fun size name => size + 1 + name.utf8ByteSize) 0

/-- The place of a database whose name is that of a location. -/
def place? (tree : FileTree) (location : Location) : Option (List String) :=
  let names? := tree.root.placeTo tree.closed placeLinkLimit (tree.start location) location.parts
  names?.filter fun names => placeSize names ≤ placeLimit

def node? (tree : FileTree) (names : List String) : Option Node :=
  tree.root.at? names

def isDirectoryAt (tree : FileTree) (names : List String) : Bool :=
  (tree.node? names).any Node.isDirectory

def isLinkAt (tree : FileTree) (names : List String) : Bool :=
  (tree.node? names).any Node.isLink

/-- The tree with a node in a place where nothing was; else as it is. -/
def putIfFree (tree : FileTree) (names : List String) (node : Node) : FileTree :=
  if (tree.node? names).isSome then tree else tree.putAt names node

/-- The tree without the file in a place, if there is one. -/
def eraseFile (tree : FileTree) (names : List String) : FileTree :=
  if (tree.node? names).any Node.isContent then { tree with root := tree.root.erase names }
  else tree

/-- The database whose log lies beside a place. -/
def loggedBeside? (tree : FileTree) (place : List String) : Option Nat :=
  match tree.node? (Companion.log.place place) with
  | some (.log number) => some number
  | _ => none

/-- The tree with the log of a database beside its place. -/
def withLog (tree : FileTree) (place : List String) (number : Nat) : FileTree :=
  tree.putAt (Companion.log.place place) (.log number)

/-- The tree with what lies beside the place of a database in use. -/
def withCompanions (tree : FileTree) (place : List String) (number : Nat) : FileTree :=
  (tree.withLog place number).putIfFree (Companion.logIndex.place place) (.file [])

/-- The tree without what lay beside the place of a database in use. -/
def withoutCompanions (tree : FileTree) (place : List String) : FileTree :=
  (tree.eraseFile (Companion.log.place place)).eraseFile (Companion.logIndex.place place)

end FileTree

end FolderIndex
