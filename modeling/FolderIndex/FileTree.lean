import FolderIndex.Failure
import FolderIndex.Text.Utf8

namespace FolderIndex

/-! A file tree: directories, files, links and index files, and what a location leads to. -/

/-- A node of the tree. The contents of an index file are a database, known by its number; what
was committed to one in use is in its log. -/
inductive Node where
  | file (octets : List UInt8)
  | index (database : Nat)
  | log (database : Nat)
  | link (target : String)
  | directory (entries : List (String × Node))

namespace Node

def isDirectory : Node → Bool
  | directory _ => true
  | _ => false

def isLink : Node → Bool
  | link _ => true
  | _ => false

/-- Whether a node is a file, of any kind. -/
def isContent : Node → Bool
  | file _ | index _ | log _ => true
  | _ => false

def emptyDirectory : Node := directory []

def entries : Node → List (String × Node)
  | directory entries => entries
  | _ => []

/-- The node at the end of a chain of names, links not followed. -/
def at? (node : Node) : List String → Option Node
  | [] => some node
  | name :: rest =>
      match node.entries.lookup name with
      | some below => below.at? rest
      | none => none

/-- The entries with `node` under `name`, in the place of what had that name. -/
def putEntry (name : String) (node : Node) : List (String × Node) → List (String × Node)
  | [] => [(name, node)]
  | entry :: rest => if entry.1 = name then (name, node) :: rest else entry :: putEntry name node rest

/-- The tree with `replacement` at the end of a chain of names, with directories on the way. -/
def put (replacement : Node) (node : Node) : List String → Node
  | [] => replacement
  | name :: rest =>
      let below := (node.entries.lookup name).getD emptyDirectory
      directory (putEntry name (put replacement below rest) node.entries)

theorem lookup_putEntry (name : String) (node : Node) (entries : List (String × Node)) :
    (putEntry name node entries).lookup name = some node := by
  induction entries with
  | nil => simp [putEntry]
  | cons entry rest ih =>
      obtain ⟨other, old⟩ := entry
      by_cases same : other = name
      · simp [putEntry, same]
      · have unequal : (name == other) = false := by
          rw [beq_eq_false_iff_ne]
          exact fun equal => same equal.symm
        simp [putEntry, same, List.lookup_cons, unequal, ih]

/-- What is put at the end of a chain of names is found there. -/
theorem at?_put (replacement node : Node) (names : List String) :
    (put replacement node names).at? names = some replacement := by
  induction names generalizing node with
  | nil => rfl
  | cons name rest ih => simp [put, at?, entries, lookup_putEntry, ih]

/-- The tree without the node at the end of a chain of names. -/
def erase (node : Node) : List String → Node
  | [] => node
  | [name] => directory (node.entries.filter (·.1 ≠ name))
  | name :: rest =>
      match node.entries.lookup name with
      | some below => directory (putEntry name (below.erase rest) node.entries)
      | none => node

end Node

/-- The place that a location leads to: the chain of names from the root that involves no
link, and the node there, if there is one. -/
structure Spot where
  names : List String
  node? : Option Node

/-- The most links that may be followed on the way to one place. -/
def linkLimit : Nat := 40

/-- The most octets of a name. -/
def nameLimit : Nat := 255

/-- The most octets of the text of a location. -/
def pathLimit : Nat := 4095

/-- What is looked for at the end of a way: what is there itself, what it leads to if it is a
link, or where a file is to be written. -/
inductive Aim where
  | itself
  | target
  | newFile
deriving DecidableEq, Repr

/-- The place that a chain of names leads to from the directory `here`, where `jump` goes on
behind a link. Nothing is looked for in a directory that is closed. The last name may be missing;
links on the way are always followed. An empty name and a single dot stay where they are, but no
file can be written under a name with a slash behind it. -/
def Node.walkWith (root : Node) (closed : List (List String)) (aim : Aim)
    (jump : List String → List String → Except FileFault Spot) (here : List String) :
    List String → Except FileFault Spot
  | [] => .ok ⟨here, root.at? here⟩
  | name :: rest =>
      if name ≠ "" && closed.contains here then .error .permissionDenied
      else if name = "" || name = "." then root.walkWith closed aim jump here rest
      else if name = ".." then root.walkWith closed aim jump here.dropLast rest
      else if aim = .newFile && rest = [""] then .error .isDirectory
      else if nameLimit < name.utf8ByteSize then .error .nameTooLong
      else
        match root.at? (here ++ [name]) with
        | none => if rest = [] then .ok ⟨here ++ [name], none⟩ else .error .notFound
        | some (.link target) =>
            if rest = [] ∧ aim = .itself then .ok ⟨here ++ [name], some (.link target)⟩
            else
              let start := if (Location.ofString target).isAbsolute then [] else here
              jump start (Location.linkParts target ++ rest)
        | some (.directory entries) =>
            if rest = [] then .ok ⟨here ++ [name], some (.directory entries)⟩
            else root.walkWith closed aim jump (here ++ [name]) rest
        | some node =>
            if rest = [] then .ok ⟨here ++ [name], some node⟩ else .error .notDirectory

/-- The place that a chain of names leads to, by way of at most so many links. -/
def Node.walkTo (root : Node) (closed : List (List String)) (aim : Aim) :
    Nat → List String → List String → Except FileFault Spot
  | 0 => root.walkWith closed aim fun _ _ => .error .tooManyLinks
  | links + 1 => root.walkWith closed aim (root.walkTo closed aim links)

/-- A file tree, the names whose listing or reading is denied, the places of the directories that
are closed, so that nothing can be looked for in them, the characters that stand in its names for
octets which are no text, and the directories that the user of the tree starts from. -/
structure FileTree where
  root : Node
  denied : List String
  closed : List (List String)
  strays : List (Char × UInt8)
  surroundings : Surroundings

namespace FileTree

/-- The tree that holds only the two directories of its user. -/
def initial (surroundings : Surroundings) : FileTree :=
  let make (root : Node) (path : String) : Node :=
    Node.put Node.emptyDirectory root (Location.ofString path).parts
  ⟨make (make Node.emptyDirectory surroundings.home) surroundings.current, [], [], [], surroundings⟩

def hasNull (location : Location) : Bool :=
  location.parts.any fun part => part.toList.contains (Char.ofNat 0)

/-- Why the name of a place cannot be encoded as text, if it cannot: where its first octets that are
no text stand, and which these are. -/
def encodingFault? (tree : FileTree) (path : String) : Option TextFault :=
  let octets? := path.toList.map fun character => tree.strays.lookup character
  match octets?.dropWhile Option.isNone with
  | [] => none
  | rest =>
      let octets := (rest.takeWhile Option.isSome).filterMap id
      some (.unencodable (octets?.length - rest.length) octets)

/-- The directory that the components of a location are counted from. -/
def start (tree : FileTree) (location : Location) : List String :=
  if location.isAbsolute then [] else (Location.ofString tree.surroundings.current).parts

/-- The place that a location leads to. -/
def spot (tree : FileTree) (aim : Aim) (location : Location) : Except FileFault Spot :=
  if pathLimit < location.toString.utf8ByteSize then .error .nameTooLong
  else tree.root.walkTo tree.closed aim linkLimit (tree.start location) location.parts

/-- The tree with a node at the end of a chain of names. -/
def putAt (tree : FileTree) (names : List String) (node : Node) : FileTree :=
  { tree with root := Node.put node tree.root names }

/-- Whether there is something at a location. A way that ends early, leads through a file or goes
round in circles leads to nothing; one that may not be gone, or that has a name that is too long, is
a failure. -/
def exists? (tree : FileTree) (location : Location) : Except Failure Bool :=
  if hasNull location then .ok false
  else
    match tree.spot .target location with
    | .ok spot => .ok spot.node?.isSome
    | .error fault =>
        if fault.isAbsence then .ok false else .error (.file ⟨fault, location.toString⟩)

/-- The directory that a location leads to. -/
def directory? (tree : FileTree) (location : Location) : Option Spot :=
  match tree.spot .target location with
  | .ok spot => if spot.node?.any Node.isDirectory then some spot else none
  | .error _ => none

/-- What an index file shows to a reader of octets. -/
def indexHeader : List UInt8 := Text.encodeUtf8 "SQLite format 3" ++ [0]

/-- The octets of the file at a location. -/
def read (tree : FileTree) (location : Location) : Except Failure (List UInt8) :=
  let path := location.toString
  let refuse (fault : FileFault) : Except Failure (List UInt8) :=
    .error (.walk (.unreadable path ⟨fault, path⟩))
  if tree.denied.contains path then refuse .permissionDenied
  else if hasNull location then .error .nullInPath
  else
    match tree.spot .target location with
    | .error fault => refuse fault
    | .ok spot =>
        match spot.node? with
        | none => refuse .notFound
        | some (.file octets) => .ok octets
        | some (.index _) => .ok indexHeader
        | some (.log _) => .ok []
        | some (.directory _) => refuse .isDirectory
        | some (.link _) => refuse .tooManyLinks

end FileTree

end FolderIndex
