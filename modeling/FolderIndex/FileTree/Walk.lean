import FolderIndex.FileTree
import FolderIndex.Text.Lowercase

namespace FolderIndex

/-! Walks: the files with a given extension below a directory, each directory's own files
before those of the directories in it, and both in the order of their names. -/

/-- What a walk found, and why it ended early, if it did. -/
structure Walk where
  found : List String
  failure? : Option Failure
deriving DecidableEq, Repr

namespace Walk

def empty : Walk := ⟨[], none⟩

/-- One walk after another; nothing follows a failure. -/
def andThen (first second : Walk) : Walk :=
  match first.failure? with
  | some _ => first
  | none => ⟨first.found ++ second.found, second.failure?⟩

/-- Walks of directories one after another, in the order of the directories' names. -/
def inNameOrder (walks : List (String × Walk)) : Walk :=
  ((walks.mergeSort fun left right => decide (left.1 ≤ right.1)).map (·.2)).foldr andThen empty

theorem empty_andThen (walk : Walk) : empty.andThen walk = walk := rfl

theorem andThen_assoc (first second third : Walk) :
    (first.andThen second).andThen third = first.andThen (second.andThen third) := by
  cases first with
  | mk firstFound firstFailure =>
      cases second with
      | mk secondFound secondFailure =>
          cases firstFailure <;> cases secondFailure <;> simp [andThen]

end Walk

/-- How a directory is listed and its files are named: under the name by which it is listed, and
under its location. -/
structure Listing where
  name : String
  location : Location
deriving DecidableEq, Repr

/-- The name by which an entry of a directory is listed. -/
def Listing.nameIn (directory name : String) : String :=
  if directory.toList.getLast? = some '/' then directory ++ name else directory ++ "/" ++ name

/-- The listing of a directory inside another. -/
def Listing.child (listing : Listing) (name : String) : Listing :=
  ⟨Listing.nameIn listing.name name, listing.location.child name⟩

namespace FileTree

/-- Why a directory cannot be listed, if it cannot: its listing is denied, its name is too long, or
there is no way to it. -/
def listingFault? (tree : FileTree) (listing : Listing) : Option FileFault :=
  if tree.denied.contains listing.name then some .permissionDenied
  else if pathLimit < listing.name.utf8ByteSize then some .nameTooLong
  else
    match tree.spot .target listing.location with
    | .ok _ => none
    | .error fault => some fault

/-- Whether an entry is passed over as a directory: one itself, or a link that leads to one. A link
that cannot be followed counts as a file. -/
def leadsToDirectory (tree : FileTree) (listing : Listing) (entry : String × Node) : Bool :=
  match entry.2 with
  | .directory _ => true
  | .link _ =>
      let below := listing.child entry.1
      decide (below.name.utf8ByteSize ≤ pathLimit) && (tree.directory? below.location).isSome
  | _ => false

/-- The files of one directory that have a wanted extension, in the order of their names. -/
def filesIn (tree : FileTree) (extensions : List String) (listing : Listing)
    (entries : List (String × Node)) : List String :=
  let names :=
    (entries.filter fun entry => !tree.leadsToDirectory listing entry).map (·.1)
  ((names.mergeSort fun left right => decide (left ≤ right)).filter (Text.hasExtension extensions)).map
    fun name => (listing.location.child name).toString

mutual

/-- The walk of one directory. Directories in it are entered, links to directories are not. -/
def walkNode (tree : FileTree) (extensions : List String) (root : Location) (listing : Listing) :
    Node → Walk
  | .directory entries =>
      match tree.listingFault? listing with
      | some fault => ⟨[], some (.walk (.unlistable root ⟨fault, listing.name⟩))⟩
      | none =>
          Walk.andThen ⟨tree.filesIn extensions listing entries, none⟩
            (Walk.inNameOrder (tree.walkEntries extensions root listing entries))
  | _ => Walk.empty

/-- The walks of the directories among some entries, by name. -/
def walkEntries (tree : FileTree) (extensions : List String) (root : Location)
    (listing : Listing) : List (String × Node) → List (String × Walk)
  | [] => []
  | (name, node) :: rest =>
      (name, tree.walkNode extensions root (listing.child name) node) ::
        tree.walkEntries extensions root listing rest

end

/-- The walk from a root, which may be reached through links. -/
def walk (tree : FileTree) (extensions : List String) (root : Location) : Walk :=
  match tree.exists? root with
  | .error failure => ⟨[], some failure⟩
  | .ok false => ⟨[], some (.walk (.rootMissing root))⟩
  | .ok true =>
      match tree.directory? root with
      | none => ⟨[], some (.walk (.rootNotDirectory root))⟩
      | some spot =>
          match spot.node? with
          | none => Walk.empty
          | some node => tree.walkNode extensions root ⟨root.toString, root⟩ node

end FileTree

end FolderIndex
