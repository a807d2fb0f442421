import FolderIndex.FileTree

namespace FolderIndex

/-! Changes to a file tree. -/

/-- A change to a file tree. What was done before a failure stays. -/
abbrev Edit (α : Type) := ExceptT Failure (StateM FileTree) α

namespace Edit

def refuse {α : Type} (fault : FileFault) (location : Location) : Edit α :=
  throw (.file ⟨fault, location.toString⟩)

/-- The place that a location leads to. -/
def spot (aim : Aim) (location : Location) : Edit Spot := do
  match (← get).spot aim location with
  | .ok spot => pure spot
  | .error fault => refuse fault location

/-- Clears a place: of what is there, nothing is closed any more. -/
def reopen (names : List String) : Edit Unit :=
  modify fun tree =>
    { tree with closed := tree.closed.filter fun place => !names.isPrefixOf place }

/-- Puts a node in a place, instead of what was there. -/
def put (names : List String) (node : Node) : Edit Unit := do
  reopen names
  modify fun tree => tree.putAt names node

/-- A new directory at a location whose parent exists. -/
def makeDirectory (location : Location) : Edit Unit := do
  if FileTree.hasNull location then throw .nullInPath
  let spot ← spot .itself location
  if spot.node?.isSome then refuse .alreadyExists location
  else put spot.names Node.emptyDirectory

/-- A directory that exists is as good as a new one, which could not be made. -/
def admitDirectory (location : Location) (failure : Failure) : Edit Unit := do
  if failure ≠ .nullInPath && ((← get).directory? location).isSome then pure ()
  else throw failure

/-- A directory at a location, with those above it; given the location's components, the
last one first. -/
def ensureParts (anchor : Anchor) : List String → Edit Unit
  | [] => tryCatch (makeDirectory ⟨anchor, []⟩) (admitDirectory ⟨anchor, []⟩)
  | name :: above =>
      let location : Location := ⟨anchor, (name :: above).reverse⟩
      tryCatch (makeDirectory location) fun failure =>
        match failure with
        | .file ⟨.notFound, _⟩ => do
            ensureParts anchor above
            tryCatch (makeDirectory location) (admitDirectory location)
        | _ => admitDirectory location failure

/-- A directory at a location, with those above it, whether there was one before or not. -/
def ensureDirectory (location : Location) : Edit Unit :=
  ensureParts location.anchor location.parts.reverse

/-- A new directory at a location, with those above it. -/
def createDirectory (location : Location) : Edit Unit :=
  tryCatch (makeDirectory location) fun failure =>
    match failure with
    | .file ⟨.notFound, _⟩ => do
        ensureDirectory location.parent
        makeDirectory location
    | _ => throw failure

/-- A file with the given octets at a location, in the place of one that was there, with the
directories above it. -/
def write (location : Location) (octets : List UInt8) : Edit Unit := do
  ensureDirectory location.parent
  if FileTree.hasNull location then throw .nullInPath
  let spot ← spot .newFile location
  if spot.node?.any Node.isDirectory then refuse .isDirectory location
  else put spot.names (.file octets)

/-- A link at a location that was free, with the directories above it. -/
def makeLink (location : Location) (target : String) : Edit Unit := do
  ensureDirectory location.parent
  let spot ← spot .itself location
  if spot.node?.isSome then refuse .alreadyExists location
  else put spot.names (.link target)

/-- Removes what a location names: a file, a link, or a directory with all in it. -/
def remove (location : Location) : Edit Unit := do
  let spot ← spot .itself location
  if spot.node?.isNone then refuse .notFound location
  else do
    reopen spot.names
    modify fun tree => { tree with root := tree.root.erase spot.names }

/-- Puts what one location names at another. Directories are closed there as they were. -/
def move (source target : Location) : Edit Unit := do
  let origin ← spot .itself source
  match origin.node? with
  | none => refuse .notFound source
  | some node => do
      let place ← spot .itself target
      let moved := (← get).closed.filter origin.names.isPrefixOf
      reopen origin.names
      modify fun tree => { tree with root := tree.root.erase origin.names }
      put place.names node
      let closed := moved.map fun names => place.names ++ names.drop origin.names.length
      modify fun tree => { tree with closed := closed ++ tree.closed }

def deny (path : String) : Edit Unit :=
  modify fun tree => { tree with denied := path :: tree.denied }

def allow (path : String) : Edit Unit :=
  modify fun tree => { tree with denied := tree.denied.filter (· ≠ path) }

end Edit

end FolderIndex
