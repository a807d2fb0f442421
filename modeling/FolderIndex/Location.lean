import FolderIndex.Sequence

namespace FolderIndex

/-! Names of places in a file tree, as text and as the components they consist of. -/

/-- Where a location starts: at the current directory, at the root, or at the root written
with two slashes, which is kept apart from it. -/
inductive Anchor where
  | current
  | root
  | doubleRoot
deriving DecidableEq, Repr

/-- A location by its components. Empty components and single dots name nothing and are not
kept; double dots are, since what lies above a link is not above its name. -/
structure Location where
  anchor : Anchor
  parts : List String
deriving DecidableEq, Repr

namespace Location

def anchorOf : List Char → Anchor
  | '/' :: '/' :: '/' :: _ => .root
  | '/' :: '/' :: _ => .doubleRoot
  | '/' :: _ => .root
  | _ => .current

def partsOf (text : List Char) : List String :=
  ((runs (· ≠ '/') text).map String.ofList).filter (· ≠ ".")

/-- A slash parts the components in front of it from those behind it. -/
theorem partsOf_append_slash (left right : List Char) :
    partsOf (left ++ '/' :: right) = partsOf left ++ partsOf right := by
  have apart := runs_append_outside (fun character => decide (character ≠ '/')) left right
    (by decide : decide ('/' ≠ '/') = false)
  simp only [partsOf, apart, List.map_append, List.filter_append]

def ofString (text : String) : Location :=
  ⟨anchorOf text.toList, partsOf text.toList⟩

/-- The components of what a link says. An end by which only a directory goes, a slash or a single
dot, is kept as a component: an empty one, or the dot. -/
def linkParts (text : String) : List String :=
  let ending := String.ofList (text.toList.reverse.takeWhile (· ≠ '/'))
  partsOf text.toList ++ if ending = "" || ending = "." then [ending] else []

def Anchor.text : Anchor → String
  | .current => ""
  | .root => "/"
  | .doubleRoot => "//"

/-- The text of a location. Nothing at all is written as a dot. -/
def toString (location : Location) : String :=
  if location.anchor = .current ∧ location.parts = [] then "."
  else Anchor.text location.anchor ++ String.intercalate "/" location.parts

def isAbsolute (location : Location) : Bool :=
  location.anchor ≠ .current

/-- `inner` as seen from `outer`. -/
def join (outer inner : Location) : Location :=
  if inner.isAbsolute then inner else { outer with parts := outer.parts ++ inner.parts }

def child (location : Location) (name : String) : Location :=
  { location with parts := location.parts ++ [name] }

def parent (location : Location) : Location :=
  { location with parts := location.parts.dropLast }

/-- The components without double dots, given those kept so far, the last one first. Above
the root there is only the root. -/
def collapseFrom (absolute : Bool) (kept : List String) : List String → List String
  | [] => kept.reverse
  | part :: rest =>
      if part = ".." then
        match kept with
        | [] => collapseFrom absolute (if absolute then [] else [".."]) rest
        | last :: others =>
            if last = ".." then collapseFrom absolute (".." :: kept) rest
            else collapseFrom absolute others rest
      else collapseFrom absolute (part :: kept) rest

/-- The location with each double dot taken back against the component before it. -/
def collapse (location : Location) : Location :=
  { location with parts := collapseFrom location.isAbsolute [] location.parts }

end Location

/-- The home directories that are known, by the names of those they belong to. The one who runs a
program goes by no name. -/
structure Homes where
  of? : String → Option String

/-- A text without the slashes at its end. -/
def withoutEndSlashes (text : List Char) : List Char :=
  (text.reverse.dropWhile (· = '/')).reverse

namespace Homes

/-- The text with a home directory in place of the tilde, and of the name behind it, that it starts
with. The text as it is if the home directory is not known. -/
def expandTilde (homes : Homes) (text : String) : String :=
  match text.toList with
  | '~' :: rest =>
      match homes.of? (String.ofList (rest.takeWhile (· ≠ '/'))) with
      | some home =>
          let expanded := withoutEndSlashes home.toList ++ rest.dropWhile (· ≠ '/')
          if expanded.isEmpty then "/" else String.ofList expanded
      | none => text
  | _ => text

/-- A location with a home directory in place of a first component that starts with a tilde, if
the home directory is known and does not start with a tilde, too. -/
def expandHome? (homes : Homes) (location : Location) : Option Location :=
  match location.anchor, location.parts with
  | .current, first :: rest =>
      if first.toList.head? = some '~' then
        let expanded := homes.expandTilde first
        if expanded.toList.head? = some '~' then none
        else
          let home := Location.ofString expanded
          some { home with parts := home.parts ++ rest }
      else some location
  | _, _ => some location

/-- Whether a text starts with a tilde and a name that has a null character in it, for which
nobody can be looked up. -/
def asksForNull (text : String) : Bool :=
  match text.toList with
  | '~' :: rest => (rest.takeWhile (· ≠ '/')).contains (Char.ofNat 0)
  | _ => false

/-- The directory that a text names as seen from the current one, without double dots. -/
def resolve (homes : Homes) (current text : String) : Location :=
  ((Location.ofString current).join (Location.ofString (homes.expandTilde text))).collapse

end Homes

/-- The directories that a program starts from. -/
structure Surroundings where
  home : String
  current : String
deriving DecidableEq, Repr

/-- Nothing is said of other people, so their home directories are not known. -/
def Surroundings.homes (surroundings : Surroundings) : Homes :=
  ⟨fun owner => if owner = "" then some surroundings.home else none⟩

end FolderIndex
