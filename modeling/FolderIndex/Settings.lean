import FolderIndex.Double.Decimal
import FolderIndex.FileTree
import FolderIndex.Text.Snippet

namespace FolderIndex

/-! The settings of an index: where it is kept, what it watches, and how it answers. -/

namespace Settings

def defaultExtensions : List String := [".md"]

/-- Ten seconds. -/
def defaultInterval : Double := .ofQuotient 10 1

def defaultSearchLimit : Int := 5

end Settings

/-- Settings as they are asked for; what is none takes its default. -/
structure SettingsRequest where
  database? : Option String
  watch : List String
  extensions : List String
  interval : Double
  searchLimit : Int
  snippetLength : Int
deriving DecidableEq, Repr

def SettingsRequest.empty : SettingsRequest :=
  ⟨none, [], Settings.defaultExtensions, Settings.defaultInterval, Settings.defaultSearchLimit,
    Text.snippetLength⟩

structure Settings where
  database : Location
  watch : List Location
  extensions : List String
  interval : Double
  searchLimit : Int
  snippetLength : Int
deriving DecidableEq, Repr

namespace Settings

/-- The file that is preferred where it is there, below the current directory. -/
def localDatabase : Location := Location.ofString "data/lexfinder.db"

def homeDatabase (surroundings : Surroundings) : Location :=
  let home := Location.ofString (surroundings.homes.expandTilde "~")
  { home with parts := home.parts ++ [".lexfinder", "lexfinder.db"] }

/-- Where an index is kept if nothing is said. -/
def defaultDatabase (files : FileTree) : Location :=
  match files.exists? localDatabase with
  | .ok true => localDatabase
  | _ => homeDatabase files.surroundings

/-- An extension starts with a dot, which is put in front of one that does not. -/
def dotted (extension : String) : String :=
  if extension.toList.head? = some '.' then extension else "." ++ extension

/-- The location that a text names, with the home directory for a tilde. -/
def watchLocation (homes : Homes) (text : String) : Except Failure Location :=
  let location := Location.ofString text
  if Homes.asksForNull location.toString then .error .nullInPath
  else
    match homes.expandHome? location with
    | some expanded => .ok expanded
    | none => .error .unknownHome

/-- The watched directories that are not blank. -/
def watchLocations (homes : Homes) (watch : List String) : Except Failure (List Location) :=
  (watch.filter fun text => !Text.isBlankText text).mapM (watchLocation homes)

/-- The settings that a request makes. An interval that is zero or below is refused, and a
search limit that is takes its default. -/
def ofRequest (files : FileTree) (request : SettingsRequest) : Except Failure Settings := do
  let watch ← watchLocations files.surroundings.homes request.watch
  if request.interval.isNonPositive then .error .scanIntervalNotPositive
  else
    pure {
      database := (request.database?.map Location.ofString).getD (defaultDatabase files)
      watch := watch
      extensions := request.extensions.map dotted
      interval := request.interval
      searchLimit := if request.searchLimit ≤ 0 then defaultSearchLimit else request.searchLimit
      snippetLength := request.snippetLength }

/-- The database as seen from a directory, or as it is set if there is none. -/
def databaseFrom (settings : Settings) (base? : Option Location) : Location :=
  match base? with
  | none => settings.database
  | some base => base.join settings.database

end Settings

end FolderIndex
