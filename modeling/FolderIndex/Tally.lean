import FolderIndex.Failure

namespace FolderIndex

/-! The counts of a scan. -/

/-- What became of one visited file. -/
inductive FileStatus where
  | inserted
  | updated
  | skipped
deriving DecidableEq, Repr

structure Tally where
  inserted : Int
  updated : Int
  skipped : Int
  removed : Int
deriving DecidableEq, Repr

namespace Tally

def zero : Tally := ⟨0, 0, 0, 0⟩

def count (tally : Tally) : FileStatus → Tally
  | .inserted => { tally with inserted := tally.inserted + 1 }
  | .updated => { tally with updated := tally.updated + 1 }
  | .skipped => { tally with skipped := tally.skipped + 1 }

def statusOf? : String → Option FileStatus
  | "inserted" => some .inserted
  | "updated" => some .updated
  | "skipped" => some .skipped
  | _ => none

/-- The counts with one file more of a status given by its name. -/
def countNamed (tally : Tally) (status : String) : Except Failure Tally :=
  match statusOf? status with
  | some status => .ok (tally.count status)
  | none => .error (.badText (.unknownStatus status))

/-- The counts by name, as they are written to the log. -/
def toText (tally : Tally) : String :=
  let inserted := toString tally.inserted
  let updated := toString tally.updated
  let skipped := toString tally.skipped
  let removed := toString tally.removed
  s!"\x7b'inserted': {inserted}, 'updated': {updated}, 'skipped': {skipped}, 'removed': {removed}\x7d"

end Tally

end FolderIndex
