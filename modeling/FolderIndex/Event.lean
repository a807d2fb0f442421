import FolderIndex.Double.Decimal
import FolderIndex.Tally

namespace FolderIndex

/-! What is written to the log, and who reads it. -/

/-- Who is told of what a part does: the caller that made it, or the one at the terminal, if a
command made it. -/
inductive Audience where
  | caller
  | terminal
deriving DecidableEq, Repr

inductive Level where
  | debug
  | info
  | warning
  | error
deriving DecidableEq, Repr

def Level.rank : Level → Nat
  | .debug => 0
  | .info => 1
  | .warning => 2
  | .error => 3

def Level.text : Level → String
  | .debug => "DEBUG"
  | .info => "INFO"
  | .warning => "WARNING"
  | .error => "ERROR"

inductive Event where
  | unchanged (path : String)
  | indexed (path : String)
  | removed (path : String)
  | scanComplete (tally : Tally)
  | queryMatched (query : String) (candidates documents : Nat)
  | schedulerStarted (interval : Double)
  | schedulerStopped
  | scheduledScanCancelled
  | scheduledScanFailed (failure : Failure)
  | scheduledScanBroken
  | searchFailed (failure : Failure)
  | reindexFailed (failure : Failure)
  | reindexFinished (tally : Tally)
  | listingFailed (failure : Failure)
deriving DecidableEq, Repr

namespace Event

def level : Event → Level
  | unchanged _ => .debug
  | indexed _ => .info
  | removed _ => .info
  | scanComplete _ => .info
  | queryMatched .. => .debug
  | schedulerStarted _ => .info
  | schedulerStopped => .info
  | scheduledScanCancelled => .debug
  | scheduledScanFailed _ => .warning
  | scheduledScanBroken => .error
  | searchFailed _ => .error
  | reindexFailed _ => .error
  | reindexFinished _ => .info
  | listingFailed _ => .error

def message : Event → String
  | unchanged path => "Unchanged: " ++ path
  | indexed path => "Indexed file: " ++ path
  | removed path => "Removed index entry: " ++ path
  | scanComplete tally => "Scan complete: " ++ tally.toText
  | queryMatched query candidates documents =>
      "Query " ++ Text.quoted query ++ " matched " ++ toString candidates ++ " of " ++
        toString documents ++ " documents"
  | schedulerStarted interval =>
      "Index scheduler started (interval " ++ interval.toFixed 1 ++ "s)"
  | schedulerStopped => "Index scheduler stopped"
  | scheduledScanCancelled => "Scheduled scan cancelled"
  | scheduledScanFailed failure => "Index scan failed: " ++ failure.message
  | scheduledScanBroken => "Unexpected error during scheduled scan"
  | searchFailed failure => "Index search failed: " ++ failure.message
  | reindexFailed failure => "Index reindex failed: " ++ failure.message
  | reindexFinished tally => "Reindex finished: " ++ tally.toText
  | listingFailed failure => "Listing indexed documents failed: " ++ failure.message

/-- The events that a log of a level keeps. -/
def kept (level : Level) (events : List Event) : List Event :=
  events.filter fun event => level.rank ≤ event.level.rank

end Event

/-- An event, and who is told of it. -/
structure Notice where
  audience : Audience
  event : Event
deriving DecidableEq, Repr

namespace Notice

/-- Notices of events to one audience. -/
def all (audience : Audience) (events : List Event) : List Notice :=
  events.map (Notice.mk audience)

/-- The events that an audience is told of. -/
def eventsFor (audience : Audience) (notices : List Notice) : List Event :=
  (notices.filter fun notice => notice.audience = audience).map (·.event)

end Notice

end FolderIndex
