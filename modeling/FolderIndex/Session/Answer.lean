import FolderIndex.Session

namespace FolderIndex

/-! What the steps of a session answer. -/

/-- Why a command ends with a failure. -/
inductive CommandProblem where
  | usage
  | badParameter (text : String)
  | failure (failure : Failure)
deriving DecidableEq, Repr

/-- Where a service is offered, whether it starts anew when its program changes, and the
level of what it logs itself. -/
structure ServedAt where
  host : String
  port : Int
  reload : Bool
  level : Level
deriving DecidableEq, Repr

inductive Answer where
  | done
  | flag (value : Bool)
  | hash (hash? : Option String)
  | paths (paths : List String)
  | documents (documents : List Document)
  | roots (scans : List RootScan)
  | stats (stats : IndexStats)
  | walk (walk : Walk)
  | octets (octets : List UInt8)
  | indexer (indexer : Indexer)
  | searcher (searcher : Searcher)
  | matches (found : List (Match Similarity))
  | tally (tally? : Option Tally)
  | round (round? : Option Round)
  | started (started : Bool) (first? : Option Round)
  | state (state? : Option SchedulerState)
  | stateAndEvent (state : SchedulerState) (stopEvent : Bool)
  | response (response : Response)
  | transaction (results : List (Except Failure Answer × List Event)) (failure? : Option Failure)
  | command (exit : Nat) (printed : List Printed) (log : List Event)
      (problem? : Option CommandProblem) (served? : Option ServedAt)
      (during : List (Except Failure Answer × List Event))

/-- The answer of a step or its failure, and what was logged meanwhile. -/
abbrev StepResult := Except Failure Answer × List Event

end FolderIndex
