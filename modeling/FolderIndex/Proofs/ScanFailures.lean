import FolderIndex.Proofs.CompleteWalks
import FolderIndex.Proofs.Plan
import FolderIndex.Proofs.Work
import FolderIndex.Session.Command
import Mathlib.Data.List.TakeWhile

namespace FolderIndex

/-! How scans fail. Walks and reads fail as such, so does the store, and a scan may be cancelled.
But the first look at a root, to see whether it is there, fails with the fault of the file system
where there is no way to it; and a store cannot be asked for a path that cannot be encoded. -/

/-- The failures that a scan is said to end with. -/
inductive Failure.EndsScan : Failure → Prop where
  | walk (cause : WalkFailure) : EndsScan (.walk cause)
  | store (cause : StoreFailure) : EndsScan (.store cause)
  | cancelled : EndsScan .cancelled

/-- Why there is no way to a place. -/
inductive FileFault.BarsWay : FileFault → Prop where
  | nameTooLong : BarsWay .nameTooLong
  | permissionDenied : BarsWay .permissionDenied

theorem Failure.EndsScan.isDocumented {failure : Failure} (ends : failure.EndsScan) :
    failure.isDocumented = true := by
  cases ends <;> rfl

namespace Node

variable {root : Node} {closed : List (List String)} {here parts : List String} {fault : FileFault}
  {jump : List String → List String → Except FileFault Spot}

/-- Who looks for what is there finds nothing, or no way. -/
theorem walkWith_fault
    (jumps : ∀ {start rest fault}, jump start rest = .error fault →
      fault.isAbsence = true ∨ fault.BarsWay)
    (lost : root.walkWith closed .target jump here parts = .error fault) :
    fault.isAbsence = true ∨ fault.BarsWay := by
  induction parts generalizing here with
  | nil => contradiction
  | cons name rest ih =>
      simp only [walkWith] at lost
      split at lost
      · cases lost
        exact .inr .permissionDenied
      split at lost
      · exact ih lost
      split at lost
      · exact ih lost
      split at lost
      · rename_i forFile
        simp at forFile
      split at lost
      · cases lost
        exact .inr .nameTooLong
      split at lost
      · split at lost <;> cases lost
        exact .inl rfl
      · split at lost
        · cases lost
        · exact jumps lost
      · split at lost
        · cases lost
        · exact ih lost
      · split at lost <;> cases lost
        exact .inl rfl

theorem walkTo_fault {links : Nat}
    (lost : root.walkTo closed .target links here parts = .error fault) :
    fault.isAbsence = true ∨ fault.BarsWay := by
  induction links generalizing here parts fault with
  | zero =>
      refine walkWith_fault ?_ lost
      rintro _ _ _ ⟨⟩
      exact .inl rfl
  | succ links ih => exact walkWith_fault ih lost

end Node

namespace FileTree

variable {tree : FileTree} {extensions : List String} {root location : Location}
  {failure : Failure} {path : String}

theorem spot_fault {fault : FileFault} (lost : tree.spot .target location = .error fault) :
    fault.isAbsence = true ∨ fault.BarsWay := by
  unfold spot at lost
  split at lost
  · cases lost
    exact .inr .nameTooLong
  · exact Node.walkTo_fault lost

/-- A name can be encoded just if none of its characters stands for an octet. -/
theorem encodingFault?_eq_none_iff :
    tree.encodingFault? path = none ↔
      ∀ character ∈ path.toList, tree.strays.lookup character = none := by
  have all : (path.toList.map fun character => tree.strays.lookup character).dropWhile
      Option.isNone = [] ↔ ∀ character ∈ path.toList, tree.strays.lookup character = none := by
    rw [List.dropWhile_eq_nil_iff]
    simp
  rw [← all, encodingFault?]
  split
  · rename_i none
    simp [none]
  · rename_i some
    simpa using some

/-- What can be written without a null character is read back without one. -/
theorem hasNull_ofString (clean : Char.ofNat 0 ∉ path.toList) :
    hasNull (Location.ofString path) = false := by
  rw [hasNull, List.any_eq_false]
  intro part member null
  have among := (List.mem_filter.mp member).1
  obtain ⟨run, found, rfl⟩ := List.mem_map.mp among
  rw [String.toList_ofList, List.contains_iff_mem] at null
  exact clean (mem_of_mem_runs found null)

theorem null_not_mem_toString (clean : hasNull location = false) :
    Char.ofNat 0 ∉ location.toString.toList := by
  have anchored : Char.ofNat 0 ∉ (Location.Anchor.text location.anchor).toList := by
    cases location.anchor <;> decide
  have cleanParts : ∀ part ∈ location.parts, Char.ofNat 0 ∉ part.toList := by
    intro part member null
    have found := List.any_eq_false.mp clean part member
    exact found (List.contains_iff_mem.mpr null)
  unfold Location.toString
  split
  · decide
  · rw [String.toList_append, List.mem_append, String.toList_intercalate]
    rintro (null | null)
    · exact anchored null
    · rcases of_mem_intercalate null with slash | ⟨part, member, within⟩
      · exact absurd slash (by decide)
      · obtain ⟨name, nameMember, rfl⟩ := List.mem_map.mp member
        exact cleanParts name nameMember within

/-- A root cannot be looked for just if there is no way to it; where there is nothing, that is found
out. -/
theorem exists?_eq_error_iff :
    tree.exists? root = .error failure ↔
      hasNull root = false ∧ ∃ fault : FileFault, fault.BarsWay ∧
        tree.spot .target root = .error fault ∧ failure = .file ⟨fault, root.toString⟩ := by
  unfold exists?
  split
  · rename_i null
    simp [null]
  · rename_i clean
    split
    · rename_i spot led
      simp [led]
    · rename_i fault lost
      rcases spot_fault lost with absent | bars
      · have open' : ¬ fault.BarsWay := by
          rintro ⟨⟩ <;> contradiction
        simp [lost, absent, open']
      · have present : fault.isAbsence = false := by
          cases bars <;> rfl
        simp [lost, present, bars, clean, @eq_comm _ failure]

/-- A root with a name that is too long cannot be looked for, if the root of all is not closed. -/
theorem exists?_of_overlong {name : String} (opened : [] ∉ tree.closed)
    (clean : Char.ofNat 0 ∉ name.toList) (long : nameLimit < name.utf8ByteSize) :
    tree.exists? ⟨.root, [name]⟩ = .error (.file ⟨.nameTooLong, "/" ++ name⟩) := by
  have some : name ≠ "" := by
    rintro rfl
    contradiction
  have notHere : name ≠ "." := by
    rintro rfl
    contradiction
  have notAbove : name ≠ ".." := by
    rintro rfl
    contradiction
  have rooted : hasNull ⟨.root, [name]⟩ = false := by simpa [hasNull] using clean
  have lost : tree.spot .target ⟨.root, [name]⟩ = .error .nameTooLong := by
    unfold spot
    split
    · rfl
    · simp [linkLimit, Node.walkTo, Node.walkWith, some, notHere, notAbove, long, start,
        Location.isAbsolute, opened]
  refine exists?_eq_error_iff.mpr ⟨rooted, _, .nameTooLong, lost, ?_⟩
  simp [Location.toString, Location.Anchor.text]

theorem hasNull_of_exists? (there : tree.exists? root = .ok true) : hasNull root = false := by
  unfold exists? at there
  split at there
  · contradiction
  · rename_i clean
    simpa using clean

/-- A walk fails as a walk, or its root cannot even be looked for. -/
theorem walk_fails (failed : (tree.walk extensions root).failure? = some failure) :
    (∃ cause, failure = .walk cause) ∨ tree.exists? root = .error failure := by
  unfold walk at failed
  split at failed
  · rename_i own unchecked
    cases failed
    exact .inr unchecked
  · cases failed
    exact .inl ⟨_, rfl⟩
  · split at failed
    · cases failed
      exact .inl ⟨_, rfl⟩
    · split at failed
      · contradiction
      · rename_i node _
        rw [walkNode_eq] at failed
        rcases visits_cases tree extensions root node.folders with
          ⟨_, walked⟩ | ⟨_, _, _, _, _, _, _, walked⟩
        · rw [walked] at failed
          contradiction
        · rw [walked] at failed
          cases failed
          exact .inl ⟨_, rfl⟩

/-- Where no name has a null character in it, what a walk finds can be asked for. -/
theorem hasNull_of_mem_walk (proper : tree.root.Proper)
    (found : path ∈ (tree.walk extensions root).found) :
    hasNull (Location.ofString path) = false := by
  have there : tree.exists? root = .ok true := by
    cases checked : tree.exists? root with
    | error fault => simp [walk, checked] at found
    | ok present =>
        cases present with
        | false => simp [walk, checked] at found
        | true => rfl
  cases leads : tree.directory? root with
  | none => simp [walk, there, leads] at found
  | some spot =>
      have visits : tree.Visits extensions root spot.names (tree.walk extensions root) :=
        visits_walk proper there leads
      obtain ⟨leaf, rfl, node, reached⟩ := visits.of_mem found
      apply hasNull_ofString
      apply null_not_mem_toString
      have rooted := hasNull_of_exists? there
      have named := proper.isName_of_at? reached
      unfold hasNull at rooted ⊢
      rw [List.any_eq_false] at rooted ⊢
      intro part member null
      have among : part ∈ root.parts ++ (leaf.folder ++ [leaf.name]) := by
        simpa [Location.child, Location.descend] using member
      rcases List.mem_append.mp among with above | below
      · exact rooted part above null
      · exact (named part (List.mem_append_right _ below)).noNull (List.contains_iff_mem.mp null)

theorem read_fails (failed : tree.read location = .error failure) :
    (∃ cause, failure = .walk cause) ∨ hasNull location = true := by
  unfold read at failed
  dsimp only at failed
  split at failed
  · cases failed
    exact .inl ⟨_, rfl⟩
  · split at failed
    · rename_i null
      exact .inr null
    · split at failed
      · cases failed
        exact .inl ⟨_, rfl⟩
      · split at failed <;> cases failed <;> exact .inl ⟨_, rfl⟩

end FileTree

namespace Archive

variable {α : Type} {archive after : Archive} {store thread : Nat} {failure : Failure}

theorem query_fails {operation : StoreOperation} {ask : Tables → Except DatabaseFault α}
    (failed : (archive.query store thread operation ask).1 = .error failure) :
    ∃ cause, failure = .store cause := by
  unfold query at failed
  split at failed
  · cases failed
    exact ⟨_, rfl⟩
  · split at failed <;> cases failed
    exact ⟨_, rfl⟩

theorem named_fails {operation : StoreOperation}
    {outcome : Except DatabaseFault α × Archive}
    (failed : (named operation outcome).1 = .error failure) : ∃ cause, failure = .store cause := by
  unfold named at failed
  split at failed <;> cases failed
  exact ⟨_, rfl⟩

theorem getHash_fails {path : String}
    (failed : (archive.getHash store thread path).1 = .error failure) :
    ∃ cause, failure = .store cause := by
  unfold getHash at failed
  split at failed
  · cases failed
    exact ⟨_, rfl⟩
  · exact query_fails failed

theorem upsert_fails {path : String} {content? hash? : Option String} {tokens : List String}
    (failed : (archive.upsert store path content? tokens hash?).1 = .error failure) :
    ∃ cause, failure = .store cause := by
  unfold upsert at failed
  split at failed
  · cases failed
    exact ⟨_, rfl⟩
  · exact named_fails failed

theorem delete_fails {path : String}
    (failed : (archive.delete store path).1 = .error failure) : ∃ cause, failure = .store cause := by
  unfold delete at failed
  split at failed
  · cases failed
    exact ⟨_, rfl⟩
  · exact named_fails failed

theorem recordRoot_fails {root : String}
    (failed : (archive.recordRoot store root).1 = .error failure) :
    ∃ cause, failure = .store cause := by
  unfold recordRoot at failed
  split at failed
  · cases failed
    exact ⟨_, rfl⟩
  · exact named_fails failed

end Archive

/-- How an action of a scan fails: as it is documented to, with the failure that a walk brought
along, or for a name with a null character in it or one that cannot be encoded. -/
inductive ScanAction.Fails (files : FileTree) (failure : Failure) : ScanAction → Prop where
  | ends {action : ScanAction} (ends : failure.EndsScan) : Fails files failure action
  | broken : Fails files failure (.fail failure)
  | null {path : String} (null : FileTree.hasNull (Location.ofString path) = true) :
      Fails files failure (.visit path)
  | visit {path : String} (bad : failure.IsEncodingOf files path) :
      Fails files failure (.visit path)
  | root {root : String} (bad : failure.IsEncodingOf files root) :
      Fails files failure (.recordRoot root)

namespace Progress

variable {progress : Progress} {files : FileTree} {store thread : Nat} {failure : Failure}
  {action : ScanAction} {actions : List ScanAction}

theorem indexOctets_fails {path : String} {octets : List UInt8}
    (failed : (progress.indexOctets files store thread path octets).2 = some failure) :
    (∃ cause, failure = .store cause) ∨ failure.IsEncodingOf files path := by
  unfold indexOctets at failed
  dsimp only at failed
  split at failed
  · rename_i looked
    cases failed
    exact (Archive.lookUp_eq_error looked).imp_left fun refused =>
      Archive.getHash_fails (congrArg Prod.fst refused)
  · split at failed
    · contradiction
    · split at failed
      · rename_i written
        cases failed
        exact .inl (Archive.upsert_fails (congrArg Prod.fst written))
      · contradiction

theorem recordRoot_fails {root : String}
    (failed : (progress.recordRoot files store root).2 = some failure) :
    (∃ cause, failure = .store cause) ∨ failure.IsEncodingOf files root := by
  unfold recordRoot at failed
  split at failed
  · rename_i marked
    cases failed
    rcases Archive.markRoot_eq_error marked with refused | ⟨_, refused | bad⟩
    · exact .inl (Archive.recordRoot_fails (congrArg Prod.fst refused))
    · exact .inl (Archive.recordRoot_fails refused)
    · exact .inr bad
  · contradiction

theorem act_fails (failed : (progress.act files store thread action).2 = some failure) :
    action.Fails files failure := by
  cases action with
  | poll =>
      simp only [act, poll] at failed
      split at failed
      · contradiction
      · cases failed
        exact .ends .cancelled
      · contradiction
  | visit path =>
      simp only [act, visit] at failed
      split at failed
      · rename_i read
        cases failed
        rcases FileTree.read_fails read with ⟨cause, rfl⟩ | null
        · exact .ends (.walk cause)
        · exact .null null
      · rcases indexOctets_fails failed with ⟨cause, rfl⟩ | bad
        · exact .ends (.store cause)
        · exact .visit bad
  | fail cause =>
      cases failed
      exact .broken
  | remove path =>
      simp only [act, remove] at failed
      split at failed
      · rename_i deleted
        cases failed
        obtain ⟨cause, rfl⟩ := Archive.delete_fails (congrArg Prod.fst deleted)
        exact .ends (.store cause)
      · contradiction
      · contradiction
  | recordRoot root =>
      rcases recordRoot_fails failed with ⟨cause, rfl⟩ | bad
      · exact .ends (.store cause)
      · exact .root bad

theorem run_fails (failed : (progress.run files store thread actions).2 = some failure) :
    ∃ action ∈ actions, action.Fails files failure := by
  induction actions generalizing progress with
  | nil => contradiction
  | cons action rest ih =>
      have first : (progress.act files store thread action).2 = some failure → _ := act_fails
      rw [run_cons] at failed
      unfold andThen at failed
      split at failed
      · obtain ⟨later, member, fails⟩ := ih failed
        exact ⟨later, List.mem_cons_of_mem _ member, fails⟩
      · rename_i acted
        rw [acted] at first
        exact ⟨action, List.mem_cons_self, first failed⟩

end Progress

namespace Indexer

variable {indexer : Indexer} {archive : Archive} {files : FileTree} {thread : Nat}
  {patience : Patience} {progress : Progress} {failure : Failure}

/-- The failures that end a scan though they are not documented to: a root cannot be looked for, or
a path cannot be encoded, be it of a file that is found or of a root. -/
inductive Trips (indexer : Indexer) (files : FileTree) (failure : Failure) : Prop where
  | unchecked {root : Location} (watched : root ∈ indexer.roots)
      (unchecked : files.exists? root = .error failure)
  | file {path : String} (found : path ∈ indexer.found files)
      (bad : failure.IsEncodingOf files path)
  | root {root : Location} (watched : root ∈ indexer.roots)
      (bad : failure.IsEncodingOf files root.toString)

theorem Trips.not_endsScan (trips : indexer.Trips files failure) : ¬ failure.EndsScan := by
  intro ends
  cases trips with
  | unchecked _ unchecked =>
      obtain ⟨_, _, _, _, rfl⟩ := FileTree.exists?_eq_error_iff.mp unchecked
      cases ends
  | file _ bad =>
      obtain ⟨_, _, rfl⟩ := bad
      cases ends
  | root _ bad =>
      obtain ⟨_, _, rfl⟩ := bad
      cases ends

theorem not_trips
    (checked : ∀ root ∈ indexer.roots, ∃ present, files.exists? root = .ok present)
    (spelled : ∀ path ∈ indexer.found files ++ indexer.roots.map (·.toString),
      files.encodingFault? path = none) : ¬ indexer.Trips files failure := by
  have encoded : ∀ {path}, path ∈ indexer.found files ++ indexer.roots.map (·.toString) →
      ¬ failure.IsEncodingOf files path := by
    rintro path member ⟨fault, bad, _⟩
    rw [spelled path member] at bad
    contradiction
  intro trips
  cases trips with
  | unchecked watched unchecked =>
      obtain ⟨present, there⟩ := checked _ watched
      rw [there] at unchecked
      contradiction
  | file found bad => exact encoded (List.mem_append_left _ found) bad
  | root watched bad =>
      exact encoded (List.mem_append_right _ (List.mem_map_of_mem watched)) bad

theorem visits_fail (proper : files.root.Proper)
    (failed : (progress.run files indexer.store thread (indexer.visitActions files)).2 =
      some failure) :
    failure.EndsScan ∨ indexer.Trips files failure := by
  have found : ∀ path, .visit path ∈ indexer.visitActions files →
      ∃ root ∈ indexer.roots, path ∈ (files.walk indexer.extensions root).found := by
    intro path member
    simpa [visitActions, rootActions] using member
  obtain ⟨action, member, fails⟩ := Progress.run_fails failed
  cases fails with
  | ends ends => exact .inl ends
  | broken =>
      have among : ∃ root ∈ indexer.roots,
          (files.walk indexer.extensions root).failure? = some failure := by
        simpa [visitActions, rootActions] using member
      obtain ⟨root, watched, broken⟩ := among
      rcases FileTree.walk_fails broken with ⟨cause, rfl⟩ | unchecked
      · exact .inl (.walk cause)
      · exact .inr (.unchecked watched unchecked)
  | @null path null =>
      obtain ⟨root, _, among⟩ := found path member
      rw [FileTree.hasNull_of_mem_walk proper among] at null
      contradiction
  | @visit path bad => exact .inr (.file (List.mem_flatMap.mpr (found path member)) bad)
  | root bad => simp [visitActions, rootActions] at member

theorem reconcile_fails (failed : (indexer.reconcile files thread progress).2 = some failure) :
    failure.EndsScan ∨ indexer.Trips files failure := by
  unfold reconcile at failed
  split at failed
  · rename_i listed
    cases failed
    obtain ⟨cause, rfl⟩ := Archive.query_fails (congrArg Prod.fst listed)
    exact .inl (.store cause)
  · obtain ⟨action, member, fails⟩ := Progress.run_fails failed
    cases fails with
    | ends ends => exact .inl ends
    | broken => simp [closingActions] at member
    | null => simp [closingActions] at member
    | visit => simp [closingActions] at member
    | @root path bad =>
        have among : ∃ root ∈ indexer.roots, root.toString = path := by
          simpa [closingActions] using member
        obtain ⟨root, watched, rfl⟩ := among
        exact .inr (.root watched bad)

/-- A scan fails as it is documented to, or it trips over a root or a path. -/
theorem scan_fails (proper : archive.files.root.Proper)
    (failed : (indexer.scan archive thread patience).outcome = .error failure) :
    failure.EndsScan ∨ indexer.Trips archive.files failure := by
  unfold scan at failed
  split at failed
  · contradiction
  · split at failed
    · rename_i passed
      cases failed
      unfold pass at passed
      split at passed
      · exact reconcile_fails (congrArg Prod.snd passed)
      · exact visits_fail proper (congrArg Prod.snd passed)
    · contradiction

/-- Where the first root cannot be looked for, a scan ends at once with the same failure. -/
theorem scan_of_unchecked (indexer : Indexer) (thread : Nat) (patience : Patience)
    {root : Location} {rest : List Location} (roots : indexer.roots = root :: rest)
    (unchecked : archive.files.exists? root = .error failure) :
    (indexer.scan archive thread patience).outcome = .error failure := by
  have walked : archive.files.walk indexer.extensions root = ⟨[], some failure⟩ := by
    simp only [FileTree.walk, unchecked]
  have first : rootActions archive.files indexer.extensions root = [.fail failure] := by
    simp [rootActions, walked]
  have passed : indexer.pass archive.files thread (.start archive patience) =
      (.start archive patience, some failure) := by
    rw [pass, visitActions, roots, List.flatMap_cons, first]
    rfl
  rw [scan, roots, passed]
  rfl

end Indexer

/-- A scheduled scan that fails as it is documented to is logged as failed or cancelled. -/
theorem Scheduler.failureEvent_of_endsScan {failure : Failure} (ends : failure.EndsScan) :
    failureEvent failure =
      if failure = .cancelled then .scheduledScanCancelled else .scheduledScanFailed failure := by
  cases ends <;> rfl

theorem Scheduler.tick_of_error {scheduler : Scheduler} {archive : Archive} {thread : Nat}
    {failure : Failure}
    (failed : (scheduler.indexer.scan archive thread scheduler.patience).outcome =
      .error failure) :
    (scheduler.tick archive thread).notices =
      (scheduler.indexer.scan archive thread scheduler.patience).notices ++
        [⟨scheduler.audience, failureEvent failure⟩] := by
  simp only [tick, failed]

namespace Command

open Session

/-- A command that scans, up to the scan: the store and the indexer that it opens, if there is
anything to watch. -/
def beginScan (command : Command) : Work (Option (Nat × Indexer)) := do
  let settings ← Session.settings command.request
  if settings.watch.isEmpty then
    print (.line "[yellow]No watch paths given.[/yellow]")
    pure none
  else
    let location ← databaseOf settings
    let store ← openDatabase location
    let indexer ← indexerFor store settings .terminal
    print (.line ("Indexing into [bold]" ++ location.toString ++ "[/bold]..."))
    pure (some (store, indexer))

/-- The scan of a command, and what it says of it. -/
def endScan (store : Nat) (indexer : Indexer) : Work CommandOutcome := do
  let outcome ← attempt (Session.scan indexer none)
  closeStore store
  match outcome with
  | .ok tally =>
      print (.line
        ("Inserted: " ++ toString tally.inserted ++ ", updated: " ++ toString tally.updated ++
          ", skipped: " ++ toString tally.skipped ++ ", removed: " ++ toString tally.removed))
      pure (ended .success)
  | .error failure =>
      if failure.isDocumented then
        print (.line ("[red]Scan failed:[/red] " ++ failure.message))
        pure (ended .failed)
      else throw failure

theorem scanOnce_eq (command : Command) :
    command.scanOnce = (do
      match ← command.beginScan with
      | none => pure (ended .success)
      | some (opened, indexer) => endScan opened indexer) := by
  unfold scanOnce beginScan
  rw [bind_assoc]
  congr
  funext settings
  split
  · simp only [bind_assoc, pure_bind]
  · simp only [bind_assoc, pure_bind]
    rfl

theorem endScan_of_error {session : Session} {opened : Nat} {indexer : Indexer}
    {failure : Failure} (documented : failure.isDocumented = true)
    (failed : (indexer.scan session.archive mainThread none).outcome = .error failure) :
    (endScan opened indexer session).1 = .ok (ended .failed) ∧
      (endScan opened indexer session).2.printed =
        session.printed ++ [.line ("[red]Scan failed:[/red] " ++ failure.message)] := by
  let run := indexer.scan session.archive mainThread none
  let scanned : Session :=
    { session with archive := run.archive, notices := session.notices ++ run.notices }
  have attempted : attempt (Session.scan indexer none) session =
      (.ok (.error failure), scanned) := by
    change (Except.ok (settle run.outcome scanned).1, (settle run.outcome scanned).2) = _
    rw [failed]
    rfl
  have reported : endScan opened indexer session =
      (if failure.isDocumented then (do
        print (.line ("[red]Scan failed:[/red] " ++ failure.message))
        pure (ended .failed)) else throw failure : Work CommandOutcome)
        { scanned with archive := scanned.archive.close opened } := by
    unfold endScan
    rw [bind_of_ok attempted]
    rfl
  rw [reported, if_pos documented]
  exact ⟨rfl, rfl⟩

end Command

/-- Where no name has a null character in it, a walk fails as such unless its root cannot even be
looked for: then it fails with the fault of the file system, that a name is too long or a directory
is closed. A scan fails as it is documented to unless it trips over such a root, or over a path that
cannot be encoded. Where it does not, each failure is reported, by a scheduled scan in the log and
by a command on the page. -/
theorem scan_failures_are_documented (archive : Archive) (proper : archive.files.root.Proper) :
    (∀ extensions root failure, (archive.files.walk extensions root).failure? = some failure →
      (∃ cause, failure = .walk cause) ∨ archive.files.exists? root = .error failure) ∧
    (∀ extensions root failure, archive.files.exists? root = .error failure →
      archive.files.walk extensions root = ⟨[], some failure⟩ ∧
        ∃ fault : FileFault, fault.BarsWay ∧ archive.files.spot .target root = .error fault ∧
          failure = .file ⟨fault, root.toString⟩) ∧
    ∀ indexer : Indexer,
      (∀ thread patience failure,
        (indexer.scan archive thread patience).outcome = .error failure →
          failure.EndsScan ∨ indexer.Trips archive.files failure) ∧
      (∀ failure, indexer.Trips archive.files failure → ¬ failure.EndsScan) ∧
      ((∀ root ∈ indexer.roots, ∃ present, archive.files.exists? root = .ok present) →
        (∀ path ∈ indexer.found archive.files ++ indexer.roots.map (·.toString),
          archive.files.encodingFault? path = none) →
        (∀ (scheduler : Scheduler) thread failure, scheduler.indexer = indexer →
          (indexer.scan archive thread scheduler.patience).outcome = .error failure →
            (scheduler.tick archive thread).notices =
              (indexer.scan archive thread scheduler.patience).notices ++
                [⟨scheduler.audience, if failure = .cancelled then .scheduledScanCancelled
                  else .scheduledScanFailed failure⟩]) ∧
        ∀ (command : Command) (session ready : Session) opened failure,
          command.beginScan session = (.ok (some (opened, indexer)), ready) →
          ready.archive = archive →
          (indexer.scan archive Session.mainThread none).outcome = .error failure →
            (command.scanOnce session).1 = .ok (Command.ended .failed) ∧
              (command.scanOnce session).2.printed =
                ready.printed ++ [.line ("[red]Scan failed:[/red] " ++ failure.message)]) := by
  refine ⟨fun _ _ _ => FileTree.walk_fails, ?_, fun indexer =>
    ⟨fun _ _ _ => indexer.scan_fails proper, fun _ trips => trips.not_endsScan, ?_⟩⟩
  · intro extensions root failure unchecked
    exact ⟨by simp only [FileTree.walk, unchecked],
      (FileTree.exists?_eq_error_iff.mp unchecked).2⟩
  · intro checked spelled
    have ends : ∀ {thread patience failure},
        (indexer.scan archive thread patience).outcome = .error failure → failure.EndsScan :=
      fun failed => (indexer.scan_fails proper failed).resolve_right
        (Indexer.not_trips checked spelled)
    constructor
    · rintro scheduler thread failure rfl failed
      rw [Scheduler.tick_of_error failed, Scheduler.failureEvent_of_endsScan (ends failed)]
    · rintro command session ready opened failure begun rfl failed
      rw [Command.scanOnce_eq, Session.bind_of_ok begun]
      exact Command.endScan_of_error (ends failed).isDocumented failed

/-! A root of one name that is a character too long, one in a directory that is closed, a file with
an octet in its name that is no text, and a root with a link in it that leads to nothing. -/

def exampleOverlong : Indexer :=
  ⟨0, [⟨.root, [String.ofList (List.replicate 256 'a')]⟩], [".md"], .caller⟩

def exampleShut : Indexer := ⟨0, [⟨.root, ["shut", "dir"]⟩], [".md"], .caller⟩

def exampleStray : Indexer := ⟨0, [⟨.root, ["work"]⟩], [".md"], .caller⟩

def exampleDangling : Scheduler :=
  ⟨⟨0, [FileTree.exampleRoot], [".md"], .caller⟩, .ofQuotient 10 1, 1, .running, false, true, false,
    .caller⟩

def exampleUnopened : Archive := .initial FileTree.exampleTree ⟨0, 1⟩

theorem utf8ByteSize_replicate (count : Nat) (character : Char) :
    (String.ofList (List.replicate count character)).utf8ByteSize = count * character.utf8Size := by
  induction count with
  | zero => simp
  | succ count ih =>
      rw [List.replicate_succ, ← List.singleton_append, String.ofList_append,
        String.utf8ByteSize_append, ih]
      simp [Nat.succ_mul, Nat.add_comm]

/-- The work directory holds a file whose name is an octet that is no text, and an ending. -/
def exampleStrays : Archive :=
  ⟨⟨.directory [("work", .directory [(String.ofList [Char.ofNat 0xE0FF] ++ ".md", .file [])])], [],
      [], [(Char.ofNat 0xE0FF, 255)], ⟨"/home", "/work"⟩⟩,
    [.ofTables Tables.blank.ensure], [⟨.memory, ⟨0, none, false⟩, [], false⟩], ⟨0, 1⟩⟩

/-- A scan that ends in a way that nothing is said of: a scheduler takes it for a broken one. -/
def Indexer.BreaksIn (indexer : Indexer) (archive : Archive) : Prop :=
  archive.files.root.Proper ∧
  ∃ failure, (indexer.scan archive 0 none).outcome = .error failure ∧ ¬ failure.EndsScan ∧
    Scheduler.failureEvent failure = .scheduledScanBroken

theorem roots_and_names_break_scans :
    exampleOverlong.BreaksIn exampleUnopened ∧ exampleShut.BreaksIn exampleUnopened ∧
      exampleStray.BreaksIn exampleStrays := by
  refine ⟨⟨FileTree.exampleTree_proper, ?_⟩, ⟨FileTree.exampleTree_proper, ?_⟩, ⟨?_, ?_⟩⟩
  · have unchecked : exampleUnopened.files.exists?
        ⟨.root, [String.ofList (List.replicate 256 'a')]⟩ =
        .error (.file ⟨.nameTooLong, "/" ++ String.ofList (List.replicate 256 'a')⟩) := by
      apply FileTree.exists?_of_overlong
      · decide
      · rw [String.toList_ofList, List.mem_replicate]
        decide
      · rw [utf8ByteSize_replicate]
        decide
    exact ⟨_, exampleOverlong.scan_of_unchecked 0 none rfl unchecked, nofun, rfl⟩
  · have unchecked : exampleUnopened.files.exists? ⟨.root, ["shut", "dir"]⟩ =
        .error (.file ⟨.permissionDenied, "/shut/dir"⟩) := by
      decide
    exact ⟨_, exampleShut.scan_of_unchecked 0 none rfl unchecked, nofun, rfl⟩
  · have file : (Node.file []).Proper := Node.proper_of_not_isDirectory rfl
    have work : (Node.directory [(String.ofList [Char.ofNat 0xE0FF] ++ ".md",
        .file [])]).Proper :=
      Node.proper_directory (by decide) (by decide) (by simpa using file)
    exact Node.proper_directory (by decide) (by decide) (by simpa using work)
  · have ended : (exampleStray.scan exampleStrays 0 none).outcome =
        .error (.badText (.unencodable 6 [255])) := by
      decide +kernel
    exact ⟨_, ended, nofun, rfl⟩

theorem dangling_link_is_logged :
    let failure : Failure := .walk (.unreadable "/here/a.md" ⟨.notFound, "/here/a.md"⟩)
    exampleUnopened.files.root.Proper ∧
    (∀ root ∈ exampleDangling.indexer.roots,
      ∃ present, exampleUnopened.files.exists? root = .ok present) ∧
    (∀ path, exampleUnopened.files.encodingFault? path = none) ∧
    (exampleDangling.indexer.scan exampleUnopened 1 none).outcome = .error failure ∧
    (exampleDangling.tick exampleUnopened 1).notices =
      [⟨.caller, .scheduledScanFailed failure⟩] := by
  have there : exampleUnopened.files.exists? FileTree.exampleRoot = .ok true := by decide
  have checked : ∀ root ∈ exampleDangling.indexer.roots,
      ∃ present, exampleUnopened.files.exists? root = .ok present := by
    intro root watched
    rw [List.mem_singleton.mp watched]
    exact ⟨true, there⟩
  have spelled : ∀ path, exampleUnopened.files.encodingFault? path = none :=
    fun _ => FileTree.encodingFault?_eq_none_iff.mpr fun _ _ => rfl
  have walked : exampleUnopened.files.walk [".md"] FileTree.exampleRoot = _ :=
    FileTree.exampleTree_walk
  have actions : exampleDangling.indexer.visitActions exampleUnopened.files =
      [.poll, .visit "/here/a.md", .poll, .visit "/here/b.md", .poll, .visit "/here/far.md",
        .fail (.walk (.unlistable FileTree.exampleRoot ⟨.permissionDenied, "/here/vault"⟩)),
        .poll] := by
    simp [Indexer.visitActions, Indexer.rootActions, exampleDangling, walked]
  have passed : exampleDangling.indexer.pass exampleUnopened.files 1 (.start exampleUnopened none) =
      ({ Progress.start exampleUnopened none with seen := ["/here/a.md"] },
        some (.walk (.unreadable "/here/a.md" ⟨.notFound, "/here/a.md"⟩))) := by
    have read : exampleUnopened.files.read (Location.ofString "/here/a.md") =
        .error (.walk (.unreadable "/here/a.md" ⟨.notFound, "/here/a.md"⟩)) := by
      decide +kernel
    rw [Indexer.pass, actions]
    simp [Progress.run, Progress.act, Progress.poll, Progress.visit, Progress.start, read]
  have scanned : exampleDangling.indexer.scan exampleUnopened 1 none =
      ⟨.error (.walk (.unreadable "/here/a.md" ⟨.notFound, "/here/a.md"⟩)), exampleUnopened, []⟩ := by
    have watched : exampleDangling.indexer.roots.isEmpty = false := rfl
    simp only [Indexer.scan, watched, passed]
    rfl
  have logged := ((scan_failures_are_documented exampleUnopened
    FileTree.exampleTree_proper).2.2 exampleDangling.indexer).2.2 checked fun path _ => spelled path
  have failed := congrArg ScanRun.outcome scanned
  have told := logged.1 exampleDangling 1 _ rfl failed
  refine ⟨FileTree.exampleTree_proper, checked, spelled, failed, ?_⟩
  rw [told, show exampleDangling.patience = none from rfl, scanned]
  rfl

end FolderIndex
