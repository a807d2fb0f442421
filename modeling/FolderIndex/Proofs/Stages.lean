import FolderIndex.Scan

namespace FolderIndex

/-! The stages of a scan: how far it has come after each of its actions. No action commits more
than one change, so whatever a scan commits is committed at one of its stages, and a scan that
ends early has come to one of them. -/

namespace Progress

variable {files : FileTree} {store thread : Nat} {held : Progress → Prop} {progress : Progress}
  {actions : List ScanAction}

/-- The stages of some actions, from before the first up to the end of the last that is begun. -/
def stages (progress : Progress) (files : FileTree) (store thread : Nat) :
    List ScanAction → List Progress
  | [] => [progress]
  | action :: rest =>
      progress :: match progress.act files store thread action with
        | (after, none) => after.stages files store thread rest
        | (after, some _) => [after]

theorem run_mem_stages (progress : Progress) (files : FileTree) (store thread : Nat)
    (actions : List ScanAction) :
    (progress.run files store thread actions).1 ∈ progress.stages files store thread actions := by
  induction actions generalizing progress with
  | nil => simp [run, stages]
  | cons action rest ih =>
      simp only [run, stages]
      cases outcome : progress.act files store thread action with
      | mk after failure? =>
          cases failure? with
          | none => exact List.mem_cons_of_mem _ (ih after)
          | some failure => simp

/-- What every action keeps is so at every stage. -/
theorem of_mem_stages (start : held progress)
    (kept : ∀ action ∈ actions, ∀ {before : Progress}, held before →
      held (before.act files store thread action).1)
    {stage : Progress} (passed : stage ∈ progress.stages files store thread actions) :
    held stage := by
  induction actions generalizing progress with
  | nil =>
      rw [List.mem_singleton.mp passed]
      exact start
  | cons action rest ih =>
      have next : held (progress.act files store thread action).1 := kept action (by simp) start
      rcases List.mem_cons.mp passed with rfl | later
      · exact start
      · cases outcome : progress.act files store thread action with
        | mk after failure? =>
            rw [outcome] at next later
            cases failure? with
            | none => exact ih next (fun other member => kept other (by simp [member])) later
            | some failure =>
                rw [List.mem_singleton.mp later]
                exact next

/-- The paths that an action comes to. -/
def visitedBy : ScanAction → List String
  | .visit path => [path]
  | _ => []

theorem seen_indexOctets (path : String) (octets : List UInt8) :
    (progress.indexOctets files store thread path octets).1.seen = progress.seen := by
  unfold indexOctets
  dsimp only
  cases progress.archive.lookUp files store thread path with
  | mk result archive =>
      cases result with
      | error failure => rfl
      | ok previous =>
          dsimp only
          split
          · rfl
          · split <;> rfl

theorem seen_act (action : ScanAction) :
    (progress.act files store thread action).1.seen = progress.seen ++ visitedBy action := by
  cases action with
  | poll =>
      simp only [act, poll, visitedBy, List.append_nil]
      split <;> rfl
  | visit path =>
      simp only [act, visit, visitedBy]
      cases files.read (Location.ofString path) with
      | error failure => rfl
      | ok octets => exact seen_indexOctets path octets
  | fail failure => simp [act, visitedBy]
  | remove path =>
      simp only [act, remove, visitedBy, List.append_nil]
      cases progress.archive.delete store path with
      | mk result archive =>
          cases result with
          | error failure => rfl
          | ok removed => cases removed <;> rfl
  | recordRoot root =>
      simp only [act, recordRoot, visitedBy, List.append_nil]
      cases progress.archive.markRoot files store root with
      | mk result archive => cases result <;> rfl

end Progress

namespace Indexer

variable {indexer : Indexer} {archive : Archive} {files : FileTree} {thread : Nat}
  {patience : Patience}

/-- The paths that the walks of all roots find. -/
def found (indexer : Indexer) (files : FileTree) : List String :=
  indexer.roots.flatMap fun root => (files.walk indexer.extensions root).found

/-- The stages of a scan that has visited all files. -/
def closingStages (indexer : Indexer) (files : FileTree) (thread : Nat) (progress : Progress) :
    List Progress :=
  match progress.archive.listPaths indexer.store thread with
  | (.error _, archive) => [{ progress with archive := archive }]
  | (.ok stored, archive) =>
      { progress with archive := archive }.stages files indexer.store thread
        (indexer.closingActions stored progress.seen)

/-- The stages of a scan of at least one root. -/
def passStages (indexer : Indexer) (files : FileTree) (thread : Nat) (progress : Progress) :
    List Progress :=
  let visits := indexer.visitActions files
  progress.stages files indexer.store thread visits ++
    match progress.run files indexer.store thread visits with
    | (visited, none) => indexer.closingStages files thread visited
    | _ => []

/-- The stages of a scan. One with no roots has only its start. -/
def stages (indexer : Indexer) (archive : Archive) (thread : Nat) (patience : Patience) :
    List Progress :=
  if indexer.roots.isEmpty then [.start archive patience]
  else indexer.passStages archive.files thread (.start archive patience)

theorem reconcile_mem_closingStages (progress : Progress) :
    (indexer.reconcile files thread progress).1 ∈
      indexer.closingStages files thread progress := by
  unfold reconcile closingStages
  cases listed : progress.archive.listPaths indexer.store thread with
  | mk result archive =>
      cases result with
      | error failure => simp
      | ok stored => exact Progress.run_mem_stages _ _ _ _ _

theorem pass_mem_passStages (progress : Progress) :
    (indexer.pass files thread progress).1 ∈ indexer.passStages files thread progress := by
  have last := progress.run_mem_stages files indexer.store thread (indexer.visitActions files)
  unfold pass passStages
  cases outcome : progress.run files indexer.store thread (indexer.visitActions files) with
  | mk visited failure? =>
      rw [outcome] at last
      cases failure? with
      | none =>
          simp only [outcome]
          exact List.mem_append_right _ (reconcile_mem_closingStages visited)
      | some failure => exact List.mem_append_left _ last

/-- How a scan leaves its archive, however it ends, is how one of its stages does. -/
theorem scan_archive_mem_stages (indexer : Indexer) (archive : Archive) (thread : Nat)
    (patience : Patience) :
    ∃ stage ∈ indexer.stages archive thread patience,
      stage.archive = (indexer.scan archive thread patience).archive := by
  unfold scan stages
  split
  · exact ⟨.start archive patience, by simp, rfl⟩
  · refine ⟨_, pass_mem_passStages _, ?_⟩
    cases indexer.pass archive.files thread (.start archive patience) with
    | mk progress failure? => cases failure? <;> rfl

theorem mem_found_of_visit {path : String}
    (visited : .visit path ∈ indexer.visitActions files) : path ∈ indexer.found files := by
  rcases List.mem_append.mp visited with walked | polled
  · obtain ⟨root, rootMember, action⟩ := List.mem_flatMap.mp walked
    rcases List.mem_append.mp action with visits | failed
    · obtain ⟨other, otherFound, same⟩ := List.mem_flatMap.mp visits
      have samePath : path = other := by simpa using same
      rw [samePath]
      exact List.mem_flatMap.mpr ⟨root, rootMember, otherFound⟩
    · simp at failed
  · simp at polled

theorem not_visit_mem_closingActions {path : String} {stored seen : List String} :
    .visit path ∉ indexer.closingActions stored seen := by
  simp [closingActions]

/-- What every action keeps, and the listing of the stored paths does, is so at every stage of
a scan. The files that are visited are those that the walks find. -/
theorem of_mem_stages (held : Progress → Prop) (start : held (.start archive patience))
    (kept : ∀ action, (∀ path, action = .visit path → path ∈ indexer.found archive.files) →
      ∀ {before : Progress}, held before →
        held (before.act archive.files indexer.store thread action).1)
    (listed : ∀ {before : Progress}, held before →
      held { before with archive := (before.archive.listPaths indexer.store thread).2 })
    {stage : Progress} (passed : stage ∈ indexer.stages archive thread patience) :
    held stage := by
  have visits : ∀ action ∈ indexer.visitActions archive.files, ∀ {before : Progress},
      held before → held (before.act archive.files indexer.store thread action).1 :=
    fun action member => kept action fun path same => mem_found_of_visit (same ▸ member)
  unfold stages at passed
  split at passed
  · rw [List.mem_singleton.mp passed]
    exact start
  · rcases List.mem_append.mp passed with visiting | closing
    · exact Progress.of_mem_stages start visits visiting
    · have last := Progress.of_mem_stages start visits
        (Progress.run_mem_stages (.start archive patience) _ _ _
          (indexer.visitActions archive.files))
      split at closing
      · rename_i visited outcome
        rw [outcome] at last
        have next := listed last
        unfold closingStages at closing
        cases result : visited.archive.listPaths indexer.store thread with
        | mk stored? after =>
            rw [result] at next closing
            cases stored? with
            | error failure =>
                rw [List.mem_singleton.mp closing]
                exact next
            | ok stored =>
                refine Progress.of_mem_stages next (fun action member => kept action ?_) closing
                intro path same
                exact absurd (same ▸ member) not_visit_mem_closingActions
      · simp at closing

/-- A scan comes to no file that its walks do not find. -/
theorem seen_found_of_mem_stages {stage : Progress}
    (passed : stage ∈ indexer.stages archive thread patience) :
    ∀ path ∈ stage.seen, path ∈ indexer.found archive.files := by
  refine of_mem_stages (fun progress => ∀ path ∈ progress.seen, path ∈ indexer.found archive.files)
    ?_ ?_ (fun before => before) passed
  · simp [Progress.start]
  · intro action visits before seen path member
    rw [Progress.seen_act] at member
    rcases List.mem_append.mp member with old | new
    · exact seen path old
    · cases action with
      | visit other =>
          rw [List.mem_singleton.mp new]
          exact visits other rfl
      | _ => simp [Progress.visitedBy] at new

end Indexer

end FolderIndex
