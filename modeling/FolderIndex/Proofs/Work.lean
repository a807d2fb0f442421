import FolderIndex.Session

namespace FolderIndex.Session

/-! Work in a session, carried out one part after the other. -/

variable {α β : Type} {session after : Session} {value : α}

/-- What follows some work goes on from where that ends, if it does not fail. -/
@[simp] theorem bind_apply (work : Work α) (next : α → Work β) :
    (work >>= next) session =
      match work session with
      | (.ok value, after) => next value after
      | (.error failure, after) => (.error failure, after) := by
  have onward : (work >>= next) session =
      ExceptT.bindCont next (work session).1 (work session).2 := rfl
  rw [onward]
  obtain ⟨outcome, after⟩ := work session
  cases outcome <;> rfl

theorem bind_of_ok {work : Work α} {next : α → Work β} (ran : work session = (.ok value, after)) :
    (work >>= next) session = next value after := by
  rw [bind_apply, ran]

/-- Some work and what follows it succeed only if both do. -/
theorem of_bind_eq_ok {work : Work α} {next : α → Work β} {result : β}
    (ran : (work >>= next) session = (.ok result, after)) :
    ∃ value between, work session = (.ok value, between) ∧
      next value between = (.ok result, after) := by
  rw [bind_apply] at ran
  split at ran
  · rename_i value between first
    exact ⟨value, between, first, ran⟩
  · cases ran

@[simp] theorem map_apply (change : α → β) (work : Work α) :
    (change <$> work) session =
      match work session with
      | (.ok value, after) => (.ok (change value), after)
      | (.error failure, after) => (.error failure, after) := by
  rw [map_eq_pure_bind, bind_apply]
  rfl

@[simp] theorem pure_apply (value : α) : (pure value : Work α) session = (.ok value, session) := rfl

@[simp] theorem throw_apply (failure : Failure) :
    (throw failure : Work α) session = (.error failure, session) := rfl

@[simp] theorem get_apply : (get : Work Session) session = (.ok session, session) := rfl

@[simp] theorem set_apply (after : Session) :
    (set after : Work PUnit) session = (.ok ⟨⟩, after) := rfl

@[simp] theorem modify_apply (change : Session → Session) :
    (modify change : Work PUnit) session = (.ok ⟨⟩, change session) := rfl

@[simp] theorem orMissing_apply (value : α) :
    orMissing (some value) session = (.ok value, session) := rfl

@[simp] theorem settle_apply (outcome : Except Failure α) :
    settle outcome session = (outcome, session) := by
  cases outcome <;> rfl

@[simp] theorem attempt_apply (work : Work α) :
    attempt work session = (.ok (work session).1, (work session).2) := rfl

@[simp] theorem onArchive_apply (operation : Archive → Archive.Outcome α) :
    onArchive operation session =
      ((operation session.archive).1,
        { session with archive := (operation session.archive).2 }) := by
  simp [onArchive]

end FolderIndex.Session
