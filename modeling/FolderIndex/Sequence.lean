namespace FolderIndex

/-! Finite sequences: maximal runs of members of a class, and first occurrences. -/

variable {α : Type}

/-- The runs of `text` that follow an unfinished run, given with its last member first. -/
def runsFrom (inside : α → Bool) (unfinished : List α) : List α → List (List α)
  | [] => if unfinished.isEmpty then [] else [unfinished.reverse]
  | member :: rest =>
      if inside member then runsFrom inside (member :: unfinished) rest
      else if unfinished.isEmpty then runsFrom inside [] rest
      else unfinished.reverse :: runsFrom inside [] rest

/-- The maximal non-empty runs of members inside the class, in order. -/
def runs (inside : α → Bool) (text : List α) : List (List α) :=
  runsFrom inside [] text

/-- Each member at its first occurrence only. -/
def firsts [DecidableEq α] : List α → List α
  | [] => []
  | member :: rest => member :: (firsts rest).filter (· ≠ member)

theorem runsFrom_append_outside (inside : α → Bool) (unfinished left right : List α)
    {separator : α} (outside : inside separator = false) :
    runsFrom inside unfinished (left ++ separator :: right) =
      runsFrom inside unfinished left ++ runs inside right := by
  induction left generalizing unfinished with
  | nil =>
      cases unfinished <;> simp [runsFrom, runs, outside]
  | cons member rest ih =>
      simp only [List.cons_append, runsFrom]
      split
      · exact ih _
      · split
        · exact ih _
        · simp [ih]

/-- A member outside the class ends every run: the two sides are read apart. -/
theorem runs_append_outside (inside : α → Bool) (left right : List α) {separator : α}
    (outside : inside separator = false) :
    runs inside (left ++ separator :: right) = runs inside left ++ runs inside right :=
  runsFrom_append_outside inside [] left right outside

theorem mem_firsts [DecidableEq α] {member : α} {members : List α} :
    member ∈ firsts members ↔ member ∈ members := by
  induction members with
  | nil => simp [firsts]
  | cons head rest ih =>
      by_cases same : member = head <;> simp [firsts, ih, same]

theorem nodup_firsts [DecidableEq α] (members : List α) : (firsts members).Nodup := by
  induction members with
  | nil => simp [firsts]
  | cons head rest ih =>
      simp only [firsts, List.nodup_cons]
      exact ⟨by simp, ih.filter _⟩

end FolderIndex
