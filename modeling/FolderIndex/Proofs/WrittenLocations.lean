import FolderIndex.Location
import FolderIndex.Proofs.Text.Words

namespace FolderIndex.Location

/-! A location that is written out and read again is the same location. -/

/-- Components that a text can give: none is empty or a single dot, and none has a slash. -/
def IsWritten (parts : List String) : Prop :=
  ∀ part ∈ parts, part ≠ "" ∧ part ≠ "." ∧ '/' ∉ part.toList

variable {location : Location} {parts : List String} {front back : List Char}

theorem isWritten_partsOf (text : List Char) : IsWritten (partsOf text) := by
  intro part member
  obtain ⟨found, notDot⟩ := List.mem_filter.mp member
  obtain ⟨run, runMember, rfl⟩ := List.mem_map.mp found
  obtain ⟨some, within⟩ := of_mem_runs runMember
  refine ⟨?_, of_decide_eq_true notDot, ?_⟩
  · intro empty
    exact some (by simpa using congrArg String.toList empty)
  · intro slash
    simpa using within '/' (by simpa using slash)

theorem partsOf_nil : partsOf [] = [] := rfl

theorem partsOf_slash (back : List Char) : partsOf ('/' :: back) = partsOf back :=
  partsOf_append_slash [] back

/-- What follows a whole component is read apart from it. -/
theorem partsOf_append (apart : back = [] ∨ back.head? = some '/') :
    partsOf (front ++ back) = partsOf front ++ partsOf back := by
  cases back with
  | nil => rw [List.append_nil, partsOf_nil, List.append_nil]
  | cons first rest =>
      obtain rfl : first = '/' := by simpa using apart
      rw [partsOf_append_slash, partsOf_slash]

/-- A component by itself. -/
theorem partsOf_solid (some : front ≠ []) (notDot : front ≠ ['.']) (within : '/' ∉ front) :
    partsOf front = [String.ofList front] := by
  have solid : ∀ character ∈ front, decide (character ≠ '/') = true := by
    intro character member
    exact decide_eq_true fun slash => within (slash ▸ member)
  have kept : String.ofList front ≠ "." := by
    intro dot
    exact notDot (by simpa using congrArg String.toList dot)
  rw [partsOf, runs_of_all_inside solid some]
  simp [kept]

theorem partsOf_intercalate (written : IsWritten parts) :
    partsOf (String.intercalate "/" parts).toList = parts := by
  have within : ∀ part ∈ parts.map String.toList,
      part ≠ [] ∧ ∀ character ∈ part, decide (character ≠ '/') = true := by
    intro letters member
    obtain ⟨part, partMember, rfl⟩ := List.mem_map.mp member
    obtain ⟨some, _, whole⟩ := written part partMember
    refine ⟨by simpa using some, fun character inPart => decide_eq_true ?_⟩
    rintro rfl
    exact whole inPart
  have read : runs (fun character => decide (character ≠ '/'))
      (String.intercalate "/" parts).toList = parts.map String.toList := by
    rw [String.toList_intercalate]
    exact runs_intercalate (by decide) within
  have undotted : parts.filter (· ≠ ".") = parts := by
    rw [List.filter_eq_self]
    exact fun part member => decide_eq_true (written part member).2.1
  rw [partsOf, read, List.map_map, List.map_congr_left (g := id) fun part _ => by simp,
    List.map_id, undotted]

theorem head?_intercalate (written : IsWritten parts) :
    (String.intercalate "/" parts).toList.head? = parts.head?.bind (·.toList.head?) := by
  cases parts with
  | nil => rfl
  | cons first rest =>
      have some : first.toList ≠ [] := by simpa using (written first List.mem_cons_self).1
      obtain ⟨head, tail, shape⟩ := List.exists_cons_of_ne_nil some
      cases rest with
      | nil => simp
      | cons next later =>
          simp [String.toList_intercalate, shape]

theorem head?_intercalate_ne_slash (written : IsWritten parts) :
    (String.intercalate "/" parts).toList.head? ≠ some '/' := by
  rw [head?_intercalate written]
  cases parts with
  | nil => simp
  | cons first rest =>
      intro slash
      exact (written first List.mem_cons_self).2.2 (List.mem_of_head? slash)

theorem anchorOf_of_head?_ne_slash (apart : front.head? ≠ some '/') :
    anchorOf front = .current := by
  cases front with
  | nil => rfl
  | cons first rest =>
      have other : first ≠ '/' := by simpa using apart
      unfold anchorOf
      split <;> simp_all

/-- The slashes in front of the first component tell where a text starts. -/
theorem anchorOf_text_append (anchor : Anchor) (apart : front.head? ≠ some '/') :
    anchorOf ((Anchor.text anchor).toList ++ front) = anchor := by
  cases front with
  | nil => cases anchor <;> rfl
  | cons first rest =>
      have other : first ≠ '/' := by simpa using apart
      cases anchor with
      | current => exact anchorOf_of_head?_ne_slash apart
      | root => simp [anchorOf, Anchor.text, other]
      | doubleRoot => simp [anchorOf, Anchor.text, other]

theorem ofString_toString (written : IsWritten location.parts) :
    ofString location.toString = location := by
  obtain ⟨anchor, parts⟩ := location
  unfold toString
  split
  · rename_i nothing
    obtain ⟨rfl, rfl⟩ := nothing
    decide
  · have anchored : anchorOf (Anchor.text anchor ++ String.intercalate "/" parts).toList = anchor := by
      rw [String.toList_append]
      exact anchorOf_text_append anchor (head?_intercalate_ne_slash written)
    have read : partsOf (Anchor.text anchor ++ String.intercalate "/" parts).toList = parts := by
      rw [String.toList_append]
      cases anchor with
      | current => exact partsOf_intercalate written
      | root => exact (partsOf_slash _).trans (partsOf_intercalate written)
      | doubleRoot =>
          exact (partsOf_slash _).trans ((partsOf_slash _).trans (partsOf_intercalate written))
    rw [ofString, anchored, read]

theorem ofString_toString_ofString (text : String) :
    ofString (ofString text).toString = ofString text :=
  ofString_toString (isWritten_partsOf _)

end FolderIndex.Location
