import FolderIndex.Text.Blank
import Mathlib.Data.List.Basic
import Mathlib.Data.List.TakeWhile

namespace FolderIndex.Text

/-! What trimming leaves of a text: all but the characters at its ends that are dropped. -/

/-- A text without the characters at its ends that are dropped. -/
structure Trims (drop : Char → Bool) (text body : List Char) : Prop where
  parts : ∃ before after, text = before ++ body ++ after ∧
    (∀ character ∈ before, drop character = true) ∧ ∀ character ∈ after, drop character = true
  first : ∀ character ∈ body.head?, drop character = false
  last : ∀ character ∈ body.getLast?, drop character = false

variable {drop : Char → Bool} {text body : List Char}

theorem dropWhile_of_head? (kept : ∀ character ∈ text.head?, drop character = false) :
    text.dropWhile drop = text := by
  cases text with
  | nil => rfl
  | cons character rest => rw [List.dropWhile_cons_of_neg (by simp [kept character rfl])]

theorem head?_dropWhile (drop : Char → Bool) (text : List Char) :
    ∀ character ∈ (text.dropWhile drop).head?, drop character = false := by
  intro character leads
  have kept := List.head?_dropWhile_not drop text
  rw [Option.mem_def.mp leads] at kept
  exact kept

theorem dropWhile_append_of_kept {front back : List Char}
    (dropped : ∀ character ∈ front, drop character = true)
    (kept : ∀ character ∈ back.head?, drop character = false) :
    (front ++ back).dropWhile drop = back := by
  rw [List.dropWhile_append_of_pos dropped, dropWhile_of_head? kept]

/-- Trimming leaves just what is left without the dropped characters at both ends. -/
theorem Trims.eq (trims : Trims drop text body) : trimWhere drop text = body := by
  obtain ⟨before, after, rfl, dropped, droppedAfter⟩ := trims.parts
  have droppedBehind : ∀ character ∈ after.reverse, drop character = true := by simpa using droppedAfter
  by_cases none : body = []
  · subst none
    have nothing : (before ++ [] ++ after).dropWhile drop = [] := by
      rw [List.append_nil, List.dropWhile_append_of_pos dropped]
      exact List.dropWhile_eq_nil_iff.mpr droppedAfter
    rw [trimWhere, nothing]
    rfl
  · have first : ∀ character ∈ (body ++ after).head?, drop character = false := by
      rw [List.head?_append_of_ne_nil body none]
      exact trims.first
    have last : ∀ character ∈ body.reverse.head?, drop character = false := by
      rw [List.head?_reverse]
      exact trims.last
    rw [trimWhere, List.append_assoc, dropWhile_append_of_kept dropped first, List.reverse_append,
      dropWhile_append_of_kept droppedBehind last, List.reverse_reverse]

theorem trims_trimWhere (drop : Char → Bool) (text : List Char) :
    Trims drop text (trimWhere drop text) := by
  obtain ⟨rest, held⟩ : ∃ rest, rest = text.dropWhile drop := ⟨_, rfl⟩
  obtain ⟨body, trimmed⟩ : ∃ body, body = (rest.reverse.dropWhile drop).reverse := ⟨_, rfl⟩
  have same : trimWhere drop text = body := by rw [trimmed, held, trimWhere]
  have front : text.takeWhile drop ++ rest = text := by
    rw [held, List.takeWhile_append_dropWhile]
  have back : body ++ (rest.reverse.takeWhile drop).reverse = rest := by
    rw [trimmed, ← List.reverse_append, List.takeWhile_append_dropWhile, List.reverse_reverse]
  rw [same]
  refine ⟨⟨text.takeWhile drop, (rest.reverse.takeWhile drop).reverse, ?_, ?_, ?_⟩, ?_, ?_⟩
  · rw [List.append_assoc, back, front]
  · exact fun character member => List.mem_takeWhile_imp member
  · exact fun character member => List.mem_takeWhile_imp (List.mem_reverse.mp member)
  · intro character leads
    apply head?_dropWhile drop text character
    rw [← held, ← back]
    exact List.mem_head?_append_of_mem_head? leads
  · intro character ends
    apply head?_dropWhile drop rest.reverse character
    rwa [trimmed, List.getLast?_reverse] at ends

theorem trimWhere_trimWhere (drop : Char → Bool) (text : List Char) :
    trimWhere drop (trimWhere drop text) = trimWhere drop text := by
  have trims := trims_trimWhere drop text
  exact Trims.eq ⟨⟨[], [], by simp, by simp, by simp⟩, trims.first, trims.last⟩

theorem trimWhere_map (form : Char → Char) (text : List Char) :
    trimWhere drop (text.map form) =
      (trimWhere (fun character => drop (form character)) text).map form := by
  simp only [trimWhere, List.dropWhile_map, ← List.map_reverse, Function.comp_def]

end FolderIndex.Text
