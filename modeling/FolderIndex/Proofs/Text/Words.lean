import FolderIndex.Text.Blank
import FolderIndex.Text.Token

namespace FolderIndex

/-! Tokens are kept as one text with spaces between them. What is read back from it are the
same tokens, since no token is empty or has a blank in it. -/

variable {α : Type} {inside : α → Bool}

theorem runsFrom_of_all_inside (unfinished : List α) {part : List α}
    (within : ∀ member ∈ part, inside member = true) (some : unfinished.reverse ++ part ≠ []) :
    runsFrom inside unfinished part = [unfinished.reverse ++ part] := by
  induction part generalizing unfinished with
  | nil =>
      have unfinishedSome : unfinished ≠ [] := by simpa using some
      simp [runsFrom, unfinishedSome]
  | cons member rest ih =>
      have headInside : inside member = true := within member (by simp)
      simp only [runsFrom, headInside, if_true]
      rw [ih (member :: unfinished) (fun other later => within other (by simp [later])) (by simp)]
      simp

theorem runs_of_all_inside {part : List α} (within : ∀ member ∈ part, inside member = true)
    (some : part ≠ []) : runs inside part = [part] :=
  runsFrom_of_all_inside [] within (by simpa using some)

/-- A separator between neighbours keeps the runs of the parts apart. -/
theorem runs_intercalate_flatMap {separator : α} (outside : inside separator = false)
    (parts : List (List α)) :
    runs inside ([separator].intercalate parts) = parts.flatMap (runs inside) := by
  induction parts with
  | nil => rfl
  | cons part rest ih =>
      cases rest with
      | nil => simp
      | cons next later =>
          rw [List.intercalate_cons_cons, List.append_assoc, List.singleton_append,
            runs_append_outside inside _ _ outside, ih]
          rfl

/-- Parts with a separator between neighbours are the runs of what they make. -/
theorem runs_intercalate {separator : α} (outside : inside separator = false)
    {parts : List (List α)}
    (within : ∀ part ∈ parts, part ≠ [] ∧ ∀ member ∈ part, inside member = true) :
    runs inside ([separator].intercalate parts) = parts := by
  rw [runs_intercalate_flatMap outside]
  induction parts with
  | nil => rfl
  | cons part rest ih =>
      obtain ⟨partSome, partInside⟩ := within part (by simp)
      rw [List.flatMap_cons, runs_of_all_inside partInside partSome,
        ih fun other member => within other (by simp [member])]
      rfl

theorem of_mem_runsFrom {unfinished text run : List α}
    (within : ∀ member ∈ unfinished, inside member = true)
    (found : run ∈ runsFrom inside unfinished text) :
    run ≠ [] ∧ ∀ member ∈ run, inside member = true := by
  induction text generalizing unfinished with
  | nil =>
      simp only [runsFrom] at found
      split at found
      · simp at found
      · rename_i unfinishedSome
        have same : run = unfinished.reverse := by simpa using found
        subst same
        exact ⟨by simpa using unfinishedSome, fun member old => within member (by simpa using old)⟩
  | cons head rest ih =>
      simp only [runsFrom] at found
      split at found
      · rename_i headInside
        refine ih ?_ found
        intro member old
        rcases List.mem_cons.mp old with rfl | old
        · exact headInside
        · exact within member old
      · split at found
        · exact ih (by simp) found
        · rename_i unfinishedSome
          rcases List.mem_cons.mp found with rfl | later
          · exact ⟨by simpa using unfinishedSome,
              fun member old => within member (by simpa using old)⟩
          · exact ih (by simp) later

/-- A run is not empty, and all its members are of the class. -/
theorem of_mem_runs {text run : List α} (found : run ∈ runs inside text) :
    run ≠ [] ∧ ∀ member ∈ run, inside member = true :=
  of_mem_runsFrom (by simp) found

theorem mem_of_mem_runsFrom {member : α} {unfinished text run : List α}
    (found : run ∈ runsFrom inside unfinished text) (within : member ∈ run) :
    member ∈ unfinished ∨ member ∈ text := by
  induction text generalizing unfinished with
  | nil =>
      simp only [runsFrom] at found
      split at found
      · simp at found
      · have same : run = unfinished.reverse := by simpa using found
        subst same
        exact .inl (by simpa using within)
  | cons head rest ih =>
      simp only [runsFrom] at found
      split at found
      · rcases ih found with early | late
        · rcases List.mem_cons.mp early with rfl | early
          · exact .inr List.mem_cons_self
          · exact .inl early
        · exact .inr (List.mem_cons_of_mem _ late)
      · split at found
        · rcases ih found with early | late
          · simp at early
          · exact .inr (List.mem_cons_of_mem _ late)
        · rcases List.mem_cons.mp found with rfl | later
          · exact .inl (by simpa using within)
          · rcases ih later with early | late
            · simp at early
            · exact .inr (List.mem_cons_of_mem _ late)

/-- The members of a run are members of its text. -/
theorem mem_of_mem_runs {member : α} {text run : List α} (found : run ∈ runs inside text)
    (within : member ∈ run) : member ∈ text :=
  (mem_of_mem_runsFrom found within).resolve_left (by simp)

/-- A member outside the class stands for any other: it ends the run before it. -/
theorem runsFrom_separator {separator : α} (outside : inside separator = false)
    {unfinished text : List α} :
    runsFrom inside unfinished (separator :: text) =
      runsFrom inside unfinished [] ++ runs inside text :=
  runsFrom_append_outside inside unfinished [] text outside

/-- Texts with the same runs have them behind the same text, too. -/
theorem runsFrom_append_congr {text others : List α}
    (same : ∀ unfinished, runsFrom inside unfinished text = runsFrom inside unfinished others)
    {unfinished before : List α} :
    runsFrom inside unfinished (before ++ text) =
      runsFrom inside unfinished (before ++ others) := by
  induction before generalizing unfinished with
  | nil => exact same unfinished
  | cons member rest ih => simp only [List.cons_append, runsFrom, ih]

theorem runsFrom_map {β : Type} (form : β → α) (unfinished text : List β) :
    runsFrom inside (unfinished.map form) (text.map form) =
      (runsFrom (fun member => inside (form member)) unfinished text).map (List.map form) := by
  induction text generalizing unfinished with
  | nil => cases unfinished <;> simp [runsFrom]
  | cons member rest ih =>
      have next := ih (member :: unfinished)
      have anew := ih []
      simp only [List.map_cons, List.map_nil] at next anew
      simp only [List.map_cons, runsFrom, next, anew]
      split <;> cases unfinished <;> simp

/-- The runs of a text in another form are its runs in that form. -/
theorem runs_map {β : Type} (form : β → α) (text : List β) :
    runs inside (text.map form) =
      (runs (fun member => inside (form member)) text).map (List.map form) :=
  runsFrom_map form [] text

theorem of_mem_intercalate {member separator : α} {parts : List (List α)}
    (within : member ∈ [separator].intercalate parts) :
    member = separator ∨ ∃ part ∈ parts, member ∈ part := by
  induction parts with
  | nil => simp at within
  | cons part rest ih =>
      cases rest with
      | nil => exact .inr ⟨part, by simp, by simpa using within⟩
      | cons next later =>
          rw [List.intercalate_cons_cons, List.append_assoc, List.mem_append] at within
          rcases within with here | onward
          · exact .inr ⟨part, by simp, here⟩
          · rcases List.mem_cons.mp onward with rfl | beyond
            · exact .inl rfl
            · rcases ih beyond with same | ⟨other, otherMember, there⟩
              · exact .inl same
              · exact .inr ⟨other, List.mem_cons_of_mem _ otherMember, there⟩

namespace Text

/-- A text that is one word: it has a character, and none that is blank. -/
def IsWord (text : String) : Prop :=
  text ≠ "" ∧ ∀ character ∈ text.toList, isBlank character = false

theorem words_of_isWord {text : String} (word : IsWord text) : words text = [text] := by
  have some : text.toList ≠ [] := by simpa using word.1
  have within : ∀ character ∈ text.toList, (!isBlank character) = true := fun character member => by
    simp [word.2 character member]
  simp [words, runs_of_all_inside within some]

theorem isWord_of_mem_words {text word : String} (member : word ∈ words text) : IsWord word := by
  obtain ⟨run, found, rfl⟩ := List.mem_map.mp member
  obtain ⟨some, within⟩ := of_mem_runs found
  refine ⟨?_, fun character inRun => ?_⟩
  · intro empty
    exact some (by simpa using congrArg String.toList empty)
  · simpa using within character (by simpa using inRun)

/-- The words of texts with a space between neighbours are the words of each of them. -/
theorem words_joinWords_flatMap (parts : List String) :
    words (joinWords parts) = parts.flatMap words := by
  have apart : (joinWords parts).toList = [' '].intercalate (parts.map String.toList) := by
    simp [joinWords, String.toList_intercalate]
  rw [words, apart, runs_intercalate_flatMap (by decide), List.flatMap_map, List.map_flatMap]
  rfl

/-- Texts are their own words just if each of them is one word. -/
theorem flatMap_words_eq_self_iff {parts : List String} :
    parts.flatMap words = parts ↔ ∀ part ∈ parts, IsWord part := by
  constructor
  · intro same part member
    rw [← same] at member
    obtain ⟨_, _, found⟩ := List.mem_flatMap.mp member
    exact isWord_of_mem_words found
  · intro clean
    induction parts with
    | nil => rfl
    | cons part rest ih =>
        rw [List.flatMap_cons, words_of_isWord (clean part List.mem_cons_self),
          ih fun other member => clean other (List.mem_cons_of_mem _ member)]
        rfl

/-- Words without blanks are read back from the text that has a space between neighbours. -/
theorem words_joinWords {parts : List String}
    (clean : ∀ part ∈ parts, part ≠ "" ∧ ∀ character ∈ part.toList, isBlank character = false) :
    words (joinWords parts) = parts :=
  (words_joinWords_flatMap parts).trans (flatMap_words_eq_self_iff.mpr clean)

theorem toNat_lt_of_isAlphanum {character : Char} (token : character.isAlphanum = true) :
    character.toNat < 128 := by
  delta Char.isAlphanum Char.isAlpha Char.isUpper Char.isLower Char.isDigit at token
  simp only [Bool.or_eq_true, Bool.and_eq_true, decide_eq_true_eq, ge_iff_le,
    UInt32.le_iff_toNat_le] at token
  change ((65 ≤ character.toNat ∧ character.toNat ≤ 90) ∨
    (97 ≤ character.toNat ∧ character.toNat ≤ 122)) ∨
    (48 ≤ character.toNat ∧ character.toNat ≤ 57) at token
  omega

/-- The lowercase form of an ASCII letter or digit is no blank. -/
theorem isBlank_toLower_of_isAlphanum {character : Char} (token : character.isAlphanum = true) :
    isBlank character.toLower = false := by
  have ascii : ∀ code < 128, (Char.ofNat code).isAlphanum = true →
      isBlank (Char.ofNat code).toLower = false := by decide
  have written : Char.ofNat character.toNat = character := Char.ofNat_toNat character
  have result := ascii character.toNat (toNat_lt_of_isAlphanum token)
  rw [written] at result
  exact result token

theorem foldRun_clean {run : List Char} (some : run ≠ [])
    (within : ∀ character ∈ run, isTokenCharacter character = true) :
    foldRun run ≠ "" ∧ ∀ character ∈ (foldRun run).toList, isBlank character = false := by
  constructor
  · intro empty
    have characters := congrArg String.toList empty
    simp [foldRun, some] at characters
  · intro character member
    simp only [foldRun, String.toList_ofList] at member
    obtain ⟨original, originalMember, rfl⟩ := List.mem_map.mp member
    exact isBlank_toLower_of_isAlphanum (within original originalMember)

/-- A token is not empty and has no blank in it. -/
theorem clean_of_mem_tokenize {text token : String} (member : token ∈ tokenize text) :
    token ≠ "" ∧ ∀ character ∈ token.toList, isBlank character = false := by
  have kept := mem_firsts.mp member
  obtain ⟨run, runMember, rfl⟩ := List.mem_map.mp (List.mem_filter.mp kept).1
  obtain ⟨some, within⟩ := of_mem_runs runMember
  exact foldRun_clean some within

/-- The tokens of a text are read back from the text that they are kept as. -/
theorem words_joinWords_tokenize (text : String) :
    words (joinWords (tokenize text)) = tokenize text :=
  words_joinWords fun _ member => clean_of_mem_tokenize member

end Text

end FolderIndex
