import FolderIndex.Proofs.Text.Runs
import FolderIndex.Text.Lowercase

namespace FolderIndex.Text

/-! What the tokens of a text are: its maximal runs of ASCII letters and digits in lowercase, each
at the place of the first run that gives it. -/

/-- A letter or a digit of ASCII. -/
def IsPlain (character : Char) : Prop :=
  ('0' ≤ character ∧ character ≤ '9') ∨ ('A' ≤ character ∧ character ≤ 'Z') ∨
    ('a' ≤ character ∧ character ≤ 'z')

instance (character : Char) : Decidable (IsPlain character) :=
  inferInstanceAs (Decidable (_ ∨ _))

/-- A word that a maximal run of letters and digits, which begins at a place of a text, comes to in
lowercase. -/
def GivesAt (text : String) (place : Nat) (word : String) : Prop :=
  ∃ run, RunAt (fun character => decide (IsPlain character)) text.toList place run ∧
    word = String.ofList (lower (String.ofList run))

variable {text others token word : String} {run : List Char} {character separator : Char}

theorem isTokenCharacter_eq (character : Char) :
    isTokenCharacter character = decide (IsPlain character) := by
  rw [Bool.eq_iff_iff, decide_eq_true_eq]
  unfold isTokenCharacter IsPlain Char.isAlphanum Char.isAlpha Char.isUpper Char.isLower
    Char.isDigit
  simp only [Bool.or_eq_true, Bool.and_eq_true, decide_eq_true_eq, Char.le_def, ge_iff_le]
  exact or_comm

theorem IsPlain.small (plain : IsPlain character) : character.toNat < 128 := by
  apply toNat_lt_of_isAlphanum
  rw [← isTokenCharacter, isTokenCharacter_eq, decide_eq_true plain]

theorem lowerFrom_of_small {before characters : List Char}
    (small : ∀ character ∈ characters, character.toNat < 128) :
    lowerFrom before characters = characters.map Char.toLower := by
  induction characters generalizing before with
  | nil => rfl
  | cons character rest ih =>
      have least := small character List.mem_cons_self
      have notSigma : isCapitalSigma character = false := by
        simp only [isCapitalSigma, beq_eq_false_iff_ne]
        omega
      rw [lowerFrom, ih fun other member => small other (List.mem_cons_of_mem _ member), notSigma]
      simp [lowerAlone, least]

/-- Of letters and digits alone, the folded form is the lowercase form. -/
theorem foldRun_eq_lower (within : ∀ character ∈ run, IsPlain character) :
    foldRun run = String.ofList (lower (String.ofList run)) := by
  rw [foldRun, lower, String.toList_ofList,
    lowerFrom_of_small fun character member => (within character member).small]

theorem givesAt_iff {place : Nat} :
    GivesAt text place word ↔
      ∃ run, RunAt isTokenCharacter text.toList place run ∧ foldRun run = word := by
  unfold GivesAt
  simp only [← isTokenCharacter_eq]
  refine exists_congr fun run => and_congr_right fun at' => ?_
  have within : ∀ character ∈ run, IsPlain character := by
    obtain ⟨_, _, _, _, _, within, _⟩ := at'
    intro character member
    have token : isTokenCharacter character = true := within character member
    rwa [isTokenCharacter_eq, decide_eq_true_eq] at token
  rw [foldRun_eq_lower within, eq_comm]

/-- No run folds to nothing, so the tokens are the folded runs, each told once. -/
theorem tokenize_eq_firsts (text : String) :
    tokenize text = firsts ((runs isTokenCharacter text.toList).map foldRun) := by
  rw [tokenize, distinctTokens, List.filter_eq_self.mpr]
  intro token member
  obtain ⟨run, found, rfl⟩ := List.mem_map.mp member
  obtain ⟨some, within⟩ := of_mem_runs found
  exact decide_eq_true (foldRun_clean some within).1

theorem mem_tokenize : word ∈ tokenize text ↔ ∃ place, GivesAt text place word := by
  obtain ⟨placed, given, _, places⟩ := exists_places isTokenCharacter text.toList
  rw [tokenize_eq_firsts, mem_firsts, ← given, List.map_map, List.mem_map]
  constructor
  · rintro ⟨⟨place, run⟩, member, rfl⟩
    exact ⟨place, givesAt_iff.mpr ⟨run, (places place run).mp member, rfl⟩⟩
  · rintro ⟨place, gives⟩
    obtain ⟨run, at', rfl⟩ := givesAt_iff.mp gives
    exact ⟨(place, run), (places place run).mpr at', rfl⟩

/-- A token stands before another if it is given first. -/
theorem pairwise_tokenize (text : String) :
    (tokenize text).Pairwise fun earlier later =>
      ∃ place, GivesAt text place earlier ∧
        ∀ other, GivesAt text other later → place < other := by
  obtain ⟨placed, given, sorted, places⟩ := exists_places isTokenCharacter text.toList
  have inOrder := pairwise_firsts_map (fun found : Nat × List Char => foldRun found.2) sorted
  have same : placed.map (fun found => foldRun found.2) =
      (runs isTokenCharacter text.toList).map foldRun := by
    rw [← given, List.map_map]
    rfl
  rw [tokenize_eq_firsts, ← same]
  refine inOrder.imp ?_
  rintro earlier later ⟨⟨place, run⟩, member, told, precedes⟩
  refine ⟨place, givesAt_iff.mpr ⟨run, (places place run).mp member, told⟩, ?_⟩
  intro other gives
  obtain ⟨otherRun, at', also⟩ := givesAt_iff.mp gives
  exact precedes (other, otherRun) ((places other otherRun).mpr at') also

/-- The characters that tokens are made of. -/
theorem toLower_of_isTokenCharacter (token : isTokenCharacter character = true) :
    (('0' ≤ character.toLower ∧ character.toLower ≤ '9') ∨
      ('a' ≤ character.toLower ∧ character.toLower ≤ 'z')) ∧
    isTokenCharacter character.toLower = true ∧
    character.toLower.toLower = character.toLower := by
  have ascii : ∀ code < 128, isTokenCharacter (Char.ofNat code) = true →
      (('0' ≤ (Char.ofNat code).toLower ∧ (Char.ofNat code).toLower ≤ '9') ∨
        ('a' ≤ (Char.ofNat code).toLower ∧ (Char.ofNat code).toLower ≤ 'z')) ∧
      isTokenCharacter (Char.ofNat code).toLower = true ∧
      (Char.ofNat code).toLower.toLower = (Char.ofNat code).toLower := by
    decide
  have written : Char.ofNat character.toNat = character := Char.ofNat_toNat character
  have result := ascii character.toNat (toNat_lt_of_isAlphanum token)
  rw [written] at result
  exact result token

theorem exists_run_of_mem_tokenize (member : token ∈ tokenize text) :
    ∃ run, foldRun run = token ∧ ∀ character ∈ run, isTokenCharacter character = true := by
  rw [tokenize_eq_firsts, mem_firsts] at member
  obtain ⟨run, found, rfl⟩ := List.mem_map.mp member
  exact ⟨run, rfl, (of_mem_runs found).2⟩

theorem lower_of_mem_tokenize (member : token ∈ tokenize text) :
    ∀ character ∈ token.toList,
      ('0' ≤ character ∧ character ≤ '9') ∨ ('a' ≤ character ∧ character ≤ 'z') := by
  obtain ⟨run, rfl, within⟩ := exists_run_of_mem_tokenize member
  intro character found
  simp only [foldRun, String.toList_ofList] at found
  obtain ⟨original, inRun, rfl⟩ := List.mem_map.mp found
  exact (toLower_of_isTokenCharacter (within original inRun)).1

theorem isTokenCharacter_of_mem_tokenize (member : token ∈ tokenize text) :
    ∀ character ∈ token.toList, isTokenCharacter character = true := by
  obtain ⟨run, rfl, within⟩ := exists_run_of_mem_tokenize member
  intro character found
  simp only [foldRun, String.toList_ofList] at found
  obtain ⟨original, inRun, rfl⟩ := List.mem_map.mp found
  exact (toLower_of_isTokenCharacter (within original inRun)).2.1

/-- A token is a run that is in lowercase already. -/
theorem foldRun_of_mem_tokenize (member : token ∈ tokenize text) :
    foldRun token.toList = token := by
  obtain ⟨run, rfl, within⟩ := exists_run_of_mem_tokenize member
  simp only [foldRun, String.toList_ofList, List.map_map]
  congr 1
  apply List.map_congr_left
  intro character inRun
  exact (toLower_of_isTokenCharacter (within character inRun)).2.2

/-- The tokens of tokens with a space between neighbours are these tokens. -/
theorem tokenize_joinWords_tokenize (text : String) :
    tokenize (joinWords (tokenize text)) = tokenize text := by
  have written : (joinWords (tokenize text)).toList =
      [' '].intercalate ((tokenize text).map String.toList) := by
    simp [joinWords, String.toList_intercalate]
  have found : runs isTokenCharacter (joinWords (tokenize text)).toList =
      (tokenize text).map String.toList := by
    rw [written]
    apply runs_intercalate (by decide)
    intro part member
    obtain ⟨token, inTokens, rfl⟩ := List.mem_map.mp member
    refine ⟨?_, isTokenCharacter_of_mem_tokenize inTokens⟩
    simpa using (clean_of_mem_tokenize inTokens).1
  have folded : ((tokenize text).map String.toList).map foldRun = tokenize text := by
    rw [List.map_map]
    exact (List.map_congr_left fun token member => foldRun_of_mem_tokenize member).trans
      (List.map_id _)
  have distinct : (tokenize text).Nodup := by
    rw [tokenize_eq_firsts]
    exact nodup_firsts _
  rw [tokenize_eq_firsts, found, folded, firsts_of_nodup distinct]

/-- On the two sides of a separator tokens are read apart. -/
theorem tokenize_append_separator (outside : isTokenCharacter separator = false) :
    tokenize (text ++ String.singleton separator ++ others) =
      distinctTokens (tokenize text ++ tokenize others) := by
  have written : (text ++ String.singleton separator ++ others).toList =
      text.toList ++ separator :: others.toList := by
    simp [String.toList_append]
  have clean : ∀ token ∈ tokenize text ++ tokenize others, decide (token ≠ "") = true := by
    intro token member
    rcases List.mem_append.mp member with early | late
    · exact decide_eq_true (clean_of_mem_tokenize early).1
    · exact decide_eq_true (clean_of_mem_tokenize late).1
  rw [distinctTokens, List.filter_eq_self.mpr clean, tokenize_eq_firsts text,
    tokenize_eq_firsts others, firsts_append_firsts, tokenize_eq_firsts, written,
    runs_append_outside isTokenCharacter _ _ outside, List.map_append]

/-- What the tokens of a text are. Each is a word of lowercase letters and digits of ASCII, and
they are the words that maximal runs of letters and digits come to in lowercase, each told once and
in the order in which they are first given. They are the tokens of their own text, and any character
that is no letter or digit of ASCII, whatever its lowercase form, parts the tokens on its sides. -/
theorem tokens_are_words_of_runs (text : String) :
    (∀ token ∈ tokenize text, token ≠ "" ∧ ∀ character ∈ token.toList,
      ('0' ≤ character ∧ character ≤ '9') ∨ ('a' ≤ character ∧ character ≤ 'z')) ∧
    (tokenize text).Nodup ∧
    (∀ word, word ∈ tokenize text ↔ ∃ place, GivesAt text place word) ∧
    ((tokenize text).Pairwise fun earlier later =>
      ∃ place, GivesAt text place earlier ∧
        ∀ other, GivesAt text other later → place < other) ∧
    tokenize (joinWords (tokenize text)) = tokenize text ∧
    ∀ (separator : Char) (others : String), ¬ IsPlain separator →
      tokenize (text ++ String.singleton separator ++ others) =
        distinctTokens (tokenize text ++ tokenize others) := by
  refine ⟨fun token member => ⟨(clean_of_mem_tokenize member).1, lower_of_mem_tokenize member⟩, ?_,
    fun word => mem_tokenize, pairwise_tokenize text, tokenize_joinWords_tokenize text, ?_⟩
  · rw [tokenize_eq_firsts]
    exact nodup_firsts _
  · intro separator others apart
    exact tokenize_append_separator (by rw [isTokenCharacter_eq, decide_eq_false apart])

/-- The sign for kelvins is a letter that is none of ASCII, and has one of ASCII for its lowercase
form. It parts words, and is in none. -/
theorem kelvin_sign_parts_tokens :
    lower (String.singleton '\u212A') = ['k'] ∧ ¬ IsPlain '\u212A' ∧
    tokenize ("Mac" ++ String.singleton '\u212A' ++ "OS, mac") =
      distinctTokens (tokenize "Mac" ++ tokenize "OS, mac") ∧
    "os" ∈ tokenize "OS, mac" ∧ "os" ≠ "" ∧ GivesAt "OS, mac" 0 "os" := by
  obtain ⟨_, _, _, _, _, apart⟩ := tokens_are_words_of_runs "Mac"
  obtain ⟨made, _, words, _⟩ := tokens_are_words_of_runs "OS, mac"
  have member : "os" ∈ tokenize "OS, mac" := by decide +kernel
  have plain : IsPlain 'O' ∧ IsPlain 'S' ∧ ¬ IsPlain ',' := by decide
  have run : RunAt (fun character => decide (IsPlain character)) "OS, mac".toList 0 ['O', 'S'] :=
    ⟨[], [',', ' ', 'm', 'a', 'c'], by decide, rfl, by decide, by simp [plain], by simp,
      by simp [plain]⟩
  exact ⟨by decide +kernel, by decide, apart _ _ (by decide), member, (made _ member).1,
    ['O', 'S'], run, by decide +kernel⟩

end FolderIndex.Text
