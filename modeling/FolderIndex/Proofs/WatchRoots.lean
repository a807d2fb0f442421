import FolderIndex.Proofs.WalkPaths
import FolderIndex.Proofs.WrittenLocations
import FolderIndex.Settings
import Mathlib.Data.List.DropRight

namespace FolderIndex

/-! What becomes of watched roots on their way through the settings. They are read twice: by the
settings as locations, and once more from the texts of these by the indexer. -/

theorem withoutEndSlashes_eq_nil_iff {text : List Char} :
    withoutEndSlashes text = [] ↔ ∀ character ∈ text, character = '/' := by
  change text.rdropWhile (· = '/') = [] ↔ _
  simp

theorem getLast_withoutEndSlashes {text : List Char} (some : withoutEndSlashes text ≠ []) :
    (withoutEndSlashes text).getLast some ≠ '/' := by
  have last := List.rdropWhile_last_not (fun character => decide (character = '/')) text some
  rwa [decide_eq_true_eq] at last

namespace Location

variable {front back : List Char}

/-- A text that does not end with a slash tells where it starts, whatever follows it. -/
theorem anchorOf_append (some : front ≠ []) (ended : front.getLast some ≠ '/') :
    anchorOf (front ++ back) = anchorOf front := by
  obtain ⟨first, rest, rfl⟩ := List.exists_cons_of_ne_nil some
  by_cases outside : first = '/'
  · subst outside
    cases rest with
    | nil => simp at ended
    | cons second others =>
        by_cases alsoOutside : second = '/'
        · subst alsoOutside
          cases others with
          | nil => simp at ended
          | cons third more =>
              by_cases last : third = '/'
              · simp [anchorOf, last]
              · simp [anchorOf, last]
        · simp [anchorOf, alsoOutside]
  · rw [anchorOf_of_head?_ne_slash (by simpa using outside),
      anchorOf_of_head?_ne_slash (by simpa using outside)]

theorem anchorOf_slash (back : List Char) :
    anchorOf ('/' :: back) = .root ∨ anchorOf ('/' :: back) = .doubleRoot := by
  unfold anchorOf
  split <;> simp_all

/-- A text as the location is written that it names. -/
def tidy (text : String) : String :=
  (ofString text).toString

theorem ofString_tidy (text : String) : ofString (tidy text) = ofString text :=
  ofString_toString_ofString text

theorem tidy_tidy (text : String) : tidy (tidy text) = tidy text :=
  congrArg toString (ofString_tidy text)

end Location

namespace Homes

variable {homes : Homes} {current text owner home : String} {tail : List Char}
  {location : Location}

theorem expandTilde_of_head?_ne (plain : text.toList.head? ≠ some '~') :
    homes.expandTilde text = text := by
  unfold expandTilde
  split
  · rename_i rest characters
    simp [characters] at plain
  · rfl

theorem asksForNull_of_head?_ne (plain : text.toList.head? ≠ some '~') :
    asksForNull text = false := by
  unfold asksForNull
  split
  · rename_i rest characters
    simp [characters] at plain
  · rfl

/-- A text that starts with a tilde and the name of an owner. What comes next, if anything does,
is a slash. -/
structure AsksFor (text owner : String) (tail : List Char) : Prop where
  letters : text.toList = '~' :: (owner.toList ++ tail)
  whole : '/' ∉ owner.toList
  apart : tail = [] ∨ tail.head? = some '/'

theorem head?_ne_or_asksFor (text : String) :
    text.toList.head? ≠ some '~' ∨ ∃ owner tail, AsksFor text owner tail := by
  cases characters : text.toList with
  | nil => exact .inl (by simp)
  | cons first rest =>
      by_cases tilde : first = '~'
      · refine .inr ⟨String.ofList (rest.takeWhile (· ≠ '/')), rest.dropWhile (· ≠ '/'), ?_, ?_, ?_⟩
        · rw [characters, tilde, String.toList_ofList, List.takeWhile_append_dropWhile]
        · intro slash
          rw [String.toList_ofList] at slash
          simpa using List.mem_takeWhile_imp slash
        · cases behind : rest.dropWhile (· ≠ '/') with
          | nil => exact .inl rfl
          | cons next later =>
              have outside :=
                List.head?_dropWhile_not (fun character => decide (character ≠ '/')) rest
              rw [behind] at outside
              exact .inr (by simpa using outside)
      · exact .inl (by simpa using tilde)

namespace AsksFor

theorem takeWhile_eq (asks : AsksFor text owner tail) :
    (owner.toList ++ tail).takeWhile (· ≠ '/') = owner.toList := by
  have inside : ∀ character ∈ owner.toList, decide (character ≠ '/') = true :=
    fun character member => decide_eq_true fun slash => asks.whole (slash ▸ member)
  rw [List.takeWhile_append_of_pos inside]
  rcases asks.apart with rfl | slash
  · simp
  · cases tail with
    | nil => simp
    | cons first rest => simp_all

theorem dropWhile_eq (asks : AsksFor text owner tail) :
    (owner.toList ++ tail).dropWhile (· ≠ '/') = tail := by
  have split := List.takeWhile_append_dropWhile (p := (· ≠ '/')) (l := owner.toList ++ tail)
  rw [asks.takeWhile_eq] at split
  exact List.append_cancel_left split

/-- The tilde and the name alone. -/
theorem alone (asks : AsksFor text owner tail) : AsksFor ("~" ++ owner) owner [] :=
  ⟨by simp, asks.whole, .inl rfl⟩

theorem asksForNull_eq (asks : AsksFor text owner tail) :
    asksForNull text = owner.toList.contains (Char.ofNat 0) := by
  unfold asksForNull
  rw [asks.letters]
  exact congrArg (List.contains · (Char.ofNat 0)) asks.takeWhile_eq

theorem expandTilde_of_known (asks : AsksFor text owner tail)
    (known : homes.of? owner = some home) :
    homes.expandTilde text =
      if (withoutEndSlashes home.toList ++ tail).isEmpty then "/"
      else String.ofList (withoutEndSlashes home.toList ++ tail) := by
  unfold expandTilde
  split
  · rename_i rest characters
    obtain rfl : owner.toList ++ tail = rest := by
      simpa [asks.letters] using characters
    rw [asks.takeWhile_eq, asks.dropWhile_eq, String.ofList_toList, known]
  · rename_i other
    exact absurd asks.letters (other _)

theorem expandTilde_of_unknown (asks : AsksFor text owner tail) (unknown : homes.of? owner = none) :
    homes.expandTilde text = text := by
  unfold expandTilde
  split
  · rename_i rest characters
    obtain rfl : owner.toList ++ tail = rest := by
      simpa [asks.letters] using characters
    rw [asks.takeWhile_eq, String.ofList_toList, unknown]
  · rfl

theorem ofString_eq (asks : AsksFor text owner tail) :
    Location.ofString text = ⟨.current, ("~" ++ owner) :: Location.partsOf tail⟩ := by
  have anchored : Location.anchorOf ('~' :: (owner.toList ++ tail)) = .current :=
    Location.anchorOf_of_head?_ne_slash (by simp)
  have first : Location.partsOf ('~' :: owner.toList) = ["~" ++ owner] := by
    rw [Location.partsOf_solid (by simp) (by simp) (by simpa using asks.whole), List.singleton_inj,
      ← String.toList_inj]
    simp
  rw [Location.ofString, asks.letters, anchored, ← List.cons_append,
    Location.partsOf_append asks.apart, first]
  rfl

/-- Behind the name, a location is written with single slashes. -/
theorem tidy (asks : AsksFor text owner tail) :
    ∃ rest, AsksFor (Location.tidy text) owner rest ∧ Location.anchorOf rest ≠ .doubleRoot := by
  have written : Location.IsWritten (Location.partsOf tail) := Location.isWritten_partsOf tail
  unfold Location.tidy
  rw [asks.ofString_eq]
  cases shape : Location.partsOf tail with
  | nil => exact ⟨[], ⟨by simp [Location.toString, Location.Anchor.text], asks.whole, .inl rfl⟩,
      by decide⟩
  | cons next later =>
      rw [shape] at written
      refine ⟨'/' :: (String.intercalate "/" (next :: later)).toList, ⟨?_, asks.whole, .inr rfl⟩,
        ?_⟩
      · simp [Location.toString, Location.Anchor.text]
      · have anchored := Location.anchorOf_text_append .root
          (Location.head?_intercalate_ne_slash written)
        intro doubled
        exact absurd (anchored.symm.trans doubled) (by decide)

theorem expandHome?_eq (asks : AsksFor text owner tail) :
    homes.expandHome? (Location.ofString text) =
      if (homes.expandTilde ("~" ++ owner)).toList.head? = some '~' then none
      else
        some ⟨(Location.ofString (homes.expandTilde ("~" ++ owner))).anchor,
          (Location.ofString (homes.expandTilde ("~" ++ owner))).parts ++
            Location.partsOf tail⟩ := by
  rw [asks.ofString_eq]
  simp [expandHome?]

/-- A home directory that is found is the one of a known owner. -/
theorem known_of_expandHome? (asks : AsksFor text owner tail)
    (read : homes.expandHome? (Location.ofString text) = some location) :
    ∃ home, homes.of? owner = some home := by
  cases found : homes.of? owner with
  | some home => exact ⟨home, rfl⟩
  | none =>
      have unchanged := asks.alone.expandTilde_of_unknown found
      rw [asks.expandHome?_eq, unchanged, if_pos (by simp)] at read
      contradiction

/-- What the settings read is what the indexer reads of the text itself, unless the text goes on
with two slashes behind a home directory that is the root. -/
theorem ofString_expandTilde (asks : AsksFor text owner tail)
    (single : ∀ home, homes.of? owner = some home → (∀ character ∈ home.toList, character = '/') →
      Location.anchorOf tail ≠ .doubleRoot)
    (read : homes.expandHome? (Location.ofString text) = some location) :
    location = Location.ofString (homes.expandTilde text) := by
  obtain ⟨home, known⟩ := asks.known_of_expandHome? read
  rw [asks.expandHome?_eq] at read
  split at read
  · contradiction
  · obtain rfl := Option.some.inj read
    by_cases bare : withoutEndSlashes home.toList = []
    · have directory : homes.expandTilde ("~" ++ owner) = "/" := by
        simp [asks.alone.expandTilde_of_known known, bare]
      have whole : homes.expandTilde text = if tail.isEmpty then "/" else String.ofList tail := by
        simp [asks.expandTilde_of_known known, bare]
      rw [directory, whole]
      rcases asks.apart with rfl | slash
      · rfl
      · obtain ⟨rest, rfl⟩ := List.head?_eq_some_iff.mp slash
        have rooted := (Location.anchorOf_slash rest).resolve_right
          (single home known (withoutEndSlashes_eq_nil_iff.mp bare))
        simp only [Location.ofString, List.isEmpty_cons, Bool.false_eq_true, if_false,
          String.toList_ofList, rooted]
        rfl
    · have directory : homes.expandTilde ("~" ++ owner) =
          String.ofList (withoutEndSlashes home.toList) := by
        simp [asks.alone.expandTilde_of_known known, bare]
      have whole : homes.expandTilde text =
          String.ofList (withoutEndSlashes home.toList ++ tail) := by
        simp [asks.expandTilde_of_known known, bare]
      rw [directory, whole, Location.ofString, Location.ofString, String.toList_ofList,
        String.toList_ofList, Location.anchorOf_append bare (getLast_withoutEndSlashes bare),
        Location.partsOf_append asks.apart]

end AsksFor

/-- A location that is not written with a tilde in front stays as it is. -/
theorem expandHome?_of_head?_ne (written : Location.IsWritten location.parts)
    (plain : location.toString.toList.head? ≠ some '~') :
    homes.expandHome? location = some location := by
  obtain ⟨anchor, parts⟩ := location
  unfold expandHome?
  split
  · rename_i first rest anchored shape
    obtain rfl : anchor = .current := anchored
    obtain rfl : parts = first :: rest := shape
    refine if_neg fun tilde => plain ?_
    have front := Location.head?_intercalate written
    simpa [Location.toString, Location.Anchor.text, tilde] using front
  · rfl

theorem asksForNull_of_tidy (none : asksForNull (Location.tidy text) = false) :
    asksForNull text = false := by
  rcases head?_ne_or_asksFor text with plain | ⟨owner, tail, asks⟩
  · exact asksForNull_of_head?_ne plain
  · obtain ⟨rest, again, _⟩ := asks.tidy
    rwa [asks.asksForNull_eq, ← again.asksForNull_eq]

/-- A text that goes on with two slashes behind a home directory that is the root. -/
def DoublesSlash (homes : Homes) (text : String) : Prop :=
  ∃ owner tail home, AsksFor text owner tail ∧ homes.of? owner = some home ∧
    (∀ character ∈ home.toList, character = '/') ∧ Location.anchorOf tail = .doubleRoot

/-- A text that is written as a location, with its home directory in place, and then is neither
blank nor starts with a tilde. -/
structure Endures (homes : Homes) (text : String) : Prop where
  shown : Text.isBlankText (Location.tidy (homes.expandTilde text)) = false
  plain : (Location.tidy (homes.expandTilde text)).toList.head? ≠ some '~'
  single : ¬ homes.DoublesSlash text

/-- Home directories that are written from the root of all files on. -/
def AreRooted (homes : Homes) : Prop :=
  ∀ owner home, homes.of? owner = some home → home.toList.head? = some '/'

theorem Endures.location_eq (endures : homes.Endures text)
    (read : homes.expandHome? (Location.ofString text) = some location) :
    location = Location.ofString (homes.expandTilde text) := by
  rcases head?_ne_or_asksFor text with plain | ⟨owner, tail, asks⟩
  · have untouched := endures.plain
    rw [expandTilde_of_head?_ne plain] at untouched ⊢
    rw [expandHome?_of_head?_ne (Location.isWritten_partsOf _) untouched] at read
    exact (Option.some.inj read).symm
  · refine asks.ofString_expandTilde ?_ read
    intro home known slashes doubled
    exact endures.single ⟨owner, tail, home, asks, known, slashes, doubled⟩

theorem AreRooted.isAbsolute (rooted : homes.AreRooted) (asks : AsksFor text owner tail)
    (read : homes.expandHome? (Location.ofString text) = some location) :
    location.isAbsolute = true := by
  obtain ⟨home, known⟩ := asks.known_of_expandHome? read
  have front : (homes.expandTilde ("~" ++ owner)).toList.head? = some '/' := by
    rw [asks.alone.expandTilde_of_known known, List.append_nil]
    cases kept : withoutEndSlashes home.toList with
    | nil => rfl
    | cons first rest =>
        have start : withoutEndSlashes home.toList <+: home.toList := List.rdropWhile_prefix _ _
        rw [kept] at start
        obtain ⟨behind, whole⟩ := start
        have slash := rooted owner home known
        rw [← whole] at slash
        simpa using slash
  obtain ⟨back, characters⟩ := List.head?_eq_some_iff.mp front
  rw [asks.expandHome?_eq, Location.ofString, characters] at read
  split at read
  · contradiction
  · obtain rfl := Option.some.inj read
    rcases Location.anchorOf_slash back with anchored | anchored <;>
      simp [Location.isAbsolute, anchored]

/-- The settings read what the indexer reads of the text as a location is written. -/
theorem AreRooted.location_eq (rooted : homes.AreRooted)
    (read : homes.expandHome? (Location.ofString text) = some location) :
    location = Location.ofString (homes.expandTilde (Location.tidy text)) ∧
      Text.isBlankText location.toString = Text.isBlankText (Location.tidy text) ∧
      location.toString.toList.head? ≠ some '~' := by
  rcases head?_ne_or_asksFor (Location.tidy text) with plain | ⟨owner, tail, asks⟩
  · rw [expandHome?_of_head?_ne (Location.isWritten_partsOf _) plain] at read
    obtain rfl := Option.some.inj read
    rw [expandTilde_of_head?_ne plain, Location.ofString_tidy]
    exact ⟨rfl, rfl, plain⟩
  · obtain ⟨rest, again, single⟩ := asks.tidy
    rw [Location.tidy_tidy] at again
    rw [← Location.ofString_tidy] at read
    have absolute := rooted.isAbsolute again read
    have front := Location.head?_toString_of_isAbsolute absolute
    have tilde : Text.isBlank '~' = false := by decide
    refine ⟨again.ofString_expandTilde (fun _ _ _ => single) read, ?_, by simp [front]⟩
    rw [Text.isBlankText_of_head?_slash front]
    simp [Text.isBlankText, again.letters, tilde]

/-- A text that the settings take for a location. -/
structure Reads (homes : Homes) (text : String) (location : Location) : Prop where
  clean : asksForNull (Location.tidy text) = false
  found : homes.expandHome? (Location.ofString text) = some location

end Homes

theorem Settings.reads_of_watchLocation {homes : Homes} {text : String} {location : Location}
    (read : watchLocation homes text = .ok location) : homes.Reads text location := by
  unfold watchLocation at read
  dsimp only at read
  split at read
  · contradiction
  · rename_i none
    split at read
    · rename_i expanded found
      exact ⟨(Bool.not_eq_true _).mp none, found.trans (congrArg some (Except.ok.inj read))⟩
    · contradiction

namespace Indexer

variable {homes : Homes} {current text : String} {watch others : List String}
  {location : Location} {configured : List Location}

theorem rootOf_of_asksForNull (none : Homes.asksForNull text = false) :
    rootOf homes current text = .ok (homes.resolve current text) := by
  rw [rootOf, none, if_neg Bool.false_ne_true]

/-- The indexer reads back a location that is written without a tilde in front. -/
theorem rootOf_toString (written : Location.IsWritten location.parts)
    (plain : location.toString.toList.head? ≠ some '~') :
    rootOf homes current location.toString =
      .ok ((Location.ofString current).join location).collapse := by
  rw [rootOf_of_asksForNull (Homes.asksForNull_of_head?_ne plain), Homes.resolve,
    Homes.expandTilde_of_head?_ne plain, Location.ofString_toString written]

theorem rootsOf_congr
    (same : List.Forall₂ (fun text other => Text.isBlankText text = Text.isBlankText other ∧
      rootOf homes current text = rootOf homes current other) watch others) :
    rootsOf homes current watch = rootsOf homes current others := by
  unfold rootsOf
  induction same with
  | nil => rfl
  | cons first _ ih =>
      obtain ⟨alike, sameRoot⟩ := first
      rw [List.filter_cons, List.filter_cons, alike]
      split
      · rw [List.mapM_cons, List.mapM_cons, sameRoot, ih]
      · exact ih

theorem rootsOf_eq (none : ∀ text ∈ watch, Homes.asksForNull text = false) :
    rootsOf homes current watch =
      .ok ((watch.filter fun text => !Text.isBlankText text).map (homes.resolve current)) :=
  mapM_of_forall fun text member =>
    rootOf_of_asksForNull (none text (List.mem_of_mem_filter member))

theorem rootsOf_filter (watch : List String) :
    rootsOf homes current (watch.filter fun text => !Text.isBlankText text) =
      rootsOf homes current watch := by
  simp only [rootsOf, List.filter_filter, Bool.and_self]

/-- What the settings make of a text that endures them names its root. -/
theorem rootOf_of_endures (current : String) (endures : homes.Endures text)
    (reads : homes.Reads text location) :
    Text.isBlankText location.toString = false ∧
      rootOf homes current location.toString = rootOf homes current text := by
  obtain rfl := endures.location_eq reads.found
  refine ⟨endures.shown, ?_⟩
  rw [rootOf_toString (Location.isWritten_partsOf _) endures.plain,
    rootOf_of_asksForNull (Homes.asksForNull_of_tidy reads.clean), Homes.resolve]

/-- What the settings make of a text names the root of the text as a location is written. -/
theorem rootOf_of_areRooted (current : String) (rooted : homes.AreRooted)
    (reads : homes.Reads text location) :
    Text.isBlankText location.toString = Text.isBlankText (Location.tidy text) ∧
      rootOf homes current location.toString = rootOf homes current (Location.tidy text) := by
  obtain ⟨rfl, shown, plain⟩ := rooted.location_eq reads.found
  refine ⟨shown, ?_⟩
  rw [rootOf_toString (Location.isWritten_partsOf _) plain, rootOf_of_asksForNull reads.clean,
    Homes.resolve]

/-- Roots go through the settings unchanged if each of them endures it. Where all home directories
are written from the root on, they come out as the roots of their texts as locations are written,
and of these the blank ones are missing. -/
theorem roots_through_settings (homes : Homes) (current : String) {watch : List String}
    {configured : List Location}
    (succeeded : Settings.watchLocations homes watch = .ok configured) :
    let named := watch.filter fun text => !Text.isBlankText text
    let direct := rootsOf homes current watch
    let through := rootsOf homes current (configured.map Location.toString)
    direct = .ok (named.map (homes.resolve current)) ∧
    ((∀ text ∈ named, homes.Endures text) → through = direct) ∧
    (homes.AreRooted → through =
      .ok (((named.map Location.tidy).filter fun text => !Text.isBlankText text).map
        (homes.resolve current))) := by
  intro named direct through
  have pairs : List.Forall₂ (fun text location => text ∈ named ∧ homes.Reads text location) named
      configured :=
    (List.forall₂_and_left _ _).mpr ⟨fun _ member => member,
      (forall₂_of_mapM succeeded).imp fun _ _ => Settings.reads_of_watchLocation⟩
  have clean : ∀ text ∈ named, Homes.asksForNull (Location.tidy text) = false :=
    ((List.forall₂_and_left named configured).mp
      (pairs.imp fun _ _ pair => ⟨pair.2.clean, pair.2⟩)).1
  refine ⟨?_, ?_, ?_⟩
  · exact mapM_of_forall fun text member =>
      rootOf_of_asksForNull (Homes.asksForNull_of_tidy (clean text member))
  · intro enduring
    refine Eq.trans ?_ (rootsOf_filter watch)
    apply rootsOf_congr
    rw [List.forall₂_map_left_iff]
    apply List.Forall₂.flip
    refine pairs.imp ?_
    rintro text location ⟨member, reads⟩
    obtain ⟨shown, same⟩ := rootOf_of_endures current (enduring text member) reads
    have solid : Text.isBlankText text = false := by simpa using (List.mem_filter.mp member).2
    exact ⟨shown.trans solid.symm, same⟩
  · intro rooted
    have tidied : through = rootsOf homes current (named.map Location.tidy) := by
      apply rootsOf_congr
      rw [List.forall₂_map_left_iff, List.forall₂_map_right_iff]
      apply List.Forall₂.flip
      exact pairs.imp fun _ _ pair => rootOf_of_areRooted current rooted pair.2
    rw [tidied]
    apply rootsOf_eq
    intro text member
    obtain ⟨source, sourceMember, rfl⟩ := List.mem_map.mp member
    exact clean source sourceMember

/-! The home directory of one user, and two roots that are not written as locations are. -/

def exampleHomes : Homes := Surroundings.homes ⟨"/home/user", "/work"⟩

theorem exampleHomes_of? {owner home : String} (known : exampleHomes.of? owner = some home) :
    home = "/home/user" := by
  simp only [exampleHomes, Surroundings.homes] at known
  split at known
  · exact (Option.some.inj known).symm
  · contradiction

theorem exampleHomes_areRooted : exampleHomes.AreRooted := by
  intro owner home known
  rw [exampleHomes_of? known]
  decide

theorem exampleHomes_single (text : String) : ¬ exampleHomes.DoublesSlash text := by
  rintro ⟨owner, tail, home, _, known, slashes, _⟩
  rw [exampleHomes_of? known] at slashes
  exact absurd (slashes 'h' (by decide)) (by decide)

theorem roots_go_through_settings :
    let watch := ["~//notes/", " ", "./docs//../~a"]
    let configured : List Location :=
      [⟨.root, ["home", "user", "notes"]⟩, ⟨.current, ["docs", "..", "~a"]⟩]
    Settings.watchLocations exampleHomes watch = .ok configured ∧
    (∀ text ∈ watch.filter fun text => !Text.isBlankText text, exampleHomes.Endures text) ∧
    exampleHomes.AreRooted ∧
    rootsOf exampleHomes "/work" (configured.map Location.toString) =
      rootsOf exampleHomes "/work" watch ∧
    rootsOf exampleHomes "/work" watch =
      .ok [⟨.root, ["home", "user", "notes"]⟩, ⟨.root, ["work", "~a"]⟩] := by
  intro watch configured
  have succeeded : Settings.watchLocations exampleHomes watch = .ok configured := by rfl
  have named : (watch.filter fun text => !Text.isBlankText text) =
      ["~//notes/", "./docs//../~a"] := by decide +kernel
  have enduring : ∀ text ∈ watch.filter fun text => !Text.isBlankText text,
      exampleHomes.Endures text := by
    rw [named]
    intro text member
    rcases List.mem_pair.mp member with rfl | rfl
    · exact ⟨by decide +kernel, by decide +kernel, exampleHomes_single _⟩
    · exact ⟨by decide +kernel, by decide +kernel, exampleHomes_single _⟩
  obtain ⟨direct, same, _⟩ := roots_through_settings exampleHomes "/work" succeeded
  refine ⟨succeeded, enduring, exampleHomes_areRooted, same enduring, direct.trans ?_⟩
  rw [named]
  rfl

/-- A tilde that does not stand in front is replaced only by the settings, and a root that is blank
as a location is written comes to nothing. -/
theorem roots_redirected_and_lost :
    let files := FileTree.initial ⟨"/home/user", "/work"⟩
    let watch := ["./~/x", "./ "]
    ∃ settings,
      Settings.ofRequest files { SettingsRequest.empty with watch := watch } = .ok settings ∧
      (make files.surroundings 0 watch [] .caller).map (·.roots) =
        .ok [⟨.root, ["work", "~", "x"]⟩, ⟨.root, ["work", " "]⟩] ∧
      (make files.surroundings 0 (settings.watch.map Location.toString) [] .caller).map (·.roots) =
        .ok [⟨.root, ["home", "user", "x"]⟩] := by
  refine ⟨_, rfl, ?_, ?_⟩
  · rfl
  · rfl

end Indexer

end FolderIndex
