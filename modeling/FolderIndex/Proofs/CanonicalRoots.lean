import FolderIndex.Proofs.WatchRoots

namespace FolderIndex

/-! Watched roots are written in one way. Whatever a text says, its root is named from the root of
all files on, component by component; and a text that takes a detour names the root that it names
without. -/

namespace Location

variable {absolute : Bool} {part : String} {parts kept outer left right : List String}
  {front back detour : List Char} {location : Location} {text other : String}

/-- A component that names something below the directory that it stands in. -/
structure IsOrdinary (part : String) : Prop where
  some : part ≠ ""
  notDot : part ≠ "."
  notDouble : part ≠ ".."
  whole : '/' ∉ part.toList

/-- A location from the root on, each component of which names something below the one before it. -/
structure IsCanonical (location : Location) : Prop where
  rooted : location.isAbsolute = true
  ordinary : ∀ part ∈ location.parts, IsOrdinary part

theorem IsCanonical.isWritten (canonical : location.IsCanonical) : IsWritten location.parts :=
  fun part member =>
    ⟨(canonical.ordinary part member).some, (canonical.ordinary part member).notDot,
      (canonical.ordinary part member).whole⟩

/-- A text that writes a location from the root on: a slash, or two, and components that name
something, with one slash between neighbours. -/
def IsCanonicalText (text : String) : Prop :=
  ∃ start ∈ ["/", "//"], ∃ parts, (∀ part ∈ parts, IsOrdinary part) ∧
    text = start ++ String.intercalate "/" parts

/-- A text with two slashes in front, and not with three. -/
def StartsWithTwo (text : List Char) : Prop :=
  ['/', '/'] <+: text ∧ ¬ ['/', '/', '/'] <+: text

theorem anchorOf_eq_doubleRoot_iff {text : List Char} :
    anchorOf text = .doubleRoot ↔ StartsWithTwo text := by
  unfold StartsWithTwo anchorOf
  split
  · simp
  · rename_i rest single
    have apart : ¬ ['/'] <+: rest := by
      rintro ⟨later, rfl⟩
      exact single later rfl
    simp [apart]
  · rename_i rest _ single
    have apart : ¬ ['/'] <+: rest := by
      rintro ⟨later, rfl⟩
      exact single later rfl
    simp [apart]
  · rename_i none
    have apart : ¬ ['/', '/'] <+: text := by
      rintro ⟨later, rfl⟩
      exact none _ rfl
    simp [apart]

theorem IsCanonical.isCanonicalText (canonical : location.IsCanonical) :
    IsCanonicalText location.toString := by
  obtain ⟨anchor, parts⟩ := location
  have rooted : anchor ≠ .current := by simpa [isAbsolute] using canonical.rooted
  refine ⟨Anchor.text anchor, ?_, parts, canonical.ordinary, if_neg fun none => rooted none.1⟩
  cases anchor with
  | current => contradiction
  | root => simp [Anchor.text]
  | doubleRoot => simp [Anchor.text]

/-- A canonical text has two slashes in front just if its location is kept apart from the root. -/
theorem IsCanonical.anchor_eq_doubleRoot_iff (canonical : location.IsCanonical) :
    ['/', '/'] <+: location.toString.toList ↔ location.anchor = .doubleRoot := by
  obtain ⟨anchor, parts⟩ := location
  have rooted : anchor ≠ .current := by simpa [isAbsolute] using canonical.rooted
  have apart := head?_intercalate_ne_slash canonical.isWritten
  cases anchor with
  | current => contradiction
  | root =>
      cases characters : (String.intercalate "/" parts).toList with
      | nil => simp [toString, Anchor.text, characters]
      | cons first rest =>
          have other : '/' ≠ first := by
            rintro rfl
            simp [characters] at apart
          simp [toString, Anchor.text, characters, other]
  | doubleRoot => simp [toString, Anchor.text]

/-! Double dots are taken back one after the other, against what is kept so far. -/

theorem collapseFrom_append (absolute : Bool) (kept left right : List String) :
    collapseFrom absolute kept (left ++ right) =
      collapseFrom absolute (collapseFrom absolute kept left).reverse right := by
  fun_induction collapseFrom absolute kept left <;> simp_all [collapseFrom]

/-- A directory that is entered and left again does not matter. -/
theorem collapseFrom_enter_leave (absolute : Bool) (kept left right : List String)
    (named : part ≠ "..") :
    collapseFrom absolute kept (left ++ part :: ".." :: right) =
      collapseFrom absolute kept (left ++ right) := by
  rw [collapseFrom_append, collapseFrom_append absolute kept left right]
  simp [collapseFrom, named]

theorem collapseFrom_of_not_mem (none : ".." ∉ parts) :
    collapseFrom absolute kept parts = kept.reverse ++ parts := by
  induction parts generalizing kept with
  | nil => simp [collapseFrom]
  | cons part rest ih =>
      obtain ⟨other, later⟩ := List.ne_and_not_mem_of_not_mem_cons none
      simp [collapseFrom, Ne.symm other, ih later]

/-- From the root on, no double dots are left, since above the root there is only the root. -/
theorem mem_collapseFrom (none : ".." ∉ kept) (member : part ∈ collapseFrom true kept parts) :
    part ≠ ".." ∧ (part ∈ kept ∨ part ∈ parts) := by
  induction parts generalizing kept with
  | nil =>
      have among : part ∈ kept := by simpa [collapseFrom] using member
      exact ⟨fun same => none (same ▸ among), .inl among⟩
  | cons next rest ih =>
      unfold collapseFrom at member
      split at member
      · cases kept with
        | nil =>
            obtain ⟨named, among⟩ := ih none member
            exact ⟨named, .inr (List.mem_cons_of_mem _ (among.resolve_left List.not_mem_nil))⟩
        | cons last others =>
            obtain ⟨other, earlier⟩ := List.ne_and_not_mem_of_not_mem_cons none
            dsimp only at member
            rw [if_neg (Ne.symm other)] at member
            obtain ⟨named, among⟩ := ih earlier member
            exact ⟨named, among.imp (List.mem_cons_of_mem _) (List.mem_cons_of_mem _)⟩
      · rename_i other
        obtain ⟨named, among⟩ := ih (List.not_mem_cons_of_ne_of_not_mem (Ne.symm other) none) member
        refine ⟨named, ?_⟩
        rcases among with inKept | later
        · rcases List.mem_cons.mp inKept with rfl | earlier
          · exact .inr List.mem_cons_self
          · exact .inl earlier
        · exact .inr (List.mem_cons_of_mem _ later)

theorem isCanonical_collapse (rooted : location.isAbsolute = true)
    (written : IsWritten location.parts) : location.collapse.IsCanonical := by
  refine ⟨rooted, fun part member => ?_⟩
  rw [collapse, rooted] at member
  obtain ⟨named, among⟩ := mem_collapseFrom List.not_mem_nil member
  obtain ⟨some, notDot, whole⟩ := written part (among.resolve_left List.not_mem_nil)
  exact ⟨some, notDot, named, whole⟩

theorem IsCanonical.collapse_eq (canonical : location.IsCanonical) :
    location.collapse = location := by
  have none : ".." ∉ location.parts := fun member => (canonical.ordinary _ member).notDouble rfl
  rw [collapse, collapseFrom_of_not_mem none]
  rfl

/-! Detours. -/

/-- What may stand behind a component and lead on to the same place: one more slash, a single dot,
or a name that is taken back at once. -/
inductive Detour : List Char → Prop where
  | slash : Detour ['/']
  | dot : Detour ['/', '.']
  | back {name : String} (ordinary : IsOrdinary name) :
      Detour ('/' :: (name.toList ++ ['/', '.', '.']))

/-- A text that says the same as another but for a detour behind one of its components. -/
structure Respells (text other : String) (front detour back : List Char) : Prop where
  letters : text.toList = front ++ back
  others : other.toList = front ++ (detour ++ back)
  named : ∃ character ∈ front, character ≠ '/'
  apart : back = [] ∨ back.head? = some '/'
  detour : Detour detour

theorem Detour.head? (detours : Detour detour) : (detour ++ back).head? = some '/' := by
  cases detours <;> rfl

/-- The components of a detour come to nothing. -/
theorem Detour.collapseFrom_eq (detours : Detour detour) (apart : back = [] ∨ back.head? = some '/')
    (absolute : Bool) (kept outer : List String) (front : List Char) :
    collapseFrom absolute kept (outer ++ partsOf (front ++ (detour ++ back))) =
      collapseFrom absolute kept (outer ++ partsOf (front ++ back)) := by
  rw [partsOf_append (.inr detours.head?), partsOf_append apart, partsOf_append apart]
  cases detours with
  | slash => rfl
  | dot => rfl
  | @back name ordinary =>
      have entered : partsOf ('/' :: (name.toList ++ ['/', '.', '.'])) = [name, ".."] := by
        have some : name.toList ≠ [] := by simpa using ordinary.some
        have notDot : name.toList ≠ ['.'] := fun dot =>
          ordinary.notDot (String.toList_inj.mp dot)
        rw [partsOf_slash, partsOf_append_slash, partsOf_solid some notDot ordinary.whole,
          String.ofList_toList]
        rfl
      have through := collapseFrom_enter_leave absolute kept (outer ++ partsOf front)
        (partsOf back) ordinary.notDouble
      rw [entered]
      simpa only [List.append_assoc, List.cons_append, List.nil_append] using through

/-- Where a text starts is told by its first component and what is in front of it. -/
theorem anchorOf_append_of_named (named : ∃ character ∈ front, character ≠ '/') :
    anchorOf (front ++ back) = anchorOf front := by
  obtain ⟨character, member, other⟩ := named
  obtain ⟨before, behind, rfl⟩ := List.append_of_mem member
  have start (rest : List Char) :
      anchorOf ((before ++ [character]) ++ rest) = anchorOf (before ++ [character]) :=
    anchorOf_append (by simp) (by simpa using other)
  have whole := start (behind ++ back)
  have shorter := start behind
  simp only [List.append_assoc, List.singleton_append] at whole shorter ⊢
  rw [List.cons_append, whole, shorter]

/-- Texts that start alike and whose components come to the same name the same place. -/
theorem collapse_join_congr {directory : Location}
    (anchors : anchorOf other.toList = anchorOf text.toList)
    (parts : ∀ absolute outer, collapseFrom absolute [] (outer ++ partsOf other.toList) =
      collapseFrom absolute [] (outer ++ partsOf text.toList)) :
    (directory.join (ofString other)).collapse = (directory.join (ofString text)).collapse := by
  unfold join ofString collapse isAbsolute
  dsimp only
  rw [anchors]
  split
  · exact congrArg (Location.mk _) (parts _ [])
  · exact congrArg (Location.mk _) (parts _ directory.parts)

theorem Respells.head? (respells : Respells text other front detour back) :
    other.toList.head? = text.toList.head? := by
  obtain ⟨character, member, _⟩ := respells.named
  obtain ⟨first, rest, rfl⟩ := List.exists_cons_of_ne_nil (List.ne_nil_of_mem member)
  rw [respells.letters, respells.others, List.cons_append, List.cons_append, List.head?_cons,
    List.head?_cons]

theorem Respells.isBlankText (respells : Respells text other front detour back)
    (solid : Text.isBlankText text = false) : Text.isBlankText other = false := by
  rw [Text.isBlankText, List.all_eq_false, respells.letters] at solid
  rw [Text.isBlankText, List.all_eq_false, respells.others]
  obtain ⟨character, member, shown⟩ := solid
  refine ⟨character, ?_, shown⟩
  rw [List.mem_append] at member
  rw [List.mem_append, List.mem_append]
  exact member.imp_right .inr

end Location

namespace Homes

open Location

variable {homes : Homes} {current text other owner home : String}
  {front detour back tail : List Char} {root : Location}

/-! The root of a text. -/

theorem isCanonical_resolve (rooted : (Location.ofString current).isAbsolute = true)
    (text : String) : (homes.resolve current text).IsCanonical := by
  refine isCanonical_collapse (Indexer.resolve_isAbsolute rooted text) ?_
  unfold join
  split
  · exact isWritten_partsOf _
  · intro part member
    exact (List.mem_append.mp member).elim (isWritten_partsOf _ part) (isWritten_partsOf _ part)

/-- A root is its own root, whatever the home directories and the current directory are. -/
theorem resolve_toString (canonical : root.IsCanonical) :
    homes.resolve current root.toString = root := by
  have front := head?_toString_of_isAbsolute canonical.rooted
  have plain : root.toString.toList.head? ≠ some '~' := by simp [front]
  rw [resolve, expandTilde_of_head?_ne plain, ofString_toString canonical.isWritten, join,
    if_pos canonical.rooted, canonical.collapse_eq]

/-- A root starts as its text does with the home directory in place, or else as the current
directory does. -/
theorem anchor_resolve (homes : Homes) (current text : String) :
    (homes.resolve current text).anchor =
      anchorOf (if (homes.expandTilde text).toList.head? = some '/' then homes.expandTilde text
        else current).toList := by
  change ((Location.ofString current).join
    (Location.ofString (homes.expandTilde text))).anchor = _
  generalize homes.expandTilde text = written
  unfold join
  by_cases front : written.toList.head? = some '/'
  · obtain ⟨rest, characters⟩ := List.head?_eq_some_iff.mp front
    have absolute : (Location.ofString written).isAbsolute = true := by
      rcases anchorOf_slash rest with anchored | anchored <;>
        simp [Location.isAbsolute, Location.ofString, characters, anchored]
    rw [if_pos front, if_pos absolute]
    rfl
  · have relative : ¬ (Location.ofString written).isAbsolute = true := by
      simp [Location.isAbsolute, Location.ofString, anchorOf_of_head?_ne_slash front]
    rw [if_neg front, if_neg relative]
    rfl

/-! The root of a text that takes a detour. -/

namespace AsksFor

/-- A text with a tilde asks for one owner. -/
theorem unique (asks : AsksFor text owner tail) {another : String} {rest : List Char}
    (again : AsksFor text another rest) : another = owner ∧ rest = tail := by
  have same : another.toList ++ rest = owner.toList ++ tail := by
    simpa [asks.letters] using again.letters.symm
  have names := again.takeWhile_eq
  have tails := again.dropWhile_eq
  rw [same, asks.takeWhile_eq] at names
  rw [same, asks.dropWhile_eq] at tails
  exact ⟨String.toList_inj.mp names.symm, tails.symm⟩

theorem doublesSlash_iff (asks : AsksFor text owner tail) :
    homes.DoublesSlash text ↔ ∃ home, homes.of? owner = some home ∧
      (∀ character ∈ home.toList, character = '/') ∧ anchorOf tail = .doubleRoot := by
  constructor
  · rintro ⟨another, rest, home, again, known, slashes, doubled⟩
    obtain ⟨rfl, rfl⟩ := asks.unique again
    exact ⟨home, known, slashes, doubled⟩
  · rintro ⟨home, known, slashes, doubled⟩
    exact ⟨owner, tail, home, asks, known, slashes, doubled⟩

/-- A detour comes behind the tilde and the name of the owner. -/
theorem respells (asks : AsksFor text owner tail)
    (respells : Respells text other front detour back) :
    ∃ onward, tail = onward ++ back ∧ AsksFor other owner (onward ++ (detour ++ back)) := by
  have named : '/' ∉ '~' :: owner.toList := by simpa using asks.whole
  have split : ('~' :: owner.toList) ++ tail = front ++ back :=
    asks.letters.symm.trans respells.letters
  -- Behind the text up to the detour there is nothing, or a slash that the name has not.
  obtain ⟨onward, rfl, rfl⟩ : ∃ onward, front = ('~' :: owner.toList) ++ onward ∧
      tail = onward ++ back := by
    rcases List.append_eq_append_iff.mp split with ⟨onward, whole, rest⟩ | ⟨inner, whole, rest⟩
    · exact ⟨onward, whole, rest⟩
    · cases inner with
      | nil => exact ⟨[], by simpa using whole.symm, by simpa using rest.symm⟩
      | cons first later =>
          have slash : first = '/' := by simpa [rest] using respells.apart
          exact absurd (by simp [whole, slash]) named
  refine ⟨onward, rfl, by simpa using respells.others, asks.whole, .inr ?_⟩
  cases onward with
  | nil => exact respells.detour.head?
  | cons first later => simpa using asks.apart

/-- What follows the name is read apart from the home directory that takes its place. -/
theorem partsOf_expandTilde (asks : AsksFor text owner tail) :
    partsOf (homes.expandTilde text).toList =
      partsOf (homes.expandTilde ("~" ++ owner)).toList ++ partsOf tail := by
  cases found : homes.of? owner with
  | none =>
      rw [asks.expandTilde_of_unknown found, asks.alone.expandTilde_of_unknown found, asks.letters,
        ← List.cons_append, partsOf_append asks.apart]
      simp
  | some home =>
      have directory (rest : List Char) (written : AsksFor text owner tail) :
          partsOf (if rest.isEmpty then "/" else String.ofList rest).toList = partsOf rest := by
        cases rest with
        | nil => rfl
        | cons first later => simp
      rw [asks.expandTilde_of_known found, asks.alone.expandTilde_of_known found, directory _ asks,
        directory _ asks, partsOf_append asks.apart, List.append_nil]

/-- Where a home directory starts is told by itself, unless it is the root. -/
theorem anchorOf_expandTilde (asks : AsksFor text owner tail)
    (below : ∀ home, homes.of? owner = some home → ∃ character ∈ home.toList, character ≠ '/') :
    anchorOf (homes.expandTilde text).toList =
      anchorOf (homes.expandTilde ("~" ++ owner)).toList := by
  cases found : homes.of? owner with
  | none =>
      have tilde : ∃ character ∈ '~' :: owner.toList, character ≠ '/' :=
        ⟨'~', List.mem_cons_self, by decide⟩
      rw [asks.expandTilde_of_unknown found, asks.alone.expandTilde_of_unknown found, asks.letters,
        ← List.cons_append, anchorOf_append_of_named tilde]
      simp
  | some home =>
      obtain ⟨character, member, other⟩ := below home found
      have some : withoutEndSlashes home.toList ≠ [] := fun none =>
        other (withoutEndSlashes_eq_nil_iff.mp none character member)
      rw [asks.expandTilde_of_known found, asks.alone.expandTilde_of_known found]
      simp [some, anchorOf_append some (getLast_withoutEndSlashes some)]

/-- Where a home directory is the root, what follows the name tells where the text starts. -/
theorem anchorOf_expandTilde_of_slashes (asks : AsksFor text owner tail)
    (known : homes.of? owner = some home) (slashes : ∀ character ∈ home.toList, character = '/') :
    (homes.expandTilde text).toList.head? = some '/' ∧
      (anchorOf (homes.expandTilde text).toList = .doubleRoot ↔ anchorOf tail = .doubleRoot) := by
  rw [asks.expandTilde_of_known known, withoutEndSlashes_eq_nil_iff.mpr slashes, List.nil_append]
  rcases asks.apart with rfl | slash
  · exact ⟨rfl, by decide⟩
  · have some : tail ≠ [] := by
      rintro rfl
      cases slash
    simp [some, slash]

end AsksFor

theorem not_doublesSlash_of_head?_ne (plain : text.toList.head? ≠ some '~') :
    ¬ homes.DoublesSlash text := by
  rintro ⟨owner, tail, _, asks, _⟩
  simp [asks.letters] at plain

/-- A detour behind a tilde as behind anything else comes to nothing. -/
theorem collapseFrom_expandTilde (respells : Respells text other front detour back)
    (absolute : Bool) (outer : List String) :
    collapseFrom absolute [] (outer ++ partsOf (homes.expandTilde other).toList) =
      collapseFrom absolute [] (outer ++ partsOf (homes.expandTilde text).toList) := by
  rcases head?_ne_or_asksFor text with plain | ⟨owner, tail, asks⟩
  · have plainOther : other.toList.head? ≠ some '~' := by rwa [respells.head?]
    rw [expandTilde_of_head?_ne plain, expandTilde_of_head?_ne plainOther, respells.letters,
      respells.others]
    exact respells.detour.collapseFrom_eq respells.apart absolute [] outer front
  · obtain ⟨onward, rfl, others⟩ := asks.respells respells
    have through := respells.detour.collapseFrom_eq respells.apart absolute []
      (outer ++ partsOf (homes.expandTilde ("~" ++ owner)).toList) onward
    rw [asks.partsOf_expandTilde, others.partsOf_expandTilde]
    simpa only [List.append_assoc] using through

theorem resolve_respelled (respells : Respells text other front detour back)
    (anchors : anchorOf (homes.expandTilde other).toList = anchorOf (homes.expandTilde text).toList) :
    homes.resolve current other = homes.resolve current text :=
  collapse_join_congr anchors (collapseFrom_expandTilde respells)

theorem resolve_respelled_of_plain (respells : Respells text other front detour back)
    (plain : text.toList.head? ≠ some '~') :
    homes.resolve current other = homes.resolve current text := by
  have plainOther : other.toList.head? ≠ some '~' := by rwa [respells.head?]
  refine resolve_respelled respells ?_
  rw [expandTilde_of_head?_ne plain, expandTilde_of_head?_ne plainOther, respells.letters,
    respells.others, anchorOf_append_of_named respells.named,
    anchorOf_append_of_named respells.named]

/-- Behind a home directory that is the root, it matters whether there are two slashes. -/
theorem AsksFor.resolve_eq_iff_of_slashes (asks : AsksFor text owner (tail ++ back))
    (others : AsksFor other owner (tail ++ (detour ++ back)))
    (respells : Respells text other front detour back) (known : homes.of? owner = some home)
    (slashes : ∀ character ∈ home.toList, character = '/') :
    homes.resolve current other = homes.resolve current text ↔
      (anchorOf (tail ++ (detour ++ back)) = .doubleRoot ↔ anchorOf (tail ++ back) = .doubleRoot) := by
  obtain ⟨front, start⟩ := asks.anchorOf_expandTilde_of_slashes known slashes
  obtain ⟨frontOther, startOther⟩ := others.anchorOf_expandTilde_of_slashes known slashes
  rw [← start, ← startOther]
  constructor
  · intro same
    have anchors := congrArg Location.anchor same
    rw [anchor_resolve, anchor_resolve, if_pos front, if_pos frontOther] at anchors
    rw [anchors]
  · intro alike
    refine resolve_respelled respells ?_
    obtain ⟨rest, characters⟩ := List.head?_eq_some_iff.mp front
    obtain ⟨restOther, charactersOther⟩ := List.head?_eq_some_iff.mp frontOther
    rw [characters, charactersOther] at alike ⊢
    rcases anchorOf_slash rest with anchored | anchored <;>
      rcases anchorOf_slash restOther with anchoredOther | anchoredOther <;>
        simp [anchored, anchoredOther] at alike ⊢

/-- A detour leads to the same root, unless it makes or breaks two slashes behind a home directory
that is the root. -/
theorem resolve_respelled_iff (respells : Respells text other front detour back) :
    homes.resolve current other = homes.resolve current text ↔
      (homes.DoublesSlash other ↔ homes.DoublesSlash text) := by
  rcases head?_ne_or_asksFor text with plain | ⟨owner, tail, asks⟩
  · have plainOther : other.toList.head? ≠ some '~' := by rwa [respells.head?]
    simp [resolve_respelled_of_plain respells plain, not_doublesSlash_of_head?_ne plain,
      not_doublesSlash_of_head?_ne plainOther]
  · obtain ⟨onward, rfl, others⟩ := asks.respells respells
    rw [asks.doublesSlash_iff, others.doublesSlash_iff]
    by_cases bare : ∃ home, homes.of? owner = some home ∧ ∀ character ∈ home.toList, character = '/'
    · obtain ⟨home, known, slashes⟩ := bare
      have doubled (tail : List Char) : (∃ home, homes.of? owner = some home ∧
          (∀ character ∈ home.toList, character = '/') ∧ anchorOf tail = .doubleRoot) ↔
            anchorOf tail = .doubleRoot :=
        ⟨fun ⟨_, _, _, doubled⟩ => doubled, fun doubled => ⟨home, known, slashes, doubled⟩⟩
      rw [doubled, doubled]
      exact asks.resolve_eq_iff_of_slashes others respells known slashes
    · have below : ∀ home, homes.of? owner = some home →
          ∃ character ∈ home.toList, character ≠ '/' := by
        intro home known
        by_contra none
        exact bare ⟨home, known, by simpa using none⟩
      have same : homes.resolve current other = homes.resolve current text :=
        resolve_respelled respells
          ((others.anchorOf_expandTilde below).trans (asks.anchorOf_expandTilde below).symm)
      have never (tail : List Char) : ¬ ∃ home, homes.of? owner = some home ∧
          (∀ character ∈ home.toList, character = '/') ∧ anchorOf tail = .doubleRoot :=
        fun ⟨home, known, slashes, _⟩ => bare ⟨home, known, slashes⟩
      simp [same, never]

theorem asksForNull_respelled (respells : Respells text other front detour back) :
    asksForNull other = asksForNull text := by
  rcases head?_ne_or_asksFor text with plain | ⟨owner, tail, asks⟩
  · have plainOther : other.toList.head? ≠ some '~' := by rwa [respells.head?]
    rw [asksForNull_of_head?_ne plain, asksForNull_of_head?_ne plainOther]
  · obtain ⟨onward, _, others⟩ := asks.respells respells
    rw [asks.asksForNull_eq, others.asksForNull_eq]

/-- Another way to write a root: the same text, or one that takes a detour. A detour that makes or
breaks two slashes behind a home directory that is the root does not count. -/
def Rewrites (homes : Homes) (text other : String) : Prop :=
  other = text ∨
    (Text.isBlankText text = false ∧ (∃ front detour back, Respells text other front detour back) ∧
      (homes.DoublesSlash other ↔ homes.DoublesSlash text))

end Homes

namespace Indexer

variable {homes : Homes} {current text other : String} {watch others : List String}
  {roots : List Location}

theorem rootsOf_of_null (null : ∃ text ∈ watch.filter fun text => !Text.isBlankText text,
    Homes.asksForNull text = true) : rootsOf homes current watch = .error .nullInPath := by
  unfold rootsOf
  generalize watch.filter (fun text => !Text.isBlankText text) = named at null
  induction named with
  | nil => simp at null
  | cons text rest ih =>
      rw [List.mapM_cons, rootOf]
      cases first : Homes.asksForNull text with
      | true => rfl
      | false =>
          have later : ∃ text ∈ rest, Homes.asksForNull text = true := by simpa [first] using null
          rw [ih later]
          rfl

/-- The roots of roots are the same, wherever and whoever asks. -/
theorem rootsOf_toString (canonical : ∀ root ∈ roots, root.IsCanonical) :
    rootsOf homes current (roots.map Location.toString) = .ok roots := by
  have front : ∀ text ∈ roots.map Location.toString, text.toList.head? = some '/' := by
    intro text member
    obtain ⟨root, rootMember, rfl⟩ := List.mem_map.mp member
    exact Location.head?_toString_of_isAbsolute (canonical root rootMember).rooted
  have solid : ((roots.map Location.toString).filter fun text => !Text.isBlankText text) =
      roots.map Location.toString := by
    rw [List.filter_eq_self]
    intro text member
    rw [Text.isBlankText_of_head?_slash (front text member), Bool.not_false]
  have clean : ∀ text ∈ roots.map Location.toString, Homes.asksForNull text = false :=
    fun text member => Homes.asksForNull_of_head?_ne (by simp [front text member])
  rw [rootsOf_eq clean, solid, List.map_map, List.map_congr_left (g := id), List.map_id]
  exact fun root member => Homes.resolve_toString (canonical root member)

theorem rootOf_of_rewrites (rewrites : homes.Rewrites text other) :
    Text.isBlankText text = Text.isBlankText other ∧
      rootOf homes current text = rootOf homes current other := by
  rcases rewrites with rfl | ⟨solid, ⟨front, detour, back, respells⟩, doubled⟩
  · exact ⟨rfl, rfl⟩
  · refine ⟨solid.trans (respells.isBlankText solid).symm, ?_⟩
    rw [rootOf, rootOf, Homes.asksForNull_respelled respells,
      (Homes.resolve_respelled_iff respells).mpr doubled]

/-- An indexer has a root for each text that is not blank, in order, unless one of these asks for an
owner whose name has a null in it. Its roots are canonical, two slashes in front being kept only
where there are just two; they are their own roots; and texts that rewrite one another have the same
root, so that the same documents are kept of them. -/
theorem roots_are_canonical (homes : Homes) {current : String}
    (rooted : current.toList.head? = some '/') (watch : List String) :
    let named := watch.filter fun text => !Text.isBlankText text
    ((∃ text ∈ named, Homes.asksForNull text = true) →
      rootsOf homes current watch = .error .nullInPath) ∧
    ((∀ text ∈ named, Homes.asksForNull text = false) →
      rootsOf homes current watch = .ok (named.map (homes.resolve current))) ∧
    (∀ text,
      let written := homes.expandTilde text
      let root := (homes.resolve current text).toString
      Location.IsCanonicalText root ∧
        (['/', '/'] <+: root.toList ↔ Location.StartsWithTwo
          (if written.toList.head? = some '/' then written else current).toList)) ∧
    (∀ roots, rootsOf homes current watch = .ok roots → ∀ (homes : Homes) (current : String),
      rootsOf homes current (roots.map Location.toString) = .ok roots) ∧
    (∀ text other front detour back, Location.Respells text other front detour back →
      (homes.resolve current other = homes.resolve current text ↔
        (homes.DoublesSlash other ↔ homes.DoublesSlash text))) ∧
    (∀ others, List.Forall₂ homes.Rewrites watch others →
      rootsOf homes current others = rootsOf homes current watch ∧
      ∀ surroundings : Surroundings, surroundings.homes = homes → surroundings.current = current →
        ∀ store extensions audience, make surroundings store others extensions audience =
          make surroundings store watch extensions audience) := by
  intro named
  obtain ⟨rest, characters⟩ := List.head?_eq_some_iff.mp rooted
  have absolute : (Location.ofString current).isAbsolute = true := by
    rcases Location.anchorOf_slash rest with anchored | anchored <;>
      simp [Location.isAbsolute, Location.ofString, characters, anchored]
  have canonical (text : String) : (homes.resolve current text).IsCanonical :=
    Homes.isCanonical_resolve absolute text
  refine ⟨rootsOf_of_null, ?_, ?_, ?_, ?_, ?_⟩
  · exact fun clean => mapM_of_forall fun text member => rootOf_of_asksForNull (clean text member)
  · intro text written root
    refine ⟨(canonical text).isCanonicalText, ?_⟩
    rw [(canonical text).anchor_eq_doubleRoot_iff, Homes.anchor_resolve,
      Location.anchorOf_eq_doubleRoot_iff]
  · intro roots made homes current
    refine rootsOf_toString fun root member => ?_
    obtain ⟨text, _, rfl⟩ := of_mem_mapM_rootOf made member
    exact canonical text
  · exact fun text other front detour back respells => Homes.resolve_respelled_iff respells
  · intro others rewrites
    have same {homes : Homes} {current : String}
        (rewrites : List.Forall₂ homes.Rewrites watch others) :
        rootsOf homes current others = rootsOf homes current watch :=
      (rootsOf_congr (rewrites.imp fun _ _ => rootOf_of_rewrites)).symm
    refine ⟨same rewrites, ?_⟩
    rintro surroundings rfl rfl store extensions audience
    rw [make, make, same rewrites]

/-! Roots that are written with and without detours. -/

theorem roots_with_and_without_detours :
    let watch := ["~/notes/../a", " ", "//x/y", "b"]
    let others := ["~//notes/../a", " ", "//x/./y", "b/c/.."]
    let roots : List Location :=
      [⟨.root, ["home", "user", "a"]⟩, ⟨.doubleRoot, ["x", "y"]⟩, ⟨.root, ["work", "b"]⟩]
    "/work".toList.head? = some '/' ∧
    (∀ text ∈ watch.filter fun text => !Text.isBlankText text, Homes.asksForNull text = false) ∧
    List.Forall₂ exampleHomes.Rewrites watch others ∧
    rootsOf exampleHomes "/work" watch = .ok roots ∧
    rootsOf exampleHomes "/work" others = .ok roots ∧
    rootsOf exampleHomes "/work" (roots.map Location.toString) = .ok roots := by
  intro watch others roots
  have rooted : "/work".toList.head? = some '/' := by decide
  have clean : ∀ text ∈ watch.filter fun text => !Text.isBlankText text,
      Homes.asksForNull text = false := by decide +kernel
  have single (text other : String) :
      exampleHomes.DoublesSlash other ↔ exampleHomes.DoublesSlash text :=
    iff_of_false (exampleHomes_single other) (exampleHomes_single text)
  have slash : Location.Respells "~/notes/../a" "~//notes/../a" ['~'] ['/'] "/notes/../a".toList :=
    ⟨by decide, by decide, ⟨'~', by decide, by decide⟩, .inr rfl, .slash⟩
  have dot : Location.Respells "//x/y" "//x/./y" "//x".toList ['/', '.'] "/y".toList :=
    ⟨by decide, by decide, ⟨'x', by decide, by decide⟩, .inr rfl, .dot⟩
  have entered : Location.IsOrdinary "c" := ⟨by decide, by decide, by decide, by decide⟩
  have back : Location.Respells "b" "b/c/.." ['b'] "/c/..".toList [] :=
    ⟨by decide, by decide, ⟨'b', by decide, by decide⟩, .inl rfl, .back entered⟩
  have rewrites : List.Forall₂ exampleHomes.Rewrites watch others :=
    .cons (.inr ⟨by decide, ⟨_, _, _, slash⟩, single _ _⟩) <| .cons (.inl rfl) <|
      .cons (.inr ⟨by decide, ⟨_, _, _, dot⟩, single _ _⟩) <|
        .cons (.inr ⟨by decide, ⟨_, _, _, back⟩, single _ _⟩) .nil
  obtain ⟨_, made, _, again, _, same⟩ := roots_are_canonical exampleHomes rooted watch
  have known : rootsOf exampleHomes "/work" watch = .ok roots := (made clean).trans (by rfl)
  exact ⟨rooted, clean, rewrites, known, (same others rewrites).1.trans known,
    again roots known exampleHomes "/work"⟩

/-- A second slash behind a home directory that is the root leads to another root, and the name of
an owner with a null in it to none at all. -/
theorem root_with_detour_is_another :
    let homes := Surroundings.homes ⟨"/", "/work"⟩
    Text.isBlankText "~/notes" = false ∧ ¬ Location.StartsWithTwo "~/notes".toList ∧
    Location.Respells "~/notes" "~//notes" ['~'] ['/'] "/notes".toList ∧
    rootsOf homes "/work" ["~/notes"] = .ok [⟨.root, ["notes"]⟩] ∧
    rootsOf homes "/work" ["~//notes"] = .ok [⟨.doubleRoot, ["notes"]⟩] ∧
    Text.isBlankText "~\x00/notes" = false ∧
    rootsOf homes "/work" ["~\x00/notes"] = .error .nullInPath := by
  refine ⟨by decide, ?_, ⟨by decide, by decide, ⟨'~', by decide, by decide⟩, .inr rfl, .slash⟩,
    by rfl, by rfl, by decide, by rfl⟩
  rintro ⟨⟨rest, characters⟩, _⟩
  simp at characters

end Indexer

end FolderIndex
