import FolderIndex.Proofs.Readiness

namespace FolderIndex

/-! The files of a database: the one in its place, and those that come and go beside it while it is
in use. Whatever becomes of them, what lies elsewhere in the tree stays, and a name that leads to
the place goes on to lead there. -/

namespace Companion

theorem place_ne (companion : Companion) (place : List String) :
    companion.place place ≠ place := by
  rcases List.eq_nil_or_concat place with rfl | ⟨front, name, rfl⟩
  · simp [Companion.place]
  · rw [List.concat_eq_append, companion.place_append]
    simpa using companion.append_ending_ne name

theorem place_injective {companion other : Companion} {place : List String}
    (same : companion.place place = other.place place) : companion = other := by
  have endings : companion.ending = other.ending := by
    simpa [Companion.place, Companion.name] using same
  cases companion <;> cases other <;> first | rfl | simp [Companion.ending] at endings

end Companion

namespace FileTree

variable {tree other further : FileTree} {place spot names : List String} {node : Node}
  {companion : Companion} {number : Nat}

/-- Where the files of a database lie: its own, and those beside it. -/
def spots (place : List String) : List (List String) :=
  [place, Companion.journal.place place, Companion.log.place place, Companion.logIndex.place place]

/-- A place where a database can be made and used: its directory is there and not closed, nothing
but files stands where its own files go, and their names are not too long. -/
structure Clear (tree : FileTree) (place : List String) : Prop where
  folder : tree.isDirectoryAt place.dropLast = true
  opened : ∀ closed ∈ tree.closed, ¬ closed <+: place
  files : ∀ spot ∈ spots place, (tree.node? spot).all Node.isContent = true
  short : (Companion.journal.name place).utf8ByteSize ≤ nameLimit

/-- A tree that has come from another by changes to the files of a database alone. -/
structure Becomes (place : List String) (tree other : FileTree) : Prop where
  surroundings : other.surroundings = tree.surroundings
  closed : other.closed = tree.closed
  elsewhere : ∀ names, (∀ spot ∈ spots place, ¬ spot <+: names) →
    (other.node? names).map Node.bare = (tree.node? names).map Node.bare
  files : ∀ spot ∈ spots place, (other.node? spot).all Node.isContent = true

theorem companion_mem_spots (companion : Companion) (place : List String) :
    companion.place place ∈ spots place := by
  cases companion <;> simp [spots]

theorem self_mem_spots (place : List String) : place ∈ spots place := by
  simp [spots]

theorem Clear.becomes_self (clear : tree.Clear place) : tree.Becomes place tree :=
  ⟨rfl, rfl, fun _ _ => rfl, clear.files⟩

theorem Becomes.trans (first : tree.Becomes place other) (second : other.Becomes place further) :
    tree.Becomes place further where
  surroundings := second.surroundings.trans first.surroundings
  closed := second.closed.trans first.closed
  elsewhere names apart := (second.elsewhere names apart).trans (first.elsewhere names apart)
  files := second.files

/-- A place that is clear lies in a directory, and so do its spots. -/
theorem Clear.split (clear : tree.Clear place) :
    ∃ front name entries, place = front ++ [name] ∧
      tree.root.at? front = some (.directory entries) := by
  have folder := clear.folder
  unfold isDirectoryAt at folder
  cases found : tree.node? place.dropLast with
  | none => simp [found] at folder
  | some node =>
      rw [found] at folder
      rcases List.eq_nil_or_concat place with rfl | ⟨front, name, rfl⟩
      · have content := clear.files [] (self_mem_spots _)
        rw [List.dropLast_nil] at found
        rw [found] at content
        cases node <;> simp [Node.isContent, Node.isDirectory] at content folder
      · rw [List.concat_eq_append, List.dropLast_concat] at found
        cases node with
        | directory entries => exact ⟨front, name, entries, List.concat_eq_append, found⟩
        | _ => simp [Node.isDirectory] at folder

theorem eq_append_of_mem_spots {front : List String} {name : String}
    (member : spot ∈ spots (front ++ [name])) : ∃ last, spot = front ++ [last] := by
  simp only [spots, Companion.place_append, List.mem_cons, List.not_mem_nil, or_false] at member
  rcases member with rfl | rfl | rfl | rfl <;> exact ⟨_, rfl⟩

/-- What lies above the files of a database is no part of them. -/
theorem not_prefix_of_shorter {front above : List String} {name : String}
    (shorter : above.length ≤ front.length) :
    ∀ spot ∈ spots (front ++ [name]), ¬ spot <+: above := by
  intro spot member below
  obtain ⟨last, rfl⟩ := eq_append_of_mem_spots member
  have lengths := below.length_le
  simp at lengths
  omega

theorem Becomes.directory (becomes : tree.Becomes place other) {entries : List (String × Node)}
    (apart : ∀ spot ∈ spots place, ¬ spot <+: names)
    (folder : tree.root.at? names = some (.directory entries)) :
    ∃ entries, other.root.at? names = some (.directory entries) := by
  have same := becomes.elsewhere names apart
  change (other.root.at? names).map Node.bare = (tree.root.at? names).map Node.bare at same
  rw [folder] at same
  obtain ⟨node, found, bare⟩ := Option.map_eq_some_iff.mp same
  cases node with
  | directory entries => exact ⟨entries, found⟩
  | _ => simp [Node.bare, Node.emptyDirectory] at bare

theorem Clear.becomes (clear : tree.Clear place) (becomes : tree.Becomes place other) :
    other.Clear place := by
  refine ⟨?_, becomes.closed ▸ clear.opened, becomes.files, clear.short⟩
  obtain ⟨front, name, entries, rfl, folder⟩ := clear.split
  obtain ⟨others, found⟩ := becomes.directory (not_prefix_of_shorter (Nat.le_refl _)) folder
  rw [List.dropLast_concat]
  unfold isDirectoryAt node?
  rw [found]
  rfl

theorem Clear.not_isDirectoryAt (clear : tree.Clear place) (member : spot ∈ spots place) :
    tree.isDirectoryAt spot = false := by
  have content := clear.files spot member
  unfold isDirectoryAt
  cases found : tree.node? spot with
  | none => rfl
  | some node =>
      rw [found] at content
      cases node <;> first | rfl | simp [Node.isContent] at content

theorem Clear.not_isLinkAt (clear : tree.Clear place) (member : spot ∈ spots place) :
    tree.isLinkAt spot = false := by
  have content := clear.files spot member
  unfold isLinkAt
  cases found : tree.node? spot with
  | none => rfl
  | some node =>
      rw [found] at content
      cases node <;> first | rfl | simp [Node.isContent] at content

/-! Changes to the files of a database. -/

theorem node?_putAt_self : (tree.putAt names node).node? names = some node :=
  Node.at?_put node tree.root names

theorem Clear.node?_putAt_ne (clear : tree.Clear place)
    (member : spot ∈ spots place) {target : List String} (targetMember : target ∈ spots place)
    (apart : target ≠ spot) :
    (tree.putAt spot node).node? target = tree.node? target := by
  obtain ⟨front, name, entries, rfl, folder⟩ := clear.split
  obtain ⟨last, rfl⟩ := eq_append_of_mem_spots member
  obtain ⟨other, rfl⟩ := eq_append_of_mem_spots targetMember
  exact Node.at?_put_beside fun same => apart (same ▸ rfl)

theorem Clear.becomes_putAt (clear : tree.Clear place) (member : spot ∈ spots place)
    (content : node.isContent = true) : tree.Becomes place (tree.putAt spot node) := by
  refine ⟨rfl, rfl, ?_, ?_⟩
  · intro names apart
    have unlike := apart spot member
    obtain ⟨front, name, entries, rfl, folder⟩ := clear.split
    obtain ⟨last, rfl⟩ := eq_append_of_mem_spots member
    exact Node.bare_at?_put folder unlike
  · intro target targetMember
    by_cases same : target = spot
    · rw [same, node?_putAt_self]
      exact content
    · rw [clear.node?_putAt_ne member targetMember same]
      exact clear.files target targetMember

theorem Clear.becomes_putIfFree (clear : tree.Clear place) (member : spot ∈ spots place)
    (content : node.isContent = true) : tree.Becomes place (tree.putIfFree spot node) := by
  unfold putIfFree
  split
  · exact clear.becomes_self
  · exact clear.becomes_putAt member content

theorem Clear.node?_putIfFree_ne (clear : tree.Clear place)
    (member : spot ∈ spots place) {target : List String} (targetMember : target ∈ spots place)
    (apart : target ≠ spot) :
    (tree.putIfFree spot node).node? target = tree.node? target := by
  unfold putIfFree
  split
  · rfl
  · exact clear.node?_putAt_ne member targetMember apart

theorem Clear.node?_eraseFile_ne (clear : tree.Clear place)
    (member : spot ∈ spots place) {target : List String} (targetMember : target ∈ spots place)
    (apart : target ≠ spot) :
    (tree.eraseFile spot).node? target = tree.node? target := by
  unfold eraseFile
  split
  · obtain ⟨front, name, entries, rfl, folder⟩ := clear.split
    obtain ⟨last, rfl⟩ := eq_append_of_mem_spots member
    obtain ⟨other, rfl⟩ := eq_append_of_mem_spots targetMember
    exact Node.at?_erase_beside fun same => apart (same ▸ rfl)
  · rfl

theorem Clear.becomes_eraseFile (clear : tree.Clear place) (member : spot ∈ spots place) :
    tree.Becomes place (tree.eraseFile spot) := by
  have beside : ∀ target ∈ spots place, target ≠ spot →
      (tree.eraseFile spot).node? target = tree.node? target :=
    fun _ => clear.node?_eraseFile_ne member
  unfold eraseFile at beside ⊢
  split
  · rename_i erased
    simp only [erased, if_true] at beside
    obtain ⟨front, name, entries, rfl, folder⟩ := clear.split
    obtain ⟨last, rfl⟩ := eq_append_of_mem_spots member
    refine ⟨rfl, rfl, fun names apart => Node.bare_at?_erase folder (apart _ member), ?_⟩
    intro target targetMember
    by_cases same : target = front ++ [last]
    · have gone : (tree.root.erase (front ++ [last])).at? (front ++ [last]) = none :=
        Node.at?_erase
      subst same
      unfold node?
      rw [gone]
      rfl
    · rw [beside target targetMember same]
      exact clear.files target targetMember
  · exact clear.becomes_self

/-- A tree with a database in a place, and its log beside it. -/
structure Houses (tree : FileTree) (place : List String) (number : Nat) : Prop where
  indexed : tree.node? place = some (.index number)
  logged : tree.loggedBeside? place = some number

theorem Clear.becomes_withLog (clear : tree.Clear place) :
    tree.Becomes place (tree.withLog place number) :=
  clear.becomes_putAt (companion_mem_spots .log place) rfl

theorem Clear.houses_withLog (clear : tree.Clear place)
    (indexed : tree.node? place = some (.index number)) :
    (tree.withLog place number).Houses place number := by
  constructor
  · unfold withLog
    rw [clear.node?_putAt_ne (companion_mem_spots .log place) (self_mem_spots place)
      (Companion.log.place_ne place).symm]
    exact indexed
  · unfold loggedBeside? withLog
    rw [node?_putAt_self]

theorem Clear.becomes_withCompanions (clear : tree.Clear place) :
    tree.Becomes place (tree.withCompanions place number) := by
  have logged : tree.Becomes place (tree.withLog place number) := clear.becomes_withLog
  exact logged.trans
    ((clear.becomes logged).becomes_putIfFree (companion_mem_spots .logIndex place) rfl)

theorem Clear.houses_withCompanions (clear : tree.Clear place)
    (indexed : tree.node? place = some (.index number)) :
    (tree.withCompanions place number).Houses place number := by
  have houses := clear.houses_withLog indexed
  have kept : ∀ target ∈ spots place, target ≠ Companion.logIndex.place place →
      (tree.withCompanions place number).node? target =
        (tree.withLog place number).node? target := by
    intro target member apart
    exact (clear.becomes clear.becomes_withLog).node?_putIfFree_ne
      (companion_mem_spots .logIndex place) member apart
  constructor
  · rw [kept place (self_mem_spots place) (Companion.logIndex.place_ne place).symm]
    exact houses.indexed
  · have apart : Companion.log.place place ≠ Companion.logIndex.place place :=
      fun same => Companion.noConfusion (Companion.place_injective same)
    have logged := houses.logged
    unfold loggedBeside? at logged ⊢
    rwa [kept _ (companion_mem_spots .log place) apart]

/-- When the last connection to a database ends, its file stays. -/
theorem Clear.withoutCompanions (clear : tree.Clear place) (number : Nat) :
    let after := (tree.putAt place (.index number)).withoutCompanions place
    tree.Becomes place after ∧ after.node? place = some (.index number) := by
  have put : tree.Becomes place (tree.putAt place (.index number)) :=
    clear.becomes_putAt (self_mem_spots place) rfl
  have clearPut := clear.becomes put
  have erased := clearPut.becomes_eraseFile (companion_mem_spots .log place)
  have clearErased := clearPut.becomes erased
  refine ⟨put.trans (erased.trans
    (clearErased.becomes_eraseFile (companion_mem_spots .logIndex place))), ?_⟩
  unfold FileTree.withoutCompanions
  rw [clearErased.node?_eraseFile_ne (companion_mem_spots .logIndex place) (self_mem_spots place)
      (Companion.logIndex.place_ne place).symm,
    clearPut.node?_eraseFile_ne (companion_mem_spots .log place) (self_mem_spots place)
      (Companion.log.place_ne place).symm, node?_putAt_self]

/-! Names of a place. -/

/-- A location that leads to a place, whatever becomes of the files of the database there. -/
def LeadsTo (tree : FileTree) (target : Location) (place : List String) : Prop :=
  ∀ other, tree.Becomes place other → other.place? target = some place

/-- The name of a location, by which a store is opened on the database in a place. -/
structure Names (tree : FileTree) (location : Location) (place : List String) : Prop where
  noNull : hasNull location = false
  address : ∃ target, Address.ofName location.toString = .ok (.file target .create false) ∧
    tree.LeadsTo target place

variable {location target : Location}

theorem LeadsTo.becomes (leads : tree.LeadsTo target place) (becomes : tree.Becomes place other) :
    other.LeadsTo target place :=
  fun further more => leads further (becomes.trans more)

theorem Names.becomes (names : tree.Names location place) (becomes : tree.Becomes place other) :
    other.Names location place := by
  obtain ⟨noNull, target, address, leads⟩ := names
  exact ⟨noNull, target, address, leads.becomes becomes⟩

/-- A chain of names that goes down through open directories, without links and double dots, stands
for itself. -/
theorem placeWith_plain {root : Node} {closed : List (List String)}
    {jump : List String → List String → Option (List String)} {here parts : List String}
    (plain : ∀ part ∈ parts, part ≠ ".." ∧ part.utf8ByteSize ≤ nameLimit)
    (folders : ∀ front back, parts = front ++ back → back ≠ [] →
      ∃ entries, root.at? (here ++ front) = some (.directory entries))
    (opened : ∀ place ∈ closed, ¬ place <+: here ++ parts)
    (ending : (root.at? (here ++ parts)).any Node.isLink = false) :
    root.placeWith closed jump here parts = some (here ++ parts) := by
  induction parts generalizing here with
  | nil => simp [Node.placeWith]
  | cons name rest ih =>
      obtain ⟨notAbove, short⟩ := plain name List.mem_cons_self
      obtain ⟨entries, folder⟩ := folders [] (name :: rest) rfl (by simp)
      rw [List.append_nil] at folder
      have onward : root.placeWith closed jump (here ++ [name]) rest =
          some (here ++ ([name] ++ rest)) := by
        rw [← List.append_assoc here [name] rest]
        refine ih (fun part member => plain part (List.mem_cons_of_mem _ member)) ?_ ?_ ?_
        · intro front back split more
          have below := folders (name :: front) back (by rw [split, List.cons_append]) more
          simpa using below
        · simpa using opened
        · simpa using ending
      have notLink : (root.at? (here ++ [name])).any Node.isLink = false := by
        cases rest with
        | nil => exact ending
        | cons next more =>
            obtain ⟨below, found⟩ := folders [name] (next :: more) rfl (by simp)
            rw [found]
            rfl
      have passable : closed.any (·.isPrefixOf here) = false := by
        rw [List.any_eq_false]
        intro place member above
        have prefixed := List.isPrefixOf_iff_prefix.mp above
        exact opened place member (prefixed.trans (List.prefix_append here _))
      have open' : ¬ (decide (nameLimit < name.utf8ByteSize) ||
          (root.at? here).any Node.isContent || closed.any (·.isPrefixOf here)) = true := by
        rw [folder, passable]
        simpa [Node.isContent] using short
      rw [Node.placeWith, if_neg notAbove, if_neg open']
      cases found : root.at? (here ++ [name]) with
      | none => exact onward
      | some node =>
          rw [found] at notLink
          cases node with
          | link target => simp [Node.isLink] at notLink
          | _ => exact onward

/-- Above a place that is clear there are directories alone. -/
theorem Clear.folder_above (clear : tree.Clear place) {above below : List String}
    (split : above ++ below = place) (more : below ≠ []) (becomes : tree.Becomes place other) :
    ∃ entries, other.root.at? above = some (.directory entries) := by
  obtain ⟨front, name, entries, rfl, folder⟩ := clear.split
  rcases List.eq_nil_or_concat below with rfl | ⟨middle, last, rfl⟩
  · contradiction
  · rw [List.concat_eq_append, ← List.append_assoc] at split
    obtain ⟨rfl, _⟩ := List.append_inj' split rfl
    have found : ∃ entries, tree.root.at? above = some (.directory entries) := by
      cases middle with
      | nil => exact ⟨entries, by simpa using folder⟩
      | cons next rest => exact Node.isDirectory_of_at?_append_cons folder
    obtain ⟨held, aboveFolder⟩ := found
    exact becomes.directory (not_prefix_of_shorter (by simp)) aboveFolder

/-- A location without double dots that is spelled as the place is leads to it. -/
theorem Clear.leadsTo (clear : tree.Clear place)
    (spelled : tree.start target ++ target.parts = place)
    (plain : ∀ part ∈ target.parts, part ≠ ".." ∧ part.utf8ByteSize ≤ nameLimit)
    (short : placeSize place ≤ placeLimit) : tree.LeadsTo target place := by
  intro other becomes
  have start : other.start target = tree.start target := by
    unfold FileTree.start
    rw [becomes.surroundings]
  have reached : other.root.placeTo other.closed placeLinkLimit (other.start target) target.parts =
      some place := by
    rw [start, ← spelled]
    refine placeWith_plain plain ?_ ?_ ?_
    · intro front back split more
      have whole : (tree.start target ++ front) ++ back = place := by
        rw [List.append_assoc, ← split, spelled]
      exact clear.folder_above whole more becomes
    · rw [spelled, becomes.closed]
      exact clear.opened
    · rw [spelled]
      exact (clear.becomes becomes).not_isLinkAt (self_mem_spots place)
  unfold place?
  rw [reached]
  simp [short]

end FileTree

end FolderIndex
