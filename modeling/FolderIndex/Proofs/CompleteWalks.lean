import FolderIndex.Proofs.Text.Words
import FolderIndex.Proofs.WalkOrder

namespace FolderIndex

/-! A walk finds every file below its root that has a wanted extension, each once and in order. If
a directory cannot be listed, it finds those of the directories that come before, and fails. -/

/-- A file by the names that lead to its directory from the root of a walk, and its own. -/
structure Leaf where
  folder : List String
  name : String
deriving DecidableEq

namespace Leaf

/-- The files of a directory come in the order of their names, before those of the directories in
it, and after those of the directories in front of it. -/
def Precedes (left right : Leaf) : Prop :=
  left.folder < right.folder ∨ left.folder = right.folder ∧ left.name < right.name

def path (root : Location) (leaf : Leaf) : String :=
  ((root.descend leaf.folder).child leaf.name).toString

theorem Precedes.asymm {left right : Leaf} (before : left.Precedes right) :
    ¬ right.Precedes left := by
  rintro (earlier | ⟨same, smaller⟩)
  · rcases before with later | ⟨same, _⟩
    · exact lt_asymm later earlier
    · exact earlier.ne same.symm
  · rcases before with later | ⟨_, greater⟩
    · exact later.ne same.symm
    · exact lt_asymm greater smaller

theorem intercalate_append_left {separator : Char} {front left right : List (List Char)}
    (leftSome : left ≠ []) (rightSome : right ≠ [])
    (same : [separator].intercalate (front ++ left) = [separator].intercalate (front ++ right)) :
    [separator].intercalate left = [separator].intercalate right := by
  induction front with
  | nil => exact same
  | cons part rest ih =>
      have parted : ∀ {tail : List (List Char)}, tail ≠ [] →
          [separator].intercalate (part :: (rest ++ tail)) =
            part ++ [separator] ++ [separator].intercalate (rest ++ tail) := by
        intro tail some
        obtain ⟨next, more, shape⟩ := List.exists_cons_of_ne_nil (l := rest ++ tail) (by simp [some])
        rw [shape, List.intercalate_cons_cons]
      rw [List.cons_append, List.cons_append, parted leftSome, parted rightSome] at same
      exact ih (List.append_cancel_left same)

/-- Chains of names below one location are known by their text. -/
theorem parts_eq_of_toString_eq (root : Location) {left right : List String}
    (leftSome : left ≠ []) (rightSome : right ≠ [])
    (leftNames : ∀ name ∈ left, IsName name) (rightNames : ∀ name ∈ right, IsName name)
    (same : (root.descend left).toString = (root.descend right).toString) : left = right := by
  have written : ∀ {names : List String}, names ≠ [] → (root.descend names).toString =
      Location.Anchor.text root.anchor ++ String.intercalate "/" (root.parts ++ names) := by
    intro names some
    simp [Location.toString, Location.descend, some]
  rw [written leftSome, written rightSome] at same
  have texts : String.intercalate "/" (root.parts ++ left) =
      String.intercalate "/" (root.parts ++ right) := by
    have characters := congrArg String.toList same
    rw [String.toList_append, String.toList_append] at characters
    exact String.toList_inj.mp (List.append_cancel_left characters)
  have characters := congrArg String.toList texts
  rw [String.toList_intercalate, String.toList_intercalate, List.map_append, List.map_append]
    at characters
  have tails := intercalate_append_left (by simpa using leftSome) (by simpa using rightSome)
    characters
  have readBack : ∀ {names : List String}, (∀ name ∈ names, IsName name) →
      runs (fun character => decide (character ≠ '/'))
        (['/'].intercalate (names.map String.toList)) = names.map String.toList := by
    intro names valid
    apply runs_intercalate (by decide)
    intro part member
    obtain ⟨name, nameMember, rfl⟩ := List.mem_map.mp member
    have isName := valid name nameMember
    refine ⟨by simpa using isName.some, ?_⟩
    intro character within
    have apart : character ≠ '/' := fun slash => isName.noSlash (slash ▸ within)
    simpa using apart
  have lists : left.map String.toList = right.map String.toList := by
    rw [← readBack leftNames, ← readBack rightNames]
    exact congrArg _ tails
  exact List.map_injective_iff.mpr (fun _ _ => String.toList_inj.mp) lists

theorem eq_of_path_eq {root : Location} {left right : Leaf}
    (leftNames : ∀ name ∈ left.folder ++ [left.name], IsName name)
    (rightNames : ∀ name ∈ right.folder ++ [right.name], IsName name)
    (same : left.path root = right.path root) : left = right := by
  have chains : left.folder ++ [left.name] = right.folder ++ [right.name] := by
    refine parts_eq_of_toString_eq root (by simp) (by simp) leftNames rightNames ?_
    simpa [path, Location.child, Location.descend] using same
  obtain ⟨folders, names⟩ := List.append_inj' chains rfl
  cases left
  cases right
  simp only [List.cons.injEq, and_true] at names
  simp_all

end Leaf

namespace FileTree

/-- Names that lead to a directory below a place, by way of directories alone. -/
def IsFolder (tree : FileTree) (place names : List String) : Prop :=
  ∃ entries, tree.root.at? (place ++ names) = some (.directory entries)

/-- Why the directory that names lead to from a root cannot be listed, if it cannot. -/
def faultAt? (tree : FileTree) (root : Location) (names : List String) : Option FileFault :=
  tree.listingFault? ((Listing.mk root.toString root).descend names)

/-- Files with a wanted extension below a place, which may be links, but not to directories. -/
def Wants (tree : FileTree) (extensions : List String) (root : Location) (place : List String)
    (leaf : Leaf) : Prop :=
  Text.hasExtension extensions leaf.name = true ∧
    ∃ node, tree.root.at? (place ++ (leaf.folder ++ [leaf.name])) = some node ∧
      tree.leadsToDirectory ((Listing.mk root.toString root).descend leaf.folder)
        (leaf.name, node) = false

/-- The first directory in the order of a walk that cannot be listed. -/
structure FirstBarred (tree : FileTree) (root : Location) (place names : List String)
    (fault : FileFault) : Prop where
  folder : tree.IsFolder place names
  barred : tree.faultAt? root names = some fault
  first : ∀ {earlier}, tree.IsFolder place earlier → earlier < names →
    tree.faultAt? root earlier = none

/-- The paths of just those files that have a property, in order. -/
def Lists (root : Location) (wanted : Leaf → Prop) (paths : List String) : Prop :=
  ∃ leaves : List Leaf, leaves.Pairwise Leaf.Precedes ∧ (∀ leaf, leaf ∈ leaves ↔ wanted leaf) ∧
    paths = leaves.map (Leaf.path root)

theorem Lists.unique {root : Location} {wanted same : Leaf → Prop} {paths others : List String}
    (lists : Lists root wanted paths) (listed : Lists root same others)
    (alike : ∀ leaf, wanted leaf ↔ same leaf) : paths = others := by
  obtain ⟨leaves, sorted, members, rfl⟩ := lists
  obtain ⟨twins, twinsSorted, twinMembers, rfl⟩ := listed
  have equal : leaves = twins := by
    refine eq_of_pairwise_of_mem_iff Leaf.Precedes.asymm sorted twinsSorted fun leaf => ?_
    rw [members, twinMembers, alike]
  rw [equal]

theorem Lists.congr {root : Location} {wanted same : Leaf → Prop} {paths : List String}
    (lists : Lists root wanted paths) (alike : ∀ leaf, wanted leaf ↔ same leaf) :
    Lists root same paths := by
  obtain ⟨leaves, sorted, members, rfl⟩ := lists
  exact ⟨leaves, sorted, fun leaf => (members leaf).trans (alike leaf), rfl⟩

variable {tree other : FileTree} {extensions : List String} {root : Location}
  {place names : List String} {fault : FileFault}

theorem FirstBarred.unique {others : List String} {otherFault : FileFault}
    (barred : tree.FirstBarred root place names fault)
    (also : tree.FirstBarred root place others otherFault) :
    names = others ∧ fault = otherFault := by
  have same : names = others := by
    rcases lt_trichotomy names others with before | same | after
    · have free := also.first barred.folder before
      rw [barred.barred] at free
      contradiction
    · exact same
    · have free := barred.first also.folder after
      rw [also.barred] at free
      contradiction
  subst same
  have faults := barred.barred.symm.trans also.barred
  exact ⟨rfl, Option.some.inj faults⟩

/-- The names of the files of a directory that a walk finds there. -/
def wantedNames (tree : FileTree) (extensions : List String) (listing : Listing)
    (entries : List (String × Node)) : List String :=
  (((entries.filter fun entry => !tree.leadsToDirectory listing entry).map (·.1)).mergeSort
    fun left right => decide (left ≤ right)).filter (Text.hasExtension extensions)

theorem filesIn_eq (listing : Listing) (entries : List (String × Node)) :
    tree.filesIn extensions listing entries =
      (tree.wantedNames extensions listing entries).map fun name =>
        (listing.location.child name).toString :=
  rfl

theorem mem_wantedNames {listing : Listing} {entries : List (String × Node)} {name : String} :
    name ∈ tree.wantedNames extensions listing entries ↔
      Text.hasExtension extensions name = true ∧
        ∃ node, (name, node) ∈ entries ∧ tree.leadsToDirectory listing (name, node) = false := by
  simp only [wantedNames, List.mem_filter, List.mem_mergeSort, List.mem_map, Bool.not_eq_true']
  constructor
  · rintro ⟨⟨⟨own, node⟩, ⟨member, file⟩, rfl⟩, extended⟩
    exact ⟨extended, node, member, file⟩
  · rintro ⟨extended, node, member, file⟩
    exact ⟨⟨(name, node), ⟨member, file⟩, rfl⟩, extended⟩

theorem pairwise_wantedNames {listing : Listing} {entries : List (String × Node)}
    (distinct : (entries.map (·.1)).Nodup) :
    (tree.wantedNames extensions listing entries).Pairwise (· < ·) := by
  have files : (((entries.filter fun entry => !tree.leadsToDirectory listing entry).map
      (·.1)).map id).Nodup := by
    rw [List.map_id]
    exact distinct.sublist (List.filter_sublist.map _)
  exact (pairwise_mergeSort_key files).filter _

/-- The files that a walk finds in one directory. -/
def leavesOf (tree : FileTree) (extensions : List String) (root : Location) (folder : Folder) :
    List Leaf :=
  (tree.wantedNames extensions ((Listing.mk root.toString root).descend folder.names)
    folder.entries).map (Leaf.mk folder.names)

theorem visitFolder_eq (tree : FileTree) (extensions : List String) (root : Location)
    (folder : Folder) :
    tree.visitFolder extensions root ⟨root.toString, root⟩ folder =
      match tree.faultAt? root folder.names with
      | some fault =>
          ⟨[], some (.walk (.unlistable root
            ⟨fault, ((Listing.mk root.toString root).descend folder.names).name⟩))⟩
      | none => ⟨(tree.leavesOf extensions root folder).map (Leaf.path root), none⟩ := by
  have located := Listing.location_descend ⟨root.toString, root⟩ folder.names
  unfold visitFolder faultAt?
  dsimp only
  cases tree.listingFault? ((Listing.mk root.toString root).descend folder.names) with
  | some fault => rfl
  | none =>
      dsimp only
      rw [filesIn_eq, located, leavesOf, List.map_map]
      rfl

/-- A walk visits all directories, or those before one that cannot be listed. -/
theorem visits_cases (tree : FileTree) (extensions : List String) (root : Location)
    (folders : List Folder) :
    let walk := Walk.all (folders.map (tree.visitFolder extensions root ⟨root.toString, root⟩))
    let paths (front : List Folder) :=
      (front.flatMap (tree.leavesOf extensions root)).map (Leaf.path root)
    ((∀ folder ∈ folders, tree.faultAt? root folder.names = none) ∧ walk = ⟨paths folders, none⟩) ∨
      ∃ front first back fault, folders = front ++ first :: back ∧
        (∀ folder ∈ front, tree.faultAt? root folder.names = none) ∧
        tree.faultAt? root first.names = some fault ∧
        walk = ⟨paths front, some (.walk (.unlistable root
          ⟨fault, ((Listing.mk root.toString root).descend first.names).name⟩))⟩ := by
  induction folders with
  | nil => exact .inl ⟨by simp, rfl⟩
  | cons folder rest ih =>
      have visited := visitFolder_eq tree extensions root folder
      have onward : Walk.all ((folder :: rest).map
          (tree.visitFolder extensions root ⟨root.toString, root⟩)) =
          (tree.visitFolder extensions root ⟨root.toString, root⟩ folder).andThen
            (Walk.all (rest.map (tree.visitFolder extensions root ⟨root.toString, root⟩))) := rfl
      cases barred : tree.faultAt? root folder.names with
      | some fault =>
          rw [barred] at visited
          refine .inr ⟨[], folder, rest, fault, rfl, by simp, barred, ?_⟩
          rw [onward, visited]
          rfl
      | none =>
          rw [barred] at visited
          rcases ih with ⟨free, walked⟩ | ⟨front, first, back, fault, split, free, stops, walked⟩
          · refine .inl ⟨?_, ?_⟩
            · intro other member
              rcases List.mem_cons.mp member with rfl | later
              · exact barred
              · exact free other later
            · rw [onward, visited, walked]
              simp [Walk.andThen]
          · refine .inr ⟨folder :: front, first, back, fault, by rw [split]; rfl, ?_, stops, ?_⟩
            · intro other member
              rcases List.mem_cons.mp member with rfl | later
              · exact barred
              · exact free other later
            · rw [onward, visited, walked]
              simp [Walk.andThen]

theorem mem_leavesOf (proper : tree.root.Proper) {folder : Folder}
    (reached : tree.root.at? (place ++ folder.names) = some (.directory folder.entries))
    {leaf : Leaf} :
    leaf ∈ tree.leavesOf extensions root folder ↔
      tree.Wants extensions root place leaf ∧ folder.names = leaf.folder := by
  simp only [leavesOf, List.mem_map, mem_wantedNames]
  constructor
  · rintro ⟨name, ⟨extended, node, member, file⟩, rfl⟩
    have found := (proper.mem_entries_iff reached).mp member
    rw [List.append_assoc] at found
    exact ⟨⟨extended, node, found, file⟩, rfl⟩
  · rintro ⟨⟨extended, node, found, file⟩, same⟩
    rw [← same, ← List.append_assoc] at found
    rw [← same] at file
    refine ⟨leaf.name, ⟨extended, node, (proper.mem_entries_iff reached).mpr found, file⟩, ?_⟩
    rw [same]

/-- The files of some directories that follow each other in the order of a walk. -/
theorem lists_leaves (proper : tree.root.Proper) {folders : List Folder}
    (sorted : folders.Pairwise fun left right => left.names < right.names)
    (reached : ∀ folder ∈ folders,
      tree.root.at? (place ++ folder.names) = some (.directory folder.entries)) :
    Lists root (fun leaf => tree.Wants extensions root place leaf ∧
        ∃ folder ∈ folders, folder.names = leaf.folder)
      ((folders.flatMap (tree.leavesOf extensions root)).map (Leaf.path root)) := by
  refine ⟨folders.flatMap (tree.leavesOf extensions root), ?_, ?_, rfl⟩
  · rw [List.pairwise_flatMap]
    refine ⟨?_, sorted.imp_of_mem ?_⟩
    · intro folder member
      rw [leavesOf, List.pairwise_map]
      exact (pairwise_wantedNames (proper.distinct (reached folder member))).imp
        fun before => .inr ⟨rfl, before⟩
    · intro left right leftMember rightMember before first firstMember second secondMember
      have firstFolder := ((mem_leavesOf proper (reached left leftMember)).mp firstMember).2
      have secondFolder := ((mem_leavesOf proper (reached right rightMember)).mp secondMember).2
      rw [firstFolder, secondFolder] at before
      exact .inl before
  · intro leaf
    rw [List.mem_flatMap]
    constructor
    · rintro ⟨folder, member, within⟩
      obtain ⟨wanted, same⟩ := (mem_leavesOf proper (reached folder member)).mp within
      exact ⟨wanted, folder, member, same⟩
    · rintro ⟨wanted, folder, member, same⟩
      exact ⟨folder, member, (mem_leavesOf proper (reached folder member)).mpr ⟨wanted, same⟩⟩

/-- What is wanted is in a directory that is reached. -/
theorem Wants.isFolder {leaf : Leaf} (wanted : tree.Wants extensions root place leaf) :
    tree.IsFolder place leaf.folder := by
  obtain ⟨_, node, found, _⟩ := wanted
  rw [← List.append_assoc] at found
  exact Node.isDirectory_of_at?_append_cons found

theorem Lists.nodup (proper : tree.root.Proper) {wanted : Leaf → Prop} {paths : List String}
    (within : ∀ leaf, wanted leaf → tree.Wants extensions root place leaf)
    (lists : Lists root wanted paths) : paths.Nodup := by
  obtain ⟨leaves, sorted, members, rfl⟩ := lists
  have named : ∀ leaf ∈ leaves, ∀ name ∈ leaf.folder ++ [leaf.name], IsName name := by
    intro leaf member name nameMember
    obtain ⟨_, node, found, _⟩ := within leaf ((members leaf).mp member)
    exact proper.isName_of_at? found name (List.mem_append_right _ nameMember)
  have distinct : leaves.Nodup := sorted.imp fun before same => (same ▸ before).asymm (same ▸ before)
  refine List.Nodup.map_on ?_ distinct
  intro left leftMember right rightMember same
  exact Leaf.eq_of_path_eq (named left leftMember) (named right rightMember) same

/-- What a walk from a root does that leads to the directory at a place: it finds all that is
wanted, or what is wanted in the directories before the first that cannot be listed. -/
inductive Visits (tree : FileTree) (extensions : List String) (root : Location)
    (place : List String) : Walk → Prop
  | through {found} (free : ∀ names, tree.IsFolder place names → tree.faultAt? root names = none)
      (lists : Lists root (tree.Wants extensions root place) found) :
      Visits tree extensions root place ⟨found, none⟩
  | stopped {found names fault} (barred : tree.FirstBarred root place names fault)
      (lists : Lists root
        (fun leaf => tree.Wants extensions root place leaf ∧ leaf.folder < names) found) :
      Visits tree extensions root place ⟨found, some (.walk (.unlistable root
        ⟨fault, ((Listing.mk root.toString root).descend names).name⟩))⟩

theorem Visits.nodup (proper : tree.root.Proper) {walk : Walk}
    (visits : tree.Visits extensions root place walk) : walk.found.Nodup := by
  cases visits with
  | through _ lists => exact lists.nodup proper fun _ => id
  | stopped _ lists => exact lists.nodup proper fun _ => And.left

theorem Visits.of_mem {walk : Walk} {path : String}
    (visits : tree.Visits extensions root place walk) (found : path ∈ walk.found) :
    ∃ leaf : Leaf, path = leaf.path root ∧
      ∃ node, tree.root.at? (place ++ (leaf.folder ++ [leaf.name])) = some node := by
  have among : ∀ {wanted : Leaf → Prop}, Lists root wanted walk.found →
      ∃ leaf, path = leaf.path root ∧ wanted leaf := by
    rintro wanted ⟨leaves, _, members, same⟩
    rw [same] at found
    obtain ⟨leaf, member, rfl⟩ := List.mem_map.mp found
    exact ⟨leaf, rfl, (members leaf).mp member⟩
  cases visits with
  | through _ lists =>
      obtain ⟨leaf, same, _, node, reached, _⟩ := among lists
      exact ⟨leaf, same, node, reached⟩
  | stopped _ lists =>
      obtain ⟨leaf, same, ⟨_, node, reached, _⟩, _⟩ := among lists
      exact ⟨leaf, same, node, reached⟩

theorem visits_walkNode (proper : tree.root.Proper) {entries : List (String × Node)}
    (reached : tree.root.at? place = some (.directory entries)) :
    tree.Visits extensions root place
      (tree.walkNode extensions root ⟨root.toString, root⟩ (.directory entries)) := by
  have properBelow := proper.of_at? reached
  have sorted := Node.pairwise_folders _ properBelow
  have found : ∀ {folder : Folder}, folder ∈ (Node.directory entries).folders ↔
      tree.root.at? (place ++ folder.names) = some (.directory folder.entries) := by
    intro folder
    rw [Node.at?_append_of_eq_some reached]
    exact properBelow.mem_folders_iff
  have listed : ∀ {names}, tree.IsFolder place names →
      ∃ folder ∈ (Node.directory entries).folders, folder.names = names := by
    rintro names ⟨held, there⟩
    exact ⟨⟨names, held⟩, found.mpr there, rfl⟩
  rw [walkNode_eq]
  rcases visits_cases tree extensions root (Node.directory entries).folders with
    ⟨free, walked⟩ | ⟨front, first, back, fault, split, free, barred, walked⟩
  · rw [walked]
    refine .through ?_ ?_
    · intro names folder
      obtain ⟨within, member, rfl⟩ := listed folder
      exact free within member
    · refine (lists_leaves proper sorted fun _ => found.mp).congr fun leaf => ?_
      exact ⟨And.left, fun wanted => ⟨wanted, listed wanted.isFolder⟩⟩
  · rw [walked]
    have firstMember : first ∈ (Node.directory entries).folders := by simp [split]
    rw [split, List.pairwise_append, List.pairwise_cons] at sorted
    obtain ⟨frontSorted, ⟨behind, _⟩, before⟩ := sorted
    have front_iff : ∀ {names}, tree.IsFolder place names →
        ((∃ folder ∈ front, folder.names = names) ↔ names < first.names) := by
      intro names folder
      constructor
      · rintro ⟨within, member, rfl⟩
        exact before within member first (by simp)
      · intro earlier
        obtain ⟨within, member, rfl⟩ := listed folder
        rw [split, List.mem_append, List.mem_cons] at member
        rcases member with inFront | rfl | inBack
        · exact ⟨within, inFront, rfl⟩
        · exact absurd earlier (lt_irrefl _)
        · exact absurd earlier (lt_asymm (behind within inBack))
    refine .stopped ⟨⟨first.entries, found.mp firstMember⟩, barred, ?_⟩ ?_
    · intro names folder earlier
      obtain ⟨within, member, rfl⟩ := (front_iff folder).mpr earlier
      exact free within member
    · have frontFound : ∀ folder ∈ front,
          tree.root.at? (place ++ folder.names) = some (.directory folder.entries) :=
        fun folder member => found.mp (by simp [split, member])
      refine (lists_leaves proper frontSorted frontFound).congr fun leaf => ?_
      exact and_congr_right fun wanted => front_iff wanted.isFolder

theorem visits_walk (proper : tree.root.Proper) (there : tree.exists? root = .ok true) {spot : Spot}
    (leads : tree.directory? root = some spot) :
    tree.Visits extensions root spot.names (tree.walk extensions root) := by
  obtain ⟨entries, held, reached⟩ := directory?_spec leads
  have walked : tree.walk extensions root =
      tree.walkNode extensions root ⟨root.toString, root⟩ (.directory entries) := by
    simp only [walk, there, leads, held]
  rw [walked]
  exact visits_walkNode proper reached

theorem Alike.isFolder_iff (alike : tree.Alike other) :
    tree.IsFolder place names ↔ other.IsFolder place names := by
  have same := alike.root (place ++ names)
  have kind : ∀ node? : Option Node, (∃ entries, node? = some (.directory entries)) ↔
      node?.map Node.bare = some Node.emptyDirectory := by
    intro node?
    rcases node? with _ | node
    · simp
    · cases node <;> simp [Node.bare, Node.emptyDirectory]
  rw [IsFolder, IsFolder, kind, kind, same]

theorem Alike.leadsToDirectory (alike : tree.Alike other) {name : String} {node twin : Node}
    (same : node.bare = twin.bare) (listing : Listing) :
    tree.leadsToDirectory listing (name, node) = other.leadsToDirectory listing (name, twin) := by
  have leads : (tree.directory? (listing.child name).location).isSome =
      (other.directory? (listing.child name).location).isSome := by
    rw [← Option.isSome_map, alike.directory?, Option.isSome_map]
  cases node <;> cases twin <;>
    simp_all [Node.bare, Node.emptyDirectory, FileTree.leadsToDirectory]

theorem Alike.wants_of_wants (alike : tree.Alike other) {leaf : Leaf}
    (wanted : tree.Wants extensions root place leaf) : other.Wants extensions root place leaf := by
  obtain ⟨extended, node, found, file⟩ := wanted
  have same := alike.root (place ++ (leaf.folder ++ [leaf.name]))
  rw [found] at same
  obtain ⟨twin, twinFound, twinBare⟩ := Option.map_eq_some_iff.mp same.symm
  refine ⟨extended, twin, twinFound, ?_⟩
  rw [← alike.leadsToDirectory twinBare.symm]
  exact file

theorem Alike.symm (alike : tree.Alike other) : other.Alike tree :=
  ⟨alike.root.symm, alike.denied.symm, alike.closed.symm, alike.strays.symm,
    alike.surroundings.symm⟩

theorem Alike.wants_iff (alike : tree.Alike other) {leaf : Leaf} :
    tree.Wants extensions root place leaf ↔ other.Wants extensions root place leaf :=
  ⟨alike.wants_of_wants, alike.symm.wants_of_wants⟩

theorem Alike.faultAt? (alike : tree.Alike other) (root : Location) (names : List String) :
    tree.faultAt? root names = other.faultAt? root names := by
  simp only [FileTree.faultAt?, listingFault?, alike.denied]
  rcases alike.spot_cases .target ((Listing.mk root.toString root).descend names).location with
    ⟨fault, first, second⟩ | ⟨spot, twin, first, second, _⟩ <;> rw [first, second]

theorem Alike.firstBarred (alike : tree.Alike other)
    (barred : tree.FirstBarred root place names fault) :
    other.FirstBarred root place names fault where
  folder := alike.isFolder_iff.mp barred.folder
  barred := (alike.faultAt? root names).symm.trans barred.barred
  first folder earlier :=
    (alike.faultAt? root _).symm.trans (barred.first (alike.isFolder_iff.mpr folder) earlier)

/-- What a walk does is the same in trees that differ in the order of listing alone. -/
theorem Visits.unique {walk twin : Walk} (alike : tree.Alike other)
    (visits : tree.Visits extensions root place walk)
    (also : other.Visits extensions root place twin) : walk = twin := by
  cases visits with
  | through free lists =>
      cases also with
      | through _ others =>
          rw [lists.unique others fun _ => alike.wants_iff]
      | stopped barred _ =>
          have listable := free _ (alike.isFolder_iff.mpr barred.folder)
          rw [alike.faultAt?, barred.barred] at listable
          contradiction
  | stopped barred lists =>
      have stopped := alike.firstBarred barred
      cases also with
      | through free _ =>
          have listable := free _ stopped.folder
          rw [stopped.barred] at listable
          contradiction
      | stopped otherBarred others =>
          obtain ⟨rfl, rfl⟩ := stopped.unique otherBarred
          rw [lists.unique others fun _ => and_congr_left' alike.wants_iff]

/-- A walk from a root that is there and leads to a directory finds all that is wanted below it,
or what comes before the first directory that cannot be listed; from any other root it finds
nothing and fails. The order in which directories list what is in them makes no difference. -/
theorem walk_finds_wanted_files (extensions : List String) (proper : tree.root.Proper) {present : Bool}
    (checked : tree.exists? root = .ok present) :
    (present = false → tree.walk extensions root = ⟨[], some (.walk (.rootMissing root))⟩) ∧
    (present = true → tree.directory? root = none →
      tree.walk extensions root = ⟨[], some (.walk (.rootNotDirectory root))⟩) ∧
    (present = true → ∀ spot, tree.directory? root = some spot →
      tree.Visits extensions root spot.names (tree.walk extensions root) ∧
        (tree.walk extensions root).found.Nodup) ∧
    ∀ {other : FileTree}, other.root.Proper → tree.Alike other →
      other.walk extensions root = tree.walk extensions root := by
  refine ⟨?_, ?_, ?_, ?_⟩
  · rintro rfl
    simp only [walk, checked]
  · rintro rfl elsewhere
    simp only [walk, checked, elsewhere]
  · rintro rfl spot leads
    have visited : tree.Visits extensions root spot.names (tree.walk extensions root) :=
      visits_walk proper checked leads
    exact ⟨visited, visited.nodup proper⟩
  · intro other otherProper alike
    have also := (alike.exists? root).symm.trans checked
    have places := alike.directory? root
    cases present with
    | false => simp only [walk, checked, also]
    | true =>
        cases leads : tree.directory? root with
        | none =>
            rw [leads] at places
            have elsewhere : other.directory? root = none := by simpa using places.symm
            simp only [walk, checked, also, leads, elsewhere]
        | some spot =>
            rw [leads] at places
            obtain ⟨twin, twinLeads, same⟩ := Option.map_eq_some_iff.mp places.symm
            have twinVisits : other.Visits extensions root twin.names (other.walk extensions root) :=
              visits_walk otherProper also twinLeads
            rw [same] at twinVisits
            exact twinVisits.unique alike.symm (visits_walk proper checked leads)

/-- A directory with files, a link to itself, a dangling link, one to a directory that cannot be
looked for, and a directory to be denied. -/
def exampleFolder : List (String × Node) :=
  [("vault", .directory [("c.md", .file [])]), ("b.md", .file []), ("loop.md", .link "."),
    ("far.md", .link "/shut/dir"), ("a.md", .link "gone")]

def exampleTree : FileTree :=
  ⟨.directory [("here", .link "work"), ("work", .directory exampleFolder),
      ("shut", .directory [("dir", .emptyDirectory)])],
    ["/here/vault"], [["shut"]], [], ⟨"/home", "/work"⟩⟩

def exampleRoot : Location := ⟨.root, ["here"]⟩

theorem exampleTree_proper : exampleTree.root.Proper := by
  have file : (Node.file []).Proper := Node.proper_of_not_isDirectory rfl
  have link : ∀ target, (Node.link target).Proper := fun _ => Node.proper_of_not_isDirectory rfl
  have vault : (Node.directory [("c.md", .file [])]).Proper :=
    Node.proper_directory (by decide) (by decide) (by simpa using file)
  have folder : (Node.directory exampleFolder).Proper :=
    Node.proper_directory (by decide) (by decide) (by simp [exampleFolder, file, link, vault])
  have bare : Node.emptyDirectory.Proper :=
    Node.proper_directory (by decide) (by decide) (by simp)
  have shut : (Node.directory [("dir", .emptyDirectory)]).Proper :=
    Node.proper_directory (by decide) (by decide) (by simpa using bare)
  exact Node.proper_directory (by decide) (by decide) (by simp [link, folder, shut])

theorem exampleTree_leads :
    exampleTree.directory? exampleRoot = some ⟨["work"], some (.directory exampleFolder)⟩ := by
  rfl

theorem exampleTree_files :
    exampleTree.filesIn [".md"] ⟨"/here", exampleRoot⟩ exampleFolder =
      ["/here/a.md", "/here/b.md", "/here/far.md"] := by
  have files : (exampleFolder.filter fun entry =>
      !exampleTree.leadsToDirectory ⟨"/here", exampleRoot⟩ entry).map (·.1) =
        ["b.md", "far.md", "a.md"] := by
    decide
  have sorted : (["b.md", "far.md", "a.md"].mergeSort fun left right => decide (left ≤ right)) =
      ["a.md", "b.md", "far.md"] := by
    simp [List.mergeSort]
  have wanted : ["a.md", "b.md", "far.md"].filter (Text.hasExtension [".md"]) =
      ["a.md", "b.md", "far.md"] := by
    decide +kernel
  rw [filesIn]
  dsimp only
  rw [files, sorted, wanted]
  decide

theorem exampleTree_walk : exampleTree.walk [".md"] exampleRoot =
    ⟨["/here/a.md", "/here/b.md", "/here/far.md"],
      some (.walk (.unlistable exampleRoot ⟨.permissionDenied, "/here/vault"⟩))⟩ := by
  have there : exampleTree.exists? exampleRoot = .ok true := by decide
  have text : exampleRoot.toString = "/here" := by decide
  have listed : exampleTree.listingFault? ⟨"/here", exampleRoot⟩ = none := by decide
  have barred : exampleTree.walkNode [".md"] exampleRoot
      ((Listing.mk "/here" exampleRoot).child "vault") (.directory [("c.md", .file [])]) =
      ⟨[], some (.walk (.unlistable exampleRoot ⟨.permissionDenied, "/here/vault"⟩))⟩ := by
    have name : ((Listing.mk "/here" exampleRoot).child "vault").name = "/here/vault" := by decide
    have fault : exampleTree.listingFault? ((Listing.mk "/here" exampleRoot).child "vault") =
        some .permissionDenied := by decide
    simp only [walkNode, name, fault]
  simp only [walk, there, exampleTree_leads, text]
  rw [walkNode]
  dsimp only
  rw [listed]
  dsimp only
  rw [exampleTree_files]
  simp only [exampleFolder, walkEntries, barred]
  simp [walkNode, Walk.inNameOrder, List.mergeSort, Walk.andThen, Walk.empty]

theorem walk_of_linked_root :
    let walk := exampleTree.walk [".md"] exampleRoot
    exampleTree.root.Proper ∧ exampleTree.exists? exampleRoot = .ok true ∧
    exampleTree.directory? exampleRoot = some ⟨["work"], some (.directory exampleFolder)⟩ ∧
    exampleTree.Visits [".md"] exampleRoot ["work"] walk ∧ walk.found.Nodup ∧
    walk = ⟨["/here/a.md", "/here/b.md", "/here/far.md"],
      some (.walk (.unlistable exampleRoot ⟨.permissionDenied, "/here/vault"⟩))⟩ := by
  have there : exampleTree.exists? exampleRoot = .ok true := by decide
  obtain ⟨_, _, finds, _⟩ :=
    walk_finds_wanted_files [".md"] exampleTree_proper there
  obtain ⟨visits, nodup⟩ := finds rfl _ exampleTree_leads
  exact ⟨exampleTree_proper, there, exampleTree_leads, visits, nodup, exampleTree_walk⟩

end FileTree

end FolderIndex
