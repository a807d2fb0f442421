import FolderIndex.Proofs.Sorting
import FolderIndex.Proofs.Trees

namespace FolderIndex

/-! The order of a walk. It comes to the directories that are reached without links one after the
other, each before those in it, and those beside each other in the order of their names, and it
ends at the first that cannot be listed. -/

/-- A directory: the names that lead to it, and what is in it. -/
structure Folder where
  names : List String
  entries : List (String × Node)

def Folder.under (name : String) (folder : Folder) : Folder :=
  ⟨name :: folder.names, folder.entries⟩

namespace Node

mutual

/-- The directories of a tree, in the order in which a walk comes to them. -/
def folders : Node → List Folder
  | .directory entries =>
      let inOrder := (foldersBelow entries).mergeSort fun left right => decide (left.1 ≤ right.1)
      ⟨[], entries⟩ :: inOrder.flatMap (·.2)
  | _ => []

def foldersBelow : List (String × Node) → List (String × List Folder)
  | [] => []
  | (name, node) :: rest => (name, (folders node).map (Folder.under name)) :: foldersBelow rest

end

variable {node : Node} {entries : List (String × Node)} {names : List String}

theorem foldersBelow_eq (entries : List (String × Node)) :
    foldersBelow entries =
      entries.map fun entry => (entry.1, entry.2.folders.map (Folder.under entry.1)) := by
  induction entries with
  | nil => rfl
  | cons entry rest ih => rw [foldersBelow, ih, List.map_cons]

theorem mem_folders_directory {folder : Folder} :
    folder ∈ (Node.directory entries).folders ↔
      folder = ⟨[], entries⟩ ∨ ∃ entry ∈ entries, ∃ below ∈ entry.2.folders,
        folder = below.under entry.1 := by
  rw [folders, List.mem_cons, foldersBelow_eq]
  refine or_congr_right ⟨?_, ?_⟩
  · intro member
    obtain ⟨group, groupMember, folderMember⟩ := List.mem_flatMap.mp member
    obtain ⟨entry, entryMember, rfl⟩ := List.mem_map.mp (List.mem_mergeSort.mp groupMember)
    obtain ⟨below, belowMember, same⟩ := List.mem_map.mp folderMember
    exact ⟨entry, entryMember, below, belowMember, same.symm⟩
  · rintro ⟨entry, entryMember, below, belowMember, rfl⟩
    refine List.mem_flatMap.mpr ⟨_, List.mem_mergeSort.mpr (List.mem_map_of_mem entryMember), ?_⟩
    exact List.mem_map_of_mem belowMember

/-- The directories of a tree are all those that names lead to. -/
theorem Proper.mem_folders_iff (proper : node.Proper) :
    (⟨names, entries⟩ : Folder) ∈ node.folders ↔ node.at? names = some (.directory entries) := by
  induction names generalizing node with
  | nil =>
      cases node with
      | directory held =>
          rw [mem_folders_directory]
          simp [at?, Folder.under, eq_comm]
      | _ => simp [folders, at?]
  | cons name rest ih =>
      cases node with
      | directory held =>
          rw [mem_folders_directory, at?_cons, Option.bind_eq_some_iff]
          have folder : (Node.directory held).at? [] = some (.directory held) := rfl
          constructor
          · rintro (same | ⟨entry, member, below, belowMember, same⟩)
            · simp at same
            · simp only [Folder.under, Folder.mk.injEq, List.cons.injEq] at same
              obtain ⟨⟨rfl, rfl⟩, rfl⟩ := same
              have found : (Node.directory held).at? ([] ++ [entry.1]) = some entry.2 :=
                (proper.mem_entries_iff folder).mp member
              exact ⟨entry.2, (lookup_eq_some_iff (proper.distinct folder)).mpr member,
                (ih (proper.of_at? found)).mp belowMember⟩
          · rintro ⟨below, looked, onward⟩
            have member := (lookup_eq_some_iff (proper.distinct folder)).mp looked
            have found : (Node.directory held).at? ([] ++ [name]) = some below :=
              (proper.mem_entries_iff folder).mp member
            exact .inr ⟨(name, below), member, ⟨rest, entries⟩,
              (ih (proper.of_at? found)).mpr onward, rfl⟩
      | _ => simp [folders, at?_cons, Node.entries]

mutual

/-- A walk comes to each directory before those in it, and to those beside each other in the
order of their names. -/
theorem pairwise_folders (node : Node) (proper : node.Proper) :
    node.folders.Pairwise fun left right => left.names < right.names := by
  cases node with
  | directory entries =>
      have folder : (Node.directory entries).at? [] = some (.directory entries) := rfl
      have distinct : ((foldersBelow entries).map (·.1)).Nodup := by
        rw [foldersBelow_eq, List.map_map]
        exact proper.distinct folder
      have inOrder := pairwise_mergeSort_key distinct
      have below := pairwise_foldersBelow entries fun entry member =>
        proper.of_at? ((proper.mem_entries_iff folder).mp member)
      rw [folders, List.pairwise_cons, List.pairwise_flatMap]
      refine ⟨?_, ?_, ?_⟩
      · intro other member
        obtain ⟨group, groupMember, otherMember⟩ := List.mem_flatMap.mp member
        have grouped := (below group (List.mem_mergeSort.mp groupMember)).2 other otherMember
        obtain ⟨inner, same⟩ := grouped
        rw [same]
        exact List.nil_lt_cons _ _
      · intro group member
        exact (below group (List.mem_mergeSort.mp member)).1
      · refine inOrder.imp_of_mem ?_
        intro left right leftMember rightMember before first firstMember second secondMember
        obtain ⟨leftInner, leftNames⟩ :=
          (below left (List.mem_mergeSort.mp leftMember)).2 first firstMember
        obtain ⟨rightInner, rightNames⟩ :=
          (below right (List.mem_mergeSort.mp rightMember)).2 second secondMember
        rw [leftNames, rightNames]
        exact List.cons_lt_cons_iff.mpr (.inl before)
  | _ => simp [folders]

theorem pairwise_foldersBelow (entries : List (String × Node))
    (proper : ∀ entry ∈ entries, entry.2.Proper) :
    ∀ group ∈ foldersBelow entries,
      (group.2.Pairwise fun left right => left.names < right.names) ∧
        ∀ folder ∈ group.2, ∃ inner, folder.names = group.1 :: inner := by
  cases entries with
  | nil => simp [foldersBelow]
  | cons entry rest =>
      obtain ⟨name, node⟩ := entry
      intro group member
      rcases List.mem_cons.mp member with rfl | later
      · refine ⟨?_, ?_⟩
        · rw [List.pairwise_map]
          refine (pairwise_folders node (proper (name, node) (by simp))).imp ?_
          intro left right before
          exact List.cons_lt_cons_iff.mpr (.inr ⟨rfl, before⟩)
        · intro folder folderMember
          obtain ⟨inner, _, rfl⟩ := List.mem_map.mp folderMember
          exact ⟨inner.names, rfl⟩
      · exact pairwise_foldersBelow rest (fun other otherMember =>
          proper other (by simp [otherMember])) group later

end

end Node

namespace Walk

/-- Walks one after the other, up to the first that fails. -/
def all (walks : List Walk) : Walk :=
  walks.foldr andThen empty

theorem all_append (left right : List Walk) : all (left ++ right) = (all left).andThen (all right) := by
  induction left with
  | nil => exact (empty_andThen _).symm
  | cons walk rest ih =>
      change walk.andThen (all (rest ++ right)) = (walk.andThen (all rest)).andThen (all right)
      rw [ih, andThen_assoc]

theorem all_flatMap {α : Type} (walks : α → List Walk) (items : List α) :
    all (items.flatMap walks) = all (items.map fun item => all (walks item)) := by
  induction items with
  | nil => rfl
  | cons item rest ih =>
      rw [List.flatMap_cons, all_append, ih]
      rfl

end Walk

/-- The location that a chain of names leads to from another. -/
def Location.descend (location : Location) (names : List String) : Location :=
  ⟨location.anchor, location.parts ++ names⟩

namespace Listing

/-- How the directory is listed that a chain of names leads to. -/
def descend (listing : Listing) (names : List String) : Listing :=
  names.foldl child listing

theorem location_descend (listing : Listing) (names : List String) :
    (listing.descend names).location = listing.location.descend names := by
  induction names generalizing listing with
  | nil => simp [descend, Location.descend]
  | cons name rest ih =>
      change ((listing.child name).descend rest).location = _
      rw [ih]
      simp [child, Location.child, Location.descend]

end Listing

namespace FileTree

variable {tree : FileTree} {extensions : List String} {root : Location} {listing : Listing}

/-- What a walk does in one directory. -/
def visitFolder (tree : FileTree) (extensions : List String) (root : Location)
    (listing : Listing) (folder : Folder) : Walk :=
  let within := listing.descend folder.names
  match tree.listingFault? within with
  | some fault => ⟨[], some (.walk (.unlistable root ⟨fault, within.name⟩))⟩
  | none => ⟨tree.filesIn extensions within folder.entries, none⟩

mutual

/-- A walk visits its directories in their order. -/
theorem walkNode_eq (listing : Listing) (node : Node) :
    tree.walkNode extensions root listing node =
      Walk.all (node.folders.map (tree.visitFolder extensions root listing)) := by
  cases node with
  | directory entries =>
      have below := walkEntries_eq listing entries
      let groups := (Node.foldersBelow entries).mergeSort fun left right => decide (left.1 ≤ right.1)
      have sorted : (tree.walkEntries extensions root listing entries).mergeSort
          (fun left right => decide (left.1 ≤ right.1)) = groups.map fun group =>
            (group.1, Walk.all (group.2.map (tree.visitFolder extensions root listing))) := by
        rw [below]
        symm
        apply List.map_mergeSort
        intro left _ right _
        rfl
      have onward : Walk.inNameOrder (tree.walkEntries extensions root listing entries) =
          Walk.all ((groups.flatMap (·.2)).map (tree.visitFolder extensions root listing)) := by
        rw [Walk.inNameOrder, sorted, List.map_map, List.map_flatMap, Walk.all_flatMap]
        rfl
      rw [walkNode, Node.folders, List.map_cons, onward]
      change _ = (tree.visitFolder extensions root listing ⟨[], entries⟩).andThen _
      unfold visitFolder
      dsimp only [Listing.descend, List.foldl_nil]
      cases tree.listingFault? listing <;> rfl
  | _ => rfl

theorem walkEntries_eq (listing : Listing) (entries : List (String × Node)) :
    tree.walkEntries extensions root listing entries =
      (Node.foldersBelow entries).map fun group =>
        (group.1, Walk.all (group.2.map (tree.visitFolder extensions root listing))) := by
  cases entries with
  | nil => rfl
  | cons entry rest =>
      obtain ⟨name, node⟩ := entry
      rw [walkEntries, Node.foldersBelow, List.map_cons, walkNode_eq (listing.child name) node,
        walkEntries_eq listing rest, List.map_map]
      rfl

end

end FileTree

end FolderIndex
