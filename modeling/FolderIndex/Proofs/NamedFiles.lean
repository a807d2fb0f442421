import FolderIndex.Proofs.CompleteWalks
import FolderIndex.Proofs.Text.Casing
import FolderIndex.Settings

namespace FolderIndex

/-! Files that are named with an extension, and which of them a walk finds: all in directories that
it lists, but those whose names come to a last sigma of a word in the extension. -/

namespace FileTree

/-- A file below the root of a walk that comes to its directory: neither this one nor any that is
listed before it is barred. -/
structure Reaches (tree : FileTree) (root : Location) (place : List String) (leaf : Leaf) :
    Prop where
  file : ∃ node, tree.root.at? (place ++ (leaf.folder ++ [leaf.name])) = some node ∧
    tree.leadsToDirectory ((Listing.mk root.toString root).descend leaf.folder)
      (leaf.name, node) = false
  listed : ∀ names, tree.IsFolder place names → names ≤ leaf.folder →
    tree.faultAt? root names = none

variable {tree : FileTree} {extensions : List String} {root : Location} {spot : Spot} {leaf : Leaf}

/-- A walk finds the files that it comes to and that have a wanted extension. -/
theorem mem_walk_of_reaches (proper : tree.root.Proper) (there : tree.exists? root = .ok true)
    (leads : tree.directory? root = some spot) (reaches : tree.Reaches root spot.names leaf)
    (extended : Text.hasExtension extensions leaf.name = true) :
    leaf.path root ∈ (tree.walk extensions root).found := by
  have wanted : tree.Wants extensions root spot.names leaf := ⟨extended, reaches.file⟩
  have visits : tree.Visits extensions root spot.names (tree.walk extensions root) :=
    visits_walk proper there leads
  generalize tree.walk extensions root = walk at visits
  cases visits with
  | through free lists =>
      obtain ⟨leaves, _, members, rfl⟩ := lists
      exact List.mem_map_of_mem ((members leaf).mpr wanted)
  | stopped barred lists =>
      rename_i names fault
      have before : leaf.folder < names := by
        by_contra behind
        have listable := reaches.listed names barred.folder (not_lt.mp behind)
        rw [barred.barred] at listable
        cases listable
      obtain ⟨leaves, _, members, rfl⟩ := lists
      exact List.mem_map_of_mem ((members leaf).mpr ⟨wanted, before⟩)

end FileTree

/-- The extensions that files are looked for by: as they are given, or as settings have them, with a
dot in front. -/
inductive Configures : String → List String → Prop where
  | given {extension : String} {extensions : List String} (member : extension ∈ extensions) :
      Configures extension extensions
  | dotted {files : FileTree} {request : SettingsRequest} {settings : Settings} {extension : String}
      (made : Settings.ofRequest files request = .ok settings)
      (member : extension ∈ request.extensions) :
      Configures (Settings.dotted extension) settings.extensions

variable {extension : String} {extensions : List String}

theorem Settings.extensions_of_made {files : FileTree} {request : SettingsRequest}
    {settings : Settings} (made : Settings.ofRequest files request = .ok settings) :
    settings.extensions = request.extensions.map Settings.dotted := by
  unfold Settings.ofRequest at made
  cases watched : Settings.watchLocations files.surroundings.homes request.watch with
  | error failure =>
      rw [watched] at made
      cases made
  | ok watch =>
      rw [watched] at made
      dsimp only [bind, Except.bind] at made
      split at made
      · cases made
      · cases made
        rfl

theorem Configures.mem (configures : Configures extension extensions) : extension ∈ extensions := by
  cases configures with
  | given member => exact member
  | dotted made member =>
      rw [Settings.extensions_of_made made]
      exact List.mem_map_of_mem member

theorem hasExtension_append (member : extension ∈ extensions) {stem : String}
    (apart : ¬ Text.EndsWordIn stem extension) :
    Text.hasExtension extensions (stem ++ extension) = true :=
  List.any_eq_true.mpr ⟨extension, member, (Text.lower_isSuffixOf_append stem extension).mpr apart⟩

/-- A name that ends in an extension is selected by it, unless the name comes to a last sigma of a
word in the extension. So a walk finds all other files with such names in the directories that it
lists. -/
theorem names_with_extension_are_selected (stem extension : String) :
    (Text.hasExtension [extension] (stem ++ extension) = true ↔
      ¬ Text.EndsWordIn stem extension) ∧
    ∀ extensions, Configures extension extensions → ¬ Text.EndsWordIn stem extension →
      Text.hasExtension extensions (stem ++ extension) = true ∧
      ∀ (tree : FileTree) (root : Location) (spot : Spot) (folder : List String),
        tree.root.Proper → tree.exists? root = .ok true → tree.directory? root = some spot →
        tree.Reaches root spot.names ⟨folder, stem ++ extension⟩ →
        (Leaf.mk folder (stem ++ extension)).path root ∈ (tree.walk extensions root).found := by
  constructor
  · rw [← Text.lower_isSuffixOf_append, Text.hasExtension, List.any_cons, List.any_nil,
      Bool.or_false]
  · intro extensions configures apart
    have selected := hasExtension_append configures.mem apart
    refine ⟨selected, ?_⟩
    intro tree root spot folder proper there leads reaches
    exact FileTree.mem_walk_of_reaches proper there leads reaches selected

theorem exampleTree_reaches :
    FileTree.exampleTree.Reaches FileTree.exampleRoot ["work"] ⟨[], "b.md"⟩ := by
  refine ⟨⟨.file [], by rfl, rfl⟩, ?_⟩
  intro names _ first
  have top : names = [] := by
    cases names with
    | nil => rfl
    | cons name rest => exact absurd first (not_le.mpr (List.nil_lt_cons _ _))
  subst top
  decide

theorem file_before_denied_directory_is_found :
    Configures ".md" [".txt", ".md"] ∧ ¬ Text.EndsWordIn "b" ".md" ∧
    FileTree.exampleTree.root.Proper ∧
    FileTree.exampleTree.Reaches FileTree.exampleRoot ["work"] ⟨[], "b" ++ ".md"⟩ ∧
    "/here/b.md" ∈ (FileTree.exampleTree.walk [".txt", ".md"] FileTree.exampleRoot).found := by
  have configures : Configures ".md" [".txt", ".md"] := .given (by simp)
  have apart : ¬ Text.EndsWordIn "b" ".md" := by
    rw [← Text.lower_isSuffixOf_append]
    decide +kernel
  have there : FileTree.exampleTree.exists? FileTree.exampleRoot = .ok true := by decide
  have found := ((names_with_extension_are_selected "b" ".md").2 _ configures apart).2
    FileTree.exampleTree FileTree.exampleRoot _ [] FileTree.exampleTree_proper there
    FileTree.exampleTree_leads exampleTree_reaches
  exact ⟨configures, apart, FileTree.exampleTree_proper, exampleTree_reaches, found⟩

/-- A word that ends in the extension of a name ends otherwise than the extension alone. -/
theorem final_sigma_is_passed_over :
    Configures ".\u03A3" [".\u03A3"] ∧
    Text.hasExtension [".\u03A3"] ("a" ++ ".\u03A3") = false ∧
    ¬ ∀ (stem extension : String) (extensions : List String), extension ∈ extensions →
      Text.hasExtension extensions (stem ++ extension) = true := by
  have passed : Text.hasExtension [".\u03A3"] ("a" ++ ".\u03A3") = false := by decide +kernel
  refine ⟨.given (by simp), passed, fun always => ?_⟩
  have selected := always "a" ".\u03A3" [".\u03A3"] (by simp)
  rw [passed] at selected
  cases selected

end FolderIndex
