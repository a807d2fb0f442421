import FolderIndex.Proofs.Stages
import Mathlib.Data.List.Forall2

namespace FolderIndex

/-! The paths that a walk finds lie below its root, so those of a root that is written from the
root of all files on are written so, too. -/

/-- A path that names something below a location. -/
def Location.Leads (location : Location) (path : String) : Prop :=
  ∃ names, path = ({ location with parts := location.parts ++ names } : Location).toString

namespace Walk

variable {first second : Walk} {walks : List (String × Walk)} {path : String}

theorem mem_found_andThen (member : path ∈ (first.andThen second).found) :
    path ∈ first.found ∨ path ∈ second.found := by
  unfold andThen at member
  split at member
  · exact .inl member
  · exact List.mem_append.mp member

theorem mem_found_foldr {parts : List Walk} (member : path ∈ (parts.foldr andThen empty).found) :
    ∃ part ∈ parts, path ∈ part.found := by
  induction parts with
  | nil => simp [empty] at member
  | cons part rest ih =>
      rcases mem_found_andThen member with here | later
      · exact ⟨part, by simp, here⟩
      · obtain ⟨other, otherMember, found⟩ := ih later
        exact ⟨other, by simp [otherMember], found⟩

theorem mem_found_inNameOrder (member : path ∈ (inNameOrder walks).found) :
    ∃ walk ∈ walks, path ∈ walk.2.found := by
  obtain ⟨part, partMember, found⟩ := mem_found_foldr member
  obtain ⟨walk, walkMember, rfl⟩ := List.mem_map.mp partMember
  exact ⟨walk, List.mem_mergeSort.mp walkMember, found⟩

end Walk

namespace FileTree

variable {tree : FileTree} {extensions : List String} {root : Location} {path : String}

theorem leads_of_mem_filesIn {listing : Listing} {entries : List (String × Node)}
    (member : path ∈ tree.filesIn extensions listing entries) : listing.location.Leads path := by
  obtain ⟨name, _, rfl⟩ := List.mem_map.mp member
  exact ⟨[name], rfl⟩

theorem leads_of_leads_child {location : Location} {name : String}
    (below : (location.child name).Leads path) : location.Leads path := by
  obtain ⟨names, rfl⟩ := below
  exact ⟨name :: names, by simp [Location.child]⟩

mutual

theorem leads_of_mem_walkNode (listing : Listing) (node : Node)
    (member : path ∈ (tree.walkNode extensions root listing node).found) :
    listing.location.Leads path := by
  cases node with
  | directory entries =>
      simp only [walkNode] at member
      split at member
      · simp at member
      · rcases Walk.mem_found_andThen member with here | below
        · exact leads_of_mem_filesIn here
        · obtain ⟨walk, walkMember, found⟩ := Walk.mem_found_inNameOrder below
          exact leads_of_mem_walkEntries listing entries walk walkMember found
  | _ => simp [walkNode, Walk.empty] at member

theorem leads_of_mem_walkEntries (listing : Listing) (entries : List (String × Node))
    (walk : String × Walk) (walkMember : walk ∈ tree.walkEntries extensions root listing entries)
    (found : path ∈ walk.2.found) : listing.location.Leads path := by
  cases entries with
  | nil => simp [walkEntries] at walkMember
  | cons entry rest =>
      obtain ⟨name, node⟩ := entry
      rcases List.mem_cons.mp walkMember with rfl | later
      · exact leads_of_leads_child (leads_of_mem_walkNode (listing.child name) node found)
      · exact leads_of_mem_walkEntries listing rest walk later found

end

/-- All that a walk finds is below its root. -/
theorem leads_of_mem_walk (member : path ∈ (tree.walk extensions root).found) :
    root.Leads path := by
  unfold walk at member
  split at member
  · simp at member
  · simp at member
  · split at member
    · simp at member
    · split at member
      · simp [Walk.empty] at member
      · exact leads_of_mem_walkNode _ _ member

end FileTree

namespace Location

variable {location : Location} {path : String}

theorem head?_toString_of_isAbsolute (absolute : location.isAbsolute = true) :
    location.toString.toList.head? = some '/' := by
  obtain ⟨anchor, parts⟩ := location
  cases anchor with
  | current => simp [isAbsolute] at absolute
  | root => simp [toString, Anchor.text]
  | doubleRoot => simp [toString, Anchor.text]

/-- A path below an absolute location starts with a slash. -/
theorem head?_of_leads (absolute : location.isAbsolute = true) (below : location.Leads path) :
    path.toList.head? = some '/' := by
  obtain ⟨names, rfl⟩ := below
  exact head?_toString_of_isAbsolute absolute

end Location

theorem Text.isBlankText_of_head?_slash {path : String} (rooted : path.toList.head? = some '/') :
    isBlankText path = false := by
  cases characters : path.toList with
  | nil => simp [characters] at rooted
  | cons first rest =>
      have slash : first = '/' := by simpa [characters] using rooted
      have solid : isBlank '/' = false := by decide
      simp [isBlankText, characters, slash, solid]

/-! A list that is made member by member, where each may fail. -/

section Making

variable {α β ε : Type} {step : α → Except ε β} {given : List α} {made : List β}

theorem forall₂_of_mapM (done : given.mapM step = .ok made) :
    List.Forall₂ (fun member result => step member = .ok result) given made := by
  induction given generalizing made with
  | nil =>
      cases done
      exact .nil
  | cons member rest ih =>
      rw [List.mapM_cons] at done
      cases first : step member with
      | error failure => simp [first, bind, Except.bind] at done
      | ok result =>
          cases others : rest.mapM step with
          | error failure => simp [first, others, bind, Except.bind] at done
          | ok results =>
              obtain rfl : result :: results = made := by
                simpa [first, others, bind, Except.bind, pure, Except.pure] using done
              exact .cons first (ih others)

theorem mapM_of_forall {form : α → β} (each : ∀ member ∈ given, step member = .ok (form member)) :
    given.mapM step = .ok (given.map form) := by
  induction given with
  | nil => rfl
  | cons member rest ih =>
      rw [List.mapM_cons, each member List.mem_cons_self,
        ih fun other later => each other (List.mem_cons_of_mem _ later)]
      rfl

end Making

namespace Indexer

/-- An indexer that was made where the current directory is written from the root on. -/
def IsMade (indexer : Indexer) : Prop :=
  ∃ surroundings store watch extensions audience,
    (Location.ofString surroundings.current).isAbsolute = true ∧
      make surroundings store watch extensions audience = .ok indexer

variable {homes : Homes} {current : String}

theorem resolve_isAbsolute (rooted : (Location.ofString current).isAbsolute = true)
    (text : String) : (homes.resolve current text).isAbsolute = true := by
  change ((Location.ofString current).join
    (Location.ofString (homes.expandTilde text))).isAbsolute = true
  unfold Location.join
  split
  · assumption
  · exact rooted

theorem of_mem_mapM_rootOf {watch : List String} {roots : List Location}
    (named : watch.mapM (rootOf homes current) = .ok roots) {root : Location}
    (member : root ∈ roots) : ∃ text ∈ watch, root = homes.resolve current text := by
  have pairs := forall₂_of_mapM named
  clear named
  induction pairs with
  | nil => simp at member
  | @cons text found rest others made _ ih =>
      rcases List.mem_cons.mp member with rfl | later
      · refine ⟨text, List.mem_cons_self, ?_⟩
        unfold rootOf at made
        split at made
        · contradiction
        · exact (Except.ok.inj made).symm
      · obtain ⟨other, otherMember, same⟩ := ih later
        exact ⟨other, List.mem_cons_of_mem _ otherMember, same⟩

theorem IsMade.roots_absolute {indexer : Indexer} (made : indexer.IsMade) :
    ∀ root ∈ indexer.roots, root.isAbsolute = true := by
  obtain ⟨surroundings, store, watch, extensions, audience, rooted, made⟩ := made
  intro root member
  simp only [make, bind, Except.bind] at made
  split at made
  · contradiction
  · rename_i roots named
    cases made
    obtain ⟨text, _, rfl⟩ := of_mem_mapM_rootOf named member
    exact resolve_isAbsolute rooted text

theorem IsMade.found_rooted {indexer : Indexer} (made : indexer.IsMade) {files : FileTree}
    {path : String} (member : path ∈ indexer.found files) : path.toList.head? = some '/' := by
  obtain ⟨root, rootMember, walked⟩ := List.mem_flatMap.mp member
  exact Location.head?_of_leads (made.roots_absolute root rootMember)
    (FileTree.leads_of_mem_walk walked)

end Indexer

end FolderIndex
