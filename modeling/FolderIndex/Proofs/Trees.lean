import FolderIndex.FileTree.Walk

namespace FolderIndex

/-! What lies where in a file tree. A tree is known by what is at the end of each chain of names,
and it is all that a location depends on where it leads to. -/

/-- A text that can be the name of something in a directory. -/
structure IsName (name : String) : Prop where
  some : name ≠ ""
  notHere : name ≠ "."
  notAbove : name ≠ ".."
  noSlash : '/' ∉ name.toList
  noNull : Char.ofNat 0 ∉ name.toList

instance (name : String) : Decidable (IsName name) :=
  decidable_of_iff (name ≠ "" ∧ name ≠ "." ∧ name ≠ ".." ∧ '/' ∉ name.toList ∧
      Char.ofNat 0 ∉ name.toList)
    ⟨fun ⟨named, notHere, notAbove, noSlash, noNull⟩ => ⟨named, notHere, notAbove, noSlash, noNull⟩,
      fun isName => ⟨isName.some, isName.notHere, isName.notAbove, isName.noSlash, isName.noNull⟩⟩

namespace Node

/-- A tree whose directories have names for all that is in them, and none twice. -/
structure Proper (node : Node) : Prop where
  distinct : ∀ {names entries}, node.at? names = some (.directory entries) →
    (entries.map (·.1)).Nodup
  named : ∀ {names entries}, node.at? names = some (.directory entries) →
    ∀ entry ∈ entries, IsName entry.1

/-- A node without what is in it, if it is a directory. -/
def bare : Node → Node
  | directory _ => emptyDirectory
  | node => node

/-- Trees in which the same is at the end of each chain of names. In their directories there are
the same things, in any order. -/
def Alike (node other : Node) : Prop :=
  ∀ names, (node.at? names).map bare = (other.at? names).map bare

variable {node other found : Node} {names left right place : List String} {name : String}
  {entries : List (String × Node)}

theorem at?_cons :
    node.at? (name :: names) = (node.entries.lookup name).bind (·.at? names) := by
  rw [at?]
  cases node.entries.lookup name <;> rfl

theorem at?_append : node.at? (left ++ right) = (node.at? left).bind (·.at? right) := by
  induction left generalizing node with
  | nil => rfl
  | cons name rest ih =>
      rw [List.cons_append, at?_cons, at?_cons, Option.bind_assoc]
      congr 1
      funext below
      exact ih

theorem at?_append_of_eq_some (reached : node.at? left = some found) :
    node.at? (left ++ right) = found.at? right := by
  rw [at?_append, reached]
  rfl

theorem at?_singleton : node.at? [name] = node.entries.lookup name := by
  rw [at?_cons]
  cases node.entries.lookup name <;> rfl

/-- Names are found in directories alone. -/
theorem isDirectory_of_at?_append_cons (reached : node.at? (left ++ name :: right) = some found) :
    ∃ entries, node.at? left = some (.directory entries) := by
  rw [at?_append, Option.bind_eq_some_iff] at reached
  obtain ⟨parent, parentFound, onward⟩ := reached
  cases parent with
  | directory entries => exact ⟨entries, parentFound⟩
  | _ => simp [at?_cons, Node.entries] at onward

/-- Where no name is there twice, each entry is found under its name. -/
theorem lookup_eq_some_iff (distinct : (entries.map (·.1)).Nodup) :
    entries.lookup name = some node ↔ (name, node) ∈ entries := by
  induction entries with
  | nil => simp
  | cons entry rest ih =>
      obtain ⟨first, held⟩ := entry
      obtain ⟨absent, distinctRest⟩ := List.nodup_cons.mp distinct
      by_cases same : name = first
      · subst same
        have elsewhere : (name, node) ∉ rest :=
          fun member => absent (List.mem_map.mpr ⟨_, member, rfl⟩)
        simp [elsewhere, eq_comm]
      · have apart : (name == first) = false := by simpa using same
        simp [List.lookup_cons, apart, same, ih distinctRest]

/-- What is in a directory is there under its name, and nothing else is. -/
theorem Proper.mem_entries_iff (proper : node.Proper)
    (folder : node.at? names = some (.directory entries)) :
    (name, found) ∈ entries ↔ node.at? (names ++ [name]) = some found := by
  rw [at?_append_of_eq_some folder, at?_singleton]
  exact (lookup_eq_some_iff (proper.distinct folder)).symm

theorem Proper.of_at? (proper : node.Proper) (reached : node.at? place = some found) :
    found.Proper := by
  constructor
  · intro names entries folder
    exact proper.distinct ((at?_append_of_eq_some reached).trans folder)
  · intro names entries folder
    exact proper.named ((at?_append_of_eq_some reached).trans folder)

theorem proper_of_not_isDirectory (content : node.isDirectory = false) : node.Proper := by
  have nowhere : ∀ {names entries}, node.at? names ≠ some (.directory entries) := by
    intro names entries folder
    cases node with
    | directory => simp [isDirectory] at content
    | _ => cases names <;> simp [at?, Node.entries] at folder
  exact ⟨fun folder => absurd folder nowhere, fun folder => absurd folder nowhere⟩

theorem proper_directory (distinct : (entries.map (·.1)).Nodup)
    (named : ∀ entry ∈ entries, IsName entry.1) (below : ∀ entry ∈ entries, entry.2.Proper) :
    (directory entries).Proper := by
  have inside : ∀ {names held}, (directory entries).at? names = some (.directory held) →
      names = [] ∧ held = entries ∨ ∃ entry ∈ entries, ∃ rest,
        entry.2.at? rest = some (.directory held) := by
    intro names held folder
    cases names with
    | nil => exact .inl ⟨rfl, by simpa [at?] using folder.symm⟩
    | cons name rest =>
        rw [at?_cons, Option.bind_eq_some_iff] at folder
        obtain ⟨node, looked, onward⟩ := folder
        exact .inr ⟨(name, node), (lookup_eq_some_iff distinct).mp looked, rest, onward⟩
  constructor
  · intro names held folder
    rcases inside folder with ⟨_, rfl⟩ | ⟨entry, member, rest, onward⟩
    · exact distinct
    · exact (below entry member).distinct onward
  · intro names held folder
    rcases inside folder with ⟨_, rfl⟩ | ⟨entry, member, rest, onward⟩
    · exact named
    · exact (below entry member).named onward

theorem Proper.isName_of_at? (proper : node.Proper)
    (reached : node.at? names = some found) : ∀ name ∈ names, IsName name := by
  intro name member
  obtain ⟨front, back, rfl⟩ := List.append_of_mem member
  obtain ⟨entries, folder⟩ := isDirectory_of_at?_append_cons reached
  have onward : node.at? (front ++ [name] ++ back) = some found := by simpa using reached
  rw [at?_append, Option.bind_eq_some_iff] at onward
  obtain ⟨below, belowFound, _⟩ := onward
  exact proper.named folder _ ((proper.mem_entries_iff folder).mpr belowFound)

theorem isDirectory_bare (node : Node) : node.bare.isDirectory = node.isDirectory := by
  cases node <;> rfl

theorem Alike.symm (alike : node.Alike other) : other.Alike node :=
  fun names => (alike names).symm

/-! What is put into a directory, or taken out of it, leaves what is beside it as it is. -/

theorem lookup_putEntry_ne {other : String} (apart : other ≠ name) :
    (putEntry name node entries).lookup other = entries.lookup other := by
  have unlike : (other == name) = false := by simpa using apart
  induction entries with
  | nil => simp [putEntry, List.lookup_cons, unlike]
  | cons entry rest ih =>
      obtain ⟨first, held⟩ := entry
      unfold putEntry
      split
      · rename_i same
        change first = name at same
        subst same
        simp [List.lookup_cons, unlike]
      · simp [List.lookup_cons, ih]

theorem at?_put_beside {replacement : Node} {other : String} (apart : other ≠ name) :
    (put replacement node (left ++ [name])).at? (left ++ [other]) = node.at? (left ++ [other]) := by
  induction left generalizing node with
  | nil =>
      rw [List.nil_append, List.nil_append, at?_singleton, at?_singleton]
      exact lookup_putEntry_ne apart
  | cons first rest ih =>
      rw [List.cons_append, List.cons_append, at?_cons, at?_cons, put, Node.entries,
        lookup_putEntry, Option.bind_some, ih]
      cases node.entries.lookup first with
      | none =>
          cases rest <;> simp [at?_cons, emptyDirectory, Node.entries]
      | some below => rfl

theorem lookup_filter_ne {other : String} (apart : other ≠ name) :
    (entries.filter fun entry => decide (entry.1 ≠ name)).lookup other = entries.lookup other := by
  induction entries with
  | nil => rfl
  | cons entry rest ih =>
      obtain ⟨first, held⟩ := entry
      by_cases same : first = name
      · subst same
        have unlike : (other == first) = false := by simpa using apart
        simpa [List.lookup_cons, unlike] using ih
      · rw [List.filter_cons_of_pos (by simpa using same), List.lookup_cons, List.lookup_cons, ih]

theorem erase_cons {first : String} :
    erase node (first :: (left ++ [name])) =
      match node.entries.lookup first with
      | some below => directory (putEntry first (below.erase (left ++ [name])) node.entries)
      | none => node := by
  cases left <;> rfl

theorem at?_erase_beside {other : String} (apart : other ≠ name) :
    (erase node (left ++ [name])).at? (left ++ [other]) = node.at? (left ++ [other]) := by
  induction left generalizing node with
  | nil =>
      rw [List.nil_append, List.nil_append, at?_singleton, at?_singleton]
      exact lookup_filter_ne apart
  | cons first rest ih =>
      rw [List.cons_append, List.cons_append, erase_cons, at?_cons, at?_cons]
      cases looked : node.entries.lookup first with
      | none => simp [looked]
      | some below => simp [Node.entries, lookup_putEntry, ih]

/-- What is taken out of a directory is there no more. -/
theorem at?_erase : (erase node (left ++ [name])).at? (left ++ [name]) = none := by
  induction left generalizing node with
  | nil =>
      rw [List.nil_append, at?_singleton]
      change (node.entries.filter fun entry => decide (entry.1 ≠ name)).lookup name = none
      rw [List.lookup_eq_none_iff]
      intro entry member
      have apart : entry.1 ≠ name := by simpa using (List.mem_filter.mp member).2
      simpa using fun same => apart same.symm
  | cons first rest ih =>
      rw [List.cons_append, erase_cons, at?_cons]
      cases looked : node.entries.lookup first with
      | none => simp [looked]
      | some below => simp [Node.entries, lookup_putEntry, ih]

/-! What is put into a directory, or taken out of it, changes no other directory but in what is in
it. -/

private theorem bare_at?_of_lookup {others : List (String × Node)}
    (same : ∀ other, other ≠ name → others.lookup other = entries.lookup other)
    (apart : ¬ [name] <+: names) :
    ((directory others).at? names).map bare = ((directory entries).at? names).map bare := by
  cases names with
  | nil => rfl
  | cons first rest =>
      have unlike : first ≠ name := by simpa [eq_comm] using apart
      rw [at?_cons, at?_cons, Node.entries, Node.entries, same first unlike]

private theorem bare_at?_of_below {first : String} {below edited : Node}
    (looked : node.entries.lookup first = some below)
    (same : ∀ names, ¬ left <+: names →
      (edited.at? names).map bare = (below.at? names).map bare)
    (apart : ¬ first :: left <+: names) :
    ((directory (putEntry first edited node.entries)).at? names).map bare =
      (node.at? names).map bare := by
  cases names with
  | nil =>
      cases node with
      | directory entries => rfl
      | _ => simp [Node.entries] at looked
  | cons other rest =>
      rw [at?_cons, at?_cons, Node.entries]
      by_cases here : other = first
      · subst here
        rw [lookup_putEntry, looked, Option.bind_some, Option.bind_some]
        exact same rest (by simpa using apart)
      · rw [lookup_putEntry_ne here]

theorem bare_at?_put {replacement : Node} (folder : node.at? left = some (.directory entries))
    (apart : ¬ left ++ [name] <+: names) :
    ((put replacement node (left ++ [name])).at? names).map bare = (node.at? names).map bare := by
  induction left generalizing node names with
  | nil =>
      cases folder
      exact bare_at?_of_lookup (fun _ unlike => lookup_putEntry_ne unlike) apart
  | cons first rest ih =>
      rw [at?_cons, Option.bind_eq_some_iff] at folder
      obtain ⟨below, looked, onward⟩ := folder
      rw [List.cons_append, put, looked]
      exact bare_at?_of_below looked (fun _ unlike => ih onward unlike) apart

theorem bare_at?_erase (folder : node.at? left = some (.directory entries))
    (apart : ¬ left ++ [name] <+: names) :
    ((erase node (left ++ [name])).at? names).map bare = (node.at? names).map bare := by
  induction left generalizing node names with
  | nil =>
      cases folder
      exact bare_at?_of_lookup (fun _ unlike => lookup_filter_ne unlike) apart
  | cons first rest ih =>
      rw [at?_cons, Option.bind_eq_some_iff] at folder
      obtain ⟨below, looked, onward⟩ := folder
      rw [List.cons_append, erase_cons, looked]
      exact bare_at?_of_below looked (fun _ unlike => ih onward unlike) apart

end Node

/-- A place without what is in the directory there, if there is one. -/
def Spot.bare (spot : Spot) : List String × Option Node :=
  (spot.names, spot.node?.map Node.bare)

namespace Node

variable {root other : Node} {closed : List (List String)} {aim : Aim}
  {jump otherJump : List String → List String → Except FileFault Spot}

theorem walkWith_alike (alike : root.Alike other)
    (jumps : ∀ start rest, (jump start rest).map Spot.bare = (otherJump start rest).map Spot.bare)
    (here parts : List String) :
    (root.walkWith closed aim jump here parts).map Spot.bare =
      (other.walkWith closed aim otherJump here parts).map Spot.bare := by
  induction parts generalizing here with
  | nil =>
      have same := alike here
      simp [walkWith, Except.map, Spot.bare, same]
  | cons name rest ih =>
      have same := alike (here ++ [name])
      simp only [walkWith]
      split
      · rfl
      split
      · exact ih here
      split
      · exact ih here.dropLast
      split
      · rfl
      split
      · rfl
      cases first : root.at? (here ++ [name]) with
      | none =>
          rw [first] at same
          have second : other.at? (here ++ [name]) = none := by simpa using same.symm
          rw [second]
      | some node =>
          rw [first] at same
          obtain ⟨twin, second, twinBare⟩ := Option.map_eq_some_iff.mp same.symm
          rw [second]
          cases node <;> cases twin <;> simp only [bare, emptyDirectory, reduceCtorEq, link.injEq,
            file.injEq, index.injEq, log.injEq] at twinBare
          · subst twinBare
            rfl
          · subst twinBare
            rfl
          · subst twinBare
            rfl
          · subst twinBare
            dsimp only
            split
            · rfl
            · exact jumps _ _
          · dsimp only
            split
            · rfl
            · exact ih _

theorem walkTo_alike (alike : root.Alike other) (links : Nat) (here parts : List String) :
    (root.walkTo closed aim links here parts).map Spot.bare =
      (other.walkTo closed aim links here parts).map Spot.bare := by
  induction links generalizing here parts with
  | zero => exact walkWith_alike alike (fun _ _ => rfl) here parts
  | succ links ih => exact walkWith_alike alike ih here parts

theorem walkWith_node? {spot : Spot}
    (jumps : ∀ start rest spot, jump start rest = .ok spot → spot.node? = root.at? spot.names)
    {here parts : List String} (reached : root.walkWith closed aim jump here parts = .ok spot) :
    spot.node? = root.at? spot.names := by
  induction parts generalizing here with
  | nil =>
      cases reached
      rfl
  | cons name rest ih =>
      simp only [walkWith] at reached
      split at reached
      · contradiction
      split at reached
      · exact ih reached
      split at reached
      · exact ih reached
      split at reached
      · contradiction
      split at reached
      · contradiction
      split at reached
      · rename_i missing
        split at reached
        · cases reached
          exact missing.symm
        · contradiction
      · rename_i linked
        split at reached
        · cases reached
          exact linked.symm
        · exact jumps _ _ _ reached
      · rename_i folder
        split at reached
        · cases reached
          exact folder.symm
        · exact ih reached
      · rename_i other _ _ filed
        split at reached
        · cases reached
          exact filed.symm
        · contradiction

/-- A location leads to what is at the end of the names of its place. -/
theorem walkTo_node? {links : Nat} {here parts : List String} {spot : Spot}
    (reached : root.walkTo closed aim links here parts = .ok spot) :
    spot.node? = root.at? spot.names := by
  induction links generalizing here parts spot with
  | zero => exact walkWith_node? (fun _ _ _ jumped => by cases jumped) reached
  | succ links ih => exact walkWith_node? (fun _ _ _ jumped => ih jumped) reached

end Node

namespace FileTree

variable {tree other : FileTree} {aim : Aim} {location : Location}

/-- File trees that differ only in the order in which directories list what is in them. -/
structure Alike (tree other : FileTree) : Prop where
  root : tree.root.Alike other.root
  denied : tree.denied = other.denied
  closed : tree.closed = other.closed
  strays : tree.strays = other.strays
  surroundings : tree.surroundings = other.surroundings

theorem Alike.spot (alike : tree.Alike other) (aim : Aim) (location : Location) :
    (tree.spot aim location).map Spot.bare = (other.spot aim location).map Spot.bare := by
  unfold FileTree.spot start
  rw [alike.surroundings, alike.closed]
  split
  · rfl
  · exact Node.walkTo_alike alike.root _ _ _

theorem spot_node? {spot : Spot} (reached : tree.spot aim location = .ok spot) :
    spot.node? = tree.root.at? spot.names := by
  unfold FileTree.spot at reached
  split at reached
  · contradiction
  · exact Node.walkTo_node? reached

theorem Alike.spot_cases (alike : tree.Alike other) (aim : Aim) (location : Location) :
    (∃ fault, tree.spot aim location = .error fault ∧ other.spot aim location = .error fault) ∨
      ∃ spot twin, tree.spot aim location = .ok spot ∧ other.spot aim location = .ok twin ∧
        spot.bare = twin.bare := by
  have same := alike.spot aim location
  cases first : tree.spot aim location with
  | error fault =>
      cases second : other.spot aim location with
      | error otherFault =>
          rw [first, second] at same
          cases same
          exact .inl ⟨fault, rfl, rfl⟩
      | ok twin =>
          rw [first, second] at same
          cases same
  | ok spot =>
      cases second : other.spot aim location with
      | error otherFault =>
          rw [first, second] at same
          cases same
      | ok twin =>
          rw [first, second] at same
          exact .inr ⟨spot, twin, rfl, rfl, Except.ok.inj same⟩

theorem Alike.exists? (alike : tree.Alike other) (location : Location) :
    tree.exists? location = other.exists? location := by
  unfold FileTree.exists?
  rcases alike.spot_cases .target location with
    ⟨fault, first, second⟩ | ⟨spot, twin, first, second, same⟩
  · rw [first, second]
  · rw [first, second]
    have nodes : spot.node?.map Node.bare = twin.node?.map Node.bare := congrArg Prod.snd same
    have present : spot.node?.isSome = twin.node?.isSome := by
      rw [← Option.isSome_map, nodes, Option.isSome_map]
    simp only [present]

/-- Of alike trees, a location leads to a directory in both or in none, and at the same place. -/
theorem Alike.directory? (alike : tree.Alike other) (location : Location) :
    (tree.directory? location).map (·.names) = (other.directory? location).map (·.names) := by
  unfold FileTree.directory?
  rcases alike.spot_cases .target location with
    ⟨fault, first, second⟩ | ⟨spot, twin, first, second, same⟩
  · rw [first, second]
  · rw [first, second]
    have nodes : spot.node?.map Node.bare = twin.node?.map Node.bare := congrArg Prod.snd same
    have kind : ∀ node? : Option Node,
        node?.any Node.isDirectory = (node?.map Node.bare).any Node.isDirectory := by
      intro node?
      cases node? with
      | none => rfl
      | some node => exact (Node.isDirectory_bare node).symm
    dsimp only
    rw [kind spot.node?, nodes, ← kind twin.node?]
    split
    · exact congrArg some (congrArg Prod.fst same)
    · rfl

theorem directory?_spec {spot : Spot} (leads : tree.directory? location = some spot) :
    ∃ entries, spot.node? = some (.directory entries) ∧
      tree.root.at? spot.names = some (.directory entries) := by
  unfold FileTree.directory? at leads
  split at leads
  · rename_i reached
    split at leads
    · rename_i kind
      cases leads
      have place := spot_node? reached
      cases node : spot.node? with
      | none => simp [node] at kind
      | some found =>
          cases found with
          | directory entries => exact ⟨entries, rfl, by rw [← place, node]⟩
          | _ => simp [node, Node.isDirectory] at kind
    · contradiction
  · contradiction

end FileTree

end FolderIndex
