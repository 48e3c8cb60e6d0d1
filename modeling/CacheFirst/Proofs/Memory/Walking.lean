import Mathlib.Data.List.Nodup
import CacheFirst.Proofs.Memory.Listing

/-!
# Walks

Whoever wants all of a namespace lists its root, and then every directory that was listed, by the path
that its status names. In a tree in which everything lies below directories, this ends, and comes by
everything in the namespace exactly once. It stays within the namespace, although other namespaces
may be kept under keys that start like those it asks for.

A walk of a limited depth is a recursion, and what it visits can be told from keys alone: every child
of a directory, and what is below it. A walk can only go down, and the number of entries is depth
enough, because all places above an entry are entries too.

## Main definitions

* `Tree.walk`: the walk, which asks for listings and reads the paths in them.
* `Tree.below`: what a walk visits.
* `Tree.EndsWithin`: how deep a tree goes below a path.

## Main results

* `Tree.walk_eq_below`: a walk that goes deep enough visits what is below its start.
* `Tree.nodup_below`: nothing twice.
* `Tree.mem_below_iff`: everything that lies some names further down, and nothing else.
* `Tree.endsWithin_size`: a tree goes no deeper than it has entries.
* `Tree.walk_visits_once`: a walk visits a whole namespace, each entry once.
-/

namespace CacheFirst.Memory

/-- What every element is read as is collected. -/
theorem mapM_map_eq_some_map {α β γ : Type} {write : α → β} {read : β → Option γ} {result : α → γ}
    {elements : List α} (each : ∀ element ∈ elements, read (write element) = some (result element)) :
    (elements.map write).mapM read = some (elements.map result) := by
  induction elements with
  | nil => rfl
  | cons first others ih =>
    rw [List.forall_mem_cons] at each
    rw [List.map_cons, List.mapM_cons, each.1, ih each.2]
    rfl

namespace Tree

variable {tree : Tree} {path place root : Path} {child entry : Entry} {key directory : List Char}
  {count depth : Nat}

/-! ### The walk -/

/-- Visits a status, and if it is that of a directory, walks from the path that it names. -/
def follow (walk : Path → Option (List Status)) (status : Status) : Option (List Status) :=
  if status.folder then do
    let place ← (Path.ofString status.storePath).toOption
    let further ← walk place
    return status :: further
  else
    return [status]

/-- Lists a path, and then every directory listed, going down at most so many listings. There is no
answer if that is not enough, if something cannot be listed, or if a status names no path. -/
def walk (tree : Tree) : Nat → Path → Option (List Status)
  | 0, _ => none
  | depth + 1, path => do
    let listed ← (tree.listing path).toOption
    let visited ← listed.mapM (follow (tree.walk depth))
    return visited.flatten

/-- What is kept below the key of a directory, at most so many names down. Each child is followed by
what is below it, if it is a directory. -/
def below (tree : Tree) : Nat → List Char → List (List Char × Entry)
  | 0, _ => []
  | depth + 1, directory => (tree.children directory).flatMap fun (key, child) =>
      (key, child) :: if child.folder then tree.below depth key else []

/-- Everything that is at a path or below it lies fewer than so many names below. -/
def EndsWithin (tree : Tree) (count : Nat) (path : Path) : Prop :=
  ∀ names place, path.LiesBelow names place → place.key ∈ tree.entries → names.length < count

/-- The status of a child names a place one name further down, at which the child is. -/
theorem exists_place_of_mem_children (absolute : path.isAbsolute = true)
    (listed : (key, child) ∈ tree.children path.key) :
    ∃ name place, path.LiesBelow [name] place ∧ place.key = key ∧ tree.get? place = some child ∧
      Path.ofString (child.status key).storePath = .ok place := by
  obtain ⟨there, isChild⟩ := mem_children_iff.mp listed
  obtain ⟨other, rfl, below⟩ := isChildKey_iff_isChildOf.mp isChild
  obtain ⟨name, below⟩ := (Path.isChildOf_iff_liesBelow absolute).mp below
  -- the text in the status is read as the path of all names of the child
  have length : other.components.length = path.components.length + 1 := by
    rw [below.components, List.length_append, List.length_singleton]
  have named : other.components ≠ [] := List.ne_nil_of_length_eq_add_one length
  have same : (other.truncate other.components.length).key = other.key :=
    Path.key_truncate (Nat.le_refl _)
  refine ⟨name, other.truncate other.components.length, ?_, same, ?_,
    Entry.ofString_placeText named⟩
  · rw [length]
    exact below.truncate 1
  · rwa [get?, same]

theorem EndsWithin.descend (within : tree.EndsWithin (count + 1) path) {name : List Char}
    (below : path.LiesBelow [name] place) : tree.EndsWithin count place := by
  intro names lower further there
  have deeper := within _ lower (below.trans further) there
  simpa using deeper

/-- A walk that goes deep enough ends, and visits what is below its start. -/
theorem walk_eq_below (holds : tree.HoldsDirectory path) (absolute : path.isAbsolute = true)
    (within : tree.EndsWithin count path) (enough : count ≤ depth) :
    tree.walk depth path =
      some ((tree.below count path.key).map fun (key, entry) => entry.status key) := by
  -- the induction is on how deep the tree goes here, and any walk that goes as deep will do
  induction count generalizing path depth with
  | zero =>
    -- the directory itself is there
    obtain ⟨entry, there, -⟩ := holds
    exact absurd (within [] path (.refl absolute) (of_getElem?_eq_some there)) (Nat.not_lt_zero _)
  | succ count ih =>
    obtain ⟨entry, there, folder⟩ := holds
    obtain ⟨depth, rfl⟩ := Nat.exists_eq_add_one_of_ne_zero (Nat.ne_zero_of_lt enough)
    have each : ∀ listed ∈ tree.children path.key,
        follow (tree.walk depth) (listed.2.status listed.1) =
          some ((listed :: if listed.2.folder then tree.below count listed.1 else []).map
            fun (key, entry) => entry.status key) := by
      rintro ⟨key, child⟩ listed
      obtain ⟨name, place, below, rfl, found, read⟩ := exists_place_of_mem_children absolute listed
      cases folder : child.folder with
      | false => simp [follow, Entry.status, folder]
      | true =>
        have further := ih ⟨child, found, folder⟩ below.stillAbsolute (within.descend below)
          (Nat.le_of_succ_le_succ enough)
        simp only [follow, read, Except.toOption]
        simp [Entry.status, folder, further]
    have visited := mapM_map_eq_some_map each
    simp only [walk, listing_of_folder there folder, Except.toOption, Option.bind_eq_bind,
      Option.bind_some]
    rw [visited, below, List.map_flatMap, List.flatMap_def]
    rfl

/-! ### What is visited -/

/-- The children of a directory are visited, and what is below those that are directories. -/
theorem mem_below_succ_iff {kept : List Char × Entry} : kept ∈ tree.below (count + 1) directory ↔
    ∃ listed ∈ tree.children directory,
      kept = listed ∨ listed.2.folder = true ∧ kept ∈ tree.below count listed.1 := by
  simp only [below, List.mem_flatMap, List.mem_cons, List.mem_ite_nil_right]

/-- What is visited has a longer key than the start. -/
theorem exists_append_of_mem_below {kept : List Char × Entry}
    (member : kept ∈ tree.below count directory) :
    ∃ rest, rest ≠ [] ∧ kept.1 = directory ++ rest := by
  induction count generalizing directory with
  | zero => cases member
  | succ count ih =>
    obtain ⟨⟨key, child⟩, listed, visited⟩ := mem_below_succ_iff.mp member
    obtain ⟨name, -, -, rfl⟩ := isChildKey_iff.mp (mem_children_iff.mp listed).2
    rcases visited with rfl | ⟨-, further⟩
    · exact ⟨name ++ ['/'], by simp, by simp⟩
    · obtain ⟨rest, -, same⟩ := ih further
      exact ⟨name ++ ['/'] ++ rest, by simp, by simp [same]⟩

/-- A key starts with that of one child at most. -/
theorem eq_of_isChildKey {first second longer : List Char}
    (child : isChildKey directory first = true) (child' : isChildKey directory second = true)
    (start : first <+: longer) (start' : second <+: longer) : first = second := by
  obtain ⟨name, -, plain, rfl⟩ := isChildKey_iff.mp child
  obtain ⟨name', -, plain', rfl⟩ := isChildKey_iff.mp child'
  obtain ⟨rest, rfl⟩ := start
  obtain ⟨rest', same⟩ := start'
  -- behind the key of the directory, both go on with a name up to the same separator
  simp only [List.append_assoc, List.cons_append, List.nil_append, List.append_cancel_left_eq]
    at same
  obtain ⟨rfl, -⟩ := eq_of_append_separator plain' plain same
  rfl

/-- Nothing is visited twice. -/
theorem nodup_below (tree : Tree) (count : Nat) (directory : List Char) :
    ((tree.below count directory).map Prod.fst).Nodup := by
  induction count generalizing directory with
  | zero => exact List.nodup_nil
  | succ count ih =>
    rw [below, List.map_flatMap, List.nodup_flatMap]
    constructor
    · rintro ⟨key, child⟩ -
      rw [List.map_cons, List.nodup_cons]
      split
      · refine ⟨fun member => ?_, ih key⟩
        obtain ⟨kept, further, same⟩ := List.mem_map.mp member
        obtain ⟨rest, longer, append⟩ := exists_append_of_mem_below further
        exact longer (List.self_eq_append_right.mp (same.symm.trans append))
      · exact ⟨List.not_mem_nil, List.nodup_nil⟩
    · have start {listed : List Char × Entry} {key : List Char} (member : key ∈
          (listed :: if listed.2.folder then tree.below count listed.1 else []).map Prod.fst) :
          listed.1 <+: key := by
        obtain ⟨kept, visited, rfl⟩ := List.mem_map.mp member
        rw [List.mem_cons, List.mem_ite_nil_right] at visited
        rcases visited with rfl | ⟨-, further⟩
        · exact List.prefix_rfl
        · obtain ⟨rest, -, append⟩ := exists_append_of_mem_below further
          exact append ▸ List.prefix_append _ _
      -- two children have different keys, and no key starts with both
      refine (tree.ordered_children directory).imp_of_mem fun {first second} listed listed' before => ?_
      refine List.disjoint_left.mpr fun key member member' => ?_
      have same := eq_of_isChildKey (mem_children_iff.mp listed).2 (mem_children_iff.mp listed').2
        (start member) (start member')
      rw [same] at before
      simp at before

/-- Where everything lies below directories, all that lies some names further down is visited, and
nothing else. -/
theorem mem_below_iff (rooted : tree.Rooted) (absolute : path.isAbsolute = true)
    (within : tree.EndsWithin count path) : (key, entry) ∈ tree.below count path.key ↔
      tree.entries[key]? = some entry ∧
        ∃ names place, names ≠ [] ∧ path.LiesBelow names place ∧ place.key = key := by
  induction count generalizing path with
  | zero =>
    refine iff_of_false List.not_mem_nil ?_
    rintro ⟨there, names, place, -, below, rfl⟩
    exact Nat.not_lt_zero _ (within names place below (of_getElem?_eq_some there))
  | succ count ih =>
    rw [mem_below_succ_iff]
    constructor
    · rintro ⟨⟨first, child⟩, listed, visited⟩
      obtain ⟨name, place, below, rfl, found, -⟩ := exists_place_of_mem_children absolute listed
      rcases visited with same | ⟨-, further⟩
      · obtain ⟨rfl, rfl⟩ := Prod.mk.inj same
        exact ⟨found, [name], place, List.cons_ne_nil _ _, below, rfl⟩
      · obtain ⟨there, names, lower, -, below', same⟩ :=
          (ih below.stillAbsolute (within.descend below)).mp further
        exact ⟨there, name :: names, lower, List.cons_ne_nil _ _, below.trans below', same⟩
    · rintro ⟨there, names, place, nonempty, below, rfl⟩
      obtain ⟨name, others, rfl⟩ := List.exists_cons_of_ne_nil nonempty
      -- the first name leads to a child, and the others lead on from it
      have first := below.truncate 1
      have rest := below.drop 1
      have isChild := (Path.isChildOf_iff_liesBelow absolute).mpr ⟨name, first⟩
      cases others with
      | nil =>
        have last : place.IsChildOf path := (Path.isChildOf_iff_liesBelow absolute).mpr ⟨name, below⟩
        exact ⟨_, mem_children_iff_isChildOf.mpr ⟨there, last⟩, Or.inl rfl⟩
      | cons second others =>
        have above : place.truncate (path.components.length + 1) ∈ place.ancestors := by
          refine Path.mem_ancestors_iff.mpr ⟨_, ?_, rfl⟩
          simp [below.components]
        obtain ⟨child, found, folder⟩ := rooted there _ above
        refine ⟨_, mem_children_iff_isChildOf.mpr ⟨found, isChild⟩, Or.inr ⟨folder, ?_⟩⟩
        exact (ih first.stillAbsolute (within.descend first)).mpr
          ⟨there, _, place, List.cons_ne_nil _ _, rest, rfl⟩

/-! ### How deep a tree goes -/

theorem nodup_keys_of_truncate (path : Path) :
    ((List.range (path.components.length + 1)).map fun count => (path.truncate count).key).Nodup := by
  refine List.Nodup.map_on (fun count within count' within' same => ?_) List.nodup_range
  have names := congrArg List.length (Path.components_eq_of_key same)
  rw [List.mem_range] at within within'
  simp only [Path.components_truncate, List.length_take] at names
  omega

/-- Where everything lies below directories, a tree goes no deeper below a root than it has entries.
-/
theorem endsWithin_size (rooted : tree.Rooted) (unnamed : root.components = []) :
    tree.EndsWithin tree.entries.size root := by
  intro names place below there
  have found : tree.get? place = some tree.entries[place.key] :=
    Std.ExtTreeMap.getElem?_eq_some_getElem there
  have kept : ∀ key ∈ (List.range (place.components.length + 1)).map
      fun count => (place.truncate count).key, key ∈ tree.entries.keys := by
    intro key member
    obtain ⟨count, -, rfl⟩ := List.mem_map.mp member
    rw [Std.ExtTreeMap.mem_keys]
    rcases Nat.lt_or_ge count place.components.length with fewer | all
    · obtain ⟨directory, found, -⟩ := rooted found _ (Path.mem_ancestors_iff.mpr ⟨count, fewer, rfl⟩)
      exact of_getElem?_eq_some found
    · rwa [Path.key_truncate all]
  have fewer := (nodup_keys_of_truncate place).length_le_of_subset kept
  rwa [List.length_map, List.length_range, Std.ExtTreeMap.length_keys, below.components, unnamed,
    List.nil_append] at fewer

/-! ### Whole namespaces -/

/-- A walk from the root of a namespace ends if it may go as deep as there are entries. It visits every
other entry that is at an absolute path of the namespace, each once, and no other entry. -/
theorem walk_visits_once (rooted : tree.Rooted) (absolute : root.isAbsolute = true)
    (unnamed : root.components = []) (holds : tree.HoldsDirectory root) :
    ∃ visited : List (List Char × Entry),
      (∀ depth, tree.entries.size ≤ depth →
        tree.walk depth root = some (visited.map fun (key, entry) => entry.status key)) ∧
      (visited.map Prod.fst).Nodup ∧
      ∀ key entry, (key, entry) ∈ visited ↔
        tree.entries[key]? = some entry ∧ key ≠ root.key ∧
          ∃ path : Path, path.key = key ∧ path.isAbsolute = true ∧ path.scheme = root.scheme ∧
            path.authority = root.authority := by
  have within := endsWithin_size rooted unnamed
  refine ⟨tree.below tree.entries.size root.key,
    fun depth enough => walk_eq_below holds absolute within enough,
    tree.nodup_below tree.entries.size root.key, fun key entry => ?_⟩
  rw [mem_below_iff rooted absolute within]
  refine and_congr_right fun _ => ⟨?_, ?_⟩
  · rintro ⟨names, place, nonempty, below, rfl⟩
    refine ⟨fun same => nonempty ?_, place, rfl, below.stillAbsolute, below.scheme, below.authority⟩
    have components := below.components.symm.trans (Path.components_eq_of_key same)
    simpa using components
  · rintro ⟨other, place, rfl, absolute', scheme, authority⟩
    -- the root has no names, so those of the place lead there from it
    have below : root.LiesBelow place.components place :=
      { scheme, authority, absolute, stillAbsolute := absolute', components := by simp [unnamed] }
    refine ⟨place.components, place, fun none => other ?_, below, rfl⟩
    rw [below.key, none, List.flatMap_nil, List.append_nil]

/-- Two files are made, one of them in a namespace whose keys start like the root of the other's. The
walk from that root visits only what is its own. -/
theorem walk_visits_once_overlaid :
    let root : Path := ⟨none, none, ['/'], by decide⟩
    let file : Path := ⟨none, none, ['/', 'a', '/', 'f'], by decide⟩
    let foreign : Path := ⟨some ['/', 'a'], some ['c'], ['/', 'd'], by decide⟩
    let tree := ((Tree.createFile {} file {}).2.createFile foreign {}).2
    tree.Rooted ∧ root.isAbsolute = true ∧ root.components = [] ∧ tree.HoldsDirectory root ∧
      root.key <+: foreign.key ∧ (tree.get? foreign).isSome = true ∧
      ∃ visited : List (List Char × Entry),
        tree.walk tree.entries.size root = some (visited.map fun (key, entry) => entry.status key) ∧
        (visited.map Prod.fst).Nodup ∧ (file.key, .file [] false) ∈ visited ∧
        foreign.key ∉ visited.map Prod.fst := by
  intro root file foreign tree
  have rooted : tree.Rooted := fun _ _ there =>
    ((Connected.empty.createFile (by decide) {}).createFile (by decide) {}).rooted there
  have absolute : root.isAbsolute = true := by decide
  have unnamed : root.components = [] := by decide
  have holds : tree.HoldsDirectory root := by decide
  obtain ⟨visited, walked, once, member⟩ := walk_visits_once rooted absolute unnamed holds
  refine ⟨rooted, absolute, unnamed, holds, by decide, by decide, visited, walked _ (Nat.le_refl _),
    once, (member _ _).mpr ⟨by decide, by decide, file, rfl, by decide, rfl, rfl⟩, ?_⟩
  rintro listed
  obtain ⟨⟨key, entry⟩, here, same⟩ := List.mem_map.mp listed
  obtain ⟨-, -, path, same', -, scheme, -⟩ := (member _ _).mp here
  -- a key tells the scheme
  have other : foreign.scheme = root.scheme :=
    (Path.scheme_eq_of_key (same'.trans same)).symm.trans scheme
  cases other

end Tree

end CacheFirst.Memory
