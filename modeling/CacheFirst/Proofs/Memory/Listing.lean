import CacheFirst.Proofs.Memory.Connected
import CacheFirst.Proofs.Memory.Scanning
import CacheFirst.Proofs.Memory.StatusPlace
import CacheFirst.Proofs.Path.Children

/-!
# Listings

A listing looks at the texts of keys: it takes the keys that start with that of the directory and go
on with one name. These are the keys of the directory's children, whatever else the tree holds. What is
below a child has a separator in the rest of its key, a sibling of a similar name does not start with
the key of the directory, and a namespace whose scheme starts like that key has a doubled separator
where a name would be.

## Main results

* `isChildKey_iff_isChildOf`: the test on texts finds the children.
* `Tree.mem_children_iff_isChildOf`: what is directly below a directory.
* `Tree.listing_is_children`: what a listing answers.
-/

namespace CacheFirst.Memory

/-- The key of a path lies directly below that of a directory exactly if the path is a child. -/
theorem isChildKey_iff_isChildOf {directory : Path} {key : List Char} :
    isChildKey directory.key key = true ↔ ∃ path : Path, path.key = key ∧ path.IsChildOf directory := by
  rw [isChildKey_iff]
  constructor
  · rintro ⟨name, nonempty, plain, rfl⟩
    obtain ⟨path, child, key⟩ := directory.exists_isChildOf ⟨nonempty, plain⟩
    exact ⟨path, key, child⟩
  · rintro ⟨path, rfl, child⟩
    exact child.exists_key

namespace Tree

variable {tree : Tree} {directory path : Path} {child entry : Entry}

/-- What is directly below a directory is what is at its children. -/
theorem mem_children_iff_isChildOf : (path.key, child) ∈ tree.children directory.key ↔
    tree.get? path = some child ∧ path.IsChildOf directory := by
  rw [mem_children_iff, isChildKey_iff_isChildOf, get?]
  refine and_congr_right fun _ => ⟨?_, fun below => ⟨path, rfl, below⟩⟩
  rintro ⟨other, same, below⟩
  exact (Path.isChildOf_congr same).mp below

theorem listing_of_folder (present : tree.get? directory = some entry) (folder : entry.folder = true) :
    tree.listing directory =
      .ok ((tree.children directory.key).map fun (key, child) => child.status key) := by
  rw [listing_of_present present, if_pos folder]

/-- What is missing is not listed, and a file is listed as itself. The listing of a directory has the
status of everything whose parent is the directory, each once and in the order of the keys. All of it
is in the namespace of the directory and exactly one name further down. -/
theorem listing_is_children (tree : Tree) (directory : Path) :
    (tree.get? directory = none →
      tree.listing directory = .error (.notFound directory.toString)) ∧
    (∀ entry, tree.get? directory = some entry → entry.folder = false →
      tree.listing directory = .ok [entry.status directory.key]) ∧
    (tree.HoldsDirectory directory → ∃ children : List (List Char × Entry),
      tree.listing directory = .ok (children.map fun (key, child) => child.status key) ∧
      children.Pairwise (fun earlier later => compare earlier.1 later.1 = .lt) ∧
      (∀ key child, (key, child) ∈ children ↔ tree.entries[key]? = some child ∧
        ∃ path : Path, path.key = key ∧ path.IsChildOf directory) ∧
      ∀ (path : Path) child, (path.key, child) ∈ children →
        path.scheme = directory.scheme ∧ path.authority = directory.authority ∧
          ∃ name, path.components = directory.components ++ [name]) := by
  refine ⟨listing_of_absent, fun entry present file => ?_, fun ⟨entry, present, folder⟩ => ?_⟩
  · rw [listing_of_present present, file]
    rfl
  · refine ⟨tree.children directory.key, listing_of_folder present folder,
      tree.ordered_children directory.key, fun key child => ?_, fun path child listed => ?_⟩
    · rw [mem_children_iff, isChildKey_iff_isChildOf]
    · obtain ⟨-, below⟩ := mem_children_iff_isChildOf.mp listed
      obtain ⟨scheme, authority, -, more⟩ := Path.isChildOf_iff.mp below
      exact ⟨scheme, authority, more⟩

/-- A directory is listed beside a sibling of a similar name, and a namespace whose scheme starts like
its key. What is directly below it is listed, and what lies deeper is not. -/
theorem listing_is_children_overlaid :
    let directory : Path := ⟨none, none, ['/', 'a'], by decide⟩
    let file : Path := ⟨none, none, ['/', 'a', '/', 'f'], by decide⟩
    let deeper : Path := ⟨none, none, ['/', 'a', '/', 'g', '/', 'h'], by decide⟩
    let sibling : Path := ⟨none, none, ['/', 'a', 'b'], by decide⟩
    let foreign : Path := ⟨some ['/', 'a', '/', 'b'], some ['c'], ['/'], by decide⟩
    let tree := (((Tree.put {} file (.file [1] true)).put deeper (.file [2] true)).put sibling
      .directory).put foreign .directory
    tree.HoldsDirectory directory ∧ directory.key <+: foreign.key ∧
      ∃ children : List (List Char × Entry),
        tree.listing directory = .ok (children.map fun (key, child) => child.status key) ∧
        (file.key, .file [1] true) ∈ children ∧ (deeper.key, .file [2] true) ∉ children ∧
        (sibling.key, .directory) ∉ children ∧ (foreign.key, .directory) ∉ children := by
  intro directory file deeper sibling foreign tree
  have holds : tree.HoldsDirectory directory := by decide
  obtain ⟨children, listed, -, member, -⟩ := (listing_is_children tree directory).2.2 holds
  have apart (path : Path) (child : Entry) (apart : ¬path.IsChildOf directory) :
      (path.key, child) ∉ children := by
    rw [member]
    rintro ⟨-, other, same, below⟩
    exact apart ((Path.isChildOf_congr same).mp below)
  exact ⟨holds, by decide, children, listed,
    (member _ _).mpr ⟨by decide, file, rfl, by decide⟩, apart deeper _ (by decide),
    apart sibling _ (by decide), apart foreign _ (by decide)⟩

end Tree

end CacheFirst.Memory
