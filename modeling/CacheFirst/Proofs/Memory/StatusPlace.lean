import CacheFirst.Memory.Tree
import CacheFirst.Path.Lemmas

/-!
# Where a status leads

A tree finds things by key, and a status names its place by text: the key without its last
separator. A caller who has only the status reads that text as a path again. Below a root this leads
back to the entry that the status is about, however the path was spelled that it was asked for with.

## Main results

* `Tree.get?_congr`: a tree looks at keys alone.
* `Tree.listing_normalized`: a listing does not depend on the spelling of the path.
* `Entry.ofString_placeText`: the text in a status is read as the path of all names of the place.
* `Tree.readStatus_status`: opening what a status describes gives the contents of its entry.
-/

namespace CacheFirst.Memory

/-! ### Looking up -/

namespace Tree

variable {tree : Tree} {place other : Path} {entry : Entry}

/-- A tree looks at keys alone. -/
theorem get?_congr (same : place.key = other.key) : tree.get? place = tree.get? other := by
  rw [get?, same, ← get?]

theorem find_of_present (present : tree.get? place = some entry) : tree.find place = .ok entry := by
  rw [find, present]

theorem find_of_absent (absent : tree.get? place = none) :
    tree.find place = .error (.notFound place.toString) := by
  rw [find, absent]

theorem status_of_present (present : tree.get? place = some entry) :
    tree.status place = .ok (entry.status place.key) := by
  rw [status, find_of_present present]
  rfl

theorem status_of_absent (absent : tree.get? place = none) :
    tree.status place = .error (.notFound place.toString) := by
  rw [status, find_of_absent absent]
  rfl

theorem read_of_present (present : tree.get? place = some entry) (file : entry.folder = false) :
    tree.read place = .ok entry.data := by
  rw [read, find_of_present present]
  show (if entry.folder = true then _ else _) = _
  rw [file]
  rfl

theorem listing_of_present (present : tree.get? place = some entry) :
    tree.listing place = .ok (if entry.folder then
      (tree.children place.key).map fun (key, child) => child.status key
      else [entry.status place.key]) := by
  rw [listing, find_of_present present]
  show (if entry.folder = true then _ else _) = _
  split <;> rfl

theorem listing_of_absent (absent : tree.get? place = none) :
    tree.listing place = .error (.notFound place.toString) := by
  rw [listing, find_of_absent absent]
  rfl

/-- A listing does not depend on the spelling of the path. -/
theorem listing_normalized (present : tree.get? place = some entry) :
    tree.listing place.normalized = tree.listing place := by
  have normalized : tree.get? place.normalized = some entry := by
    rw [get?_congr place.key_normalized]
    exact present
  rw [listing_of_present normalized, listing_of_present present, place.key_normalized]

end Tree

/-! ### From a status back to its entry -/

/-- The text in the status of an entry below a root is read as the path of all names of its place.
-/
theorem Entry.ofString_placeText {place : Path} (below : place.components ≠ []) :
    Path.ofString (placeText place.key) = .ok (place.truncate place.components.length) := by
  have named : (place.truncate place.components.length).components ≠ [] := by
    rwa [Path.components_truncate, List.take_length]
  have written : (place.truncate place.components.length).text ≠ [] := Path.text_ne_nil named
  -- a key that is nothing but a separator belongs to a path without names
  have proper : place.key ≠ ['/'] := by
    intro bare
    have trimmed := Path.trimSeparators_key below
    rw [bare] at trimmed
    exact written trimmed.symm
  rw [placeText, if_neg proper, Path.trimSeparators_key below, Path.ofString, String.toList_ofList]
  exact Path.parse_text written

/-- Opening what the status of a file describes gives the contents of the file. -/
theorem Tree.readStatus_status {tree : Tree} {place : Path} {entry : Entry}
    (below : place.components ≠ []) (present : tree.get? place = some entry)
    (file : entry.folder = false) : tree.readStatus (entry.status place.key) = .ok entry.data := by
  -- the text in the status is another spelling of the place, and has its key
  have key : (place.truncate place.components.length).key = place.key :=
    Path.key_truncate (Nat.le_refl _)
  have found : tree.get? (place.truncate place.components.length) = some entry := by
    rw [get?_congr key]
    exact present
  rw [readStatus, Entry.status, Entry.ofString_placeText below]
  exact read_of_present found file

end CacheFirst.Memory
