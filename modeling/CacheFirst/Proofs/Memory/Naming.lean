import CacheFirst.Proofs.Access.Execution
import CacheFirst.Proofs.Memory.Scanning
import CacheFirst.Proofs.Memory.StatusPlace
import CacheFirst.Proofs.Path.Keys
import CacheFirst.Proofs.Path.Placing

/-!
# A status names its entry

A status names the place of its entry by the key without its last separators, and whoever has the
status reads that text as a path again, to look the entry up, to open it, or to ask where its blocks
are. For an absolute place this leads back to the entry, at every depth and at the root of the
namespace, with one exception: the root of a namespace that has a scheme and no authority. The
separators that are taken from `file:///` are also those of its scheme, and what is left, `file:`,
is a relative path.

## Main definitions

* `Path.IsBareRoot`: such a root.
* `Tree.LeadsBack`: what is asked for with a status is asked of its entry.

## Main results

* `Entry.exists_ofString_placeText`, `Entry.key_ne_of_bareRoot`: the text in a status is read as a
  path with the key of its entry, exactly if that is no bare root.
* `Tree.status_leads_back`: every status leads back to its entry.
* `Tree.status_of_bare_root`: the exception.
-/

namespace CacheFirst

namespace Path

/-- The root of a namespace that has a scheme and no authority. -/
def IsBareRoot (path : Path) : Prop :=
  path.components = [] ∧ path.scheme ≠ none ∧ path.authority = none

instance (path : Path) : Decidable path.IsBareRoot :=
  inferInstanceAs (Decidable (_ ∧ _ ∧ _))

variable {path place : Path}

theorem key_of_root (absolute : path.isAbsolute = true) (root : path.components = []) :
    path.key = path.origin ++ ['/'] := by
  show path.origin ++ (path.lead ++ path.components.flatMap (· ++ ['/'])) = _
  rw [root, lead_of_isAbsolute absolute, List.flatMap_nil, List.append_nil]

theorem key_ne_separator (scheme : path.scheme ≠ none) : path.key ≠ ['/'] := by
  intro bare
  have same : path.key = Path.root.key := bare
  exact scheme (scheme_eq_of_key same)

/-- The origin of a namespace with an authority is written like a path that has the key of the root.
-/
theorem exists_text_eq_origin {authority : List Char} (scheme : path.scheme ≠ none)
    (named : path.authority = some authority) (root : path.components = []) :
    ∃ place : Path, place.text = path.origin ∧ place.key = path.key := by
  have fits : Fits path.scheme path.authority [] :=
    { unsplit := fun missing => absurd missing scheme
      named := path.fits.named
      bounded := path.fits.bounded
      starts := fun _ => Or.inl rfl
      followed := fun _ missing => by rw [named] at missing; cases missing }
  have absolute {path : Path} (scheme : path.scheme ≠ none) : path.isAbsolute = true := by
    simp [isAbsolute, Option.isSome_iff_ne_none, scheme]
  let place : Path := { path with body := [], fits }
  have key : place.key = place.origin ++ ['/'] := key_of_root (absolute scheme) components_nil
  exact ⟨place, List.append_nil _, key.trans (key_of_root (absolute scheme) root).symm⟩

/-- An origin with an authority does not end with a separator. -/
theorem getLast?_origin {authority : List Char} (scheme : path.scheme ≠ none)
    (named : path.authority = some authority) : path.origin.getLast? ≠ some '/' := by
  obtain ⟨written, plain⟩ := path.fits.bounded authority named
  obtain ⟨name, present⟩ := Option.ne_none_iff_exists'.mp scheme
  rw [origin, present, named]
  intro ends
  have last : authority.getLast? = some '/' := by
    simpa [List.getLast?_append, List.getLast?_cons, List.getLast?_eq_some_getLast written]
      using ends
  exact plain (List.mem_of_getLast? last)

end Path

namespace Memory

/-! ### The text in a status -/

/-- The text in the status of an absolute place is read as a path with the key of the place, unless
that is a bare root. -/
theorem Entry.exists_ofString_placeText {place : Path} (absolute : place.isAbsolute = true)
    (named : ¬place.IsBareRoot) :
    ∃ path, Path.ofString (placeText place.key) = .ok path ∧ path.key = place.key := by
  by_cases root : place.components = []
  · have key := Path.key_of_root absolute root
    cases scheme : place.scheme with
    | none =>
      -- the root without a scheme is a separator, and stays one
      have bare : place.key = ['/'] := by rw [key, Path.origin, scheme]; rfl
      rw [bare]
      exact ⟨.root, rfl, rfl⟩
    | some name =>
      have present : place.scheme ≠ none := by rw [scheme]; exact Option.some_ne_none name
      obtain ⟨authority, bounded⟩ : ∃ authority, place.authority = some authority :=
        Option.ne_none_iff_exists'.mp fun missing => named ⟨root, present, missing⟩
      obtain ⟨path, text, same⟩ := Path.exists_text_eq_origin present bounded root
      have written : path.text ≠ [] := by simp [text, Path.origin, scheme]
      refine ⟨path, ?_, same⟩
      rw [placeText, if_neg (Path.key_ne_separator present), key, trimSeparators_append_separator,
        trimSeparators_of_getLast? (Path.getLast?_origin present bounded), ← text, Path.ofString,
        String.toList_ofList]
      exact Path.parse_text written
  · exact ⟨_, ofString_placeText root, Path.key_truncate (Nat.le_refl _)⟩

/-- The text in the status of a bare root is its scheme and a colon, and a path that is read from
that has another key. -/
theorem Entry.key_ne_of_bareRoot {place path : Path} (bare : place.IsBareRoot)
    (read : Path.ofString (placeText place.key) = .ok path) : path.key ≠ place.key := by
  obtain ⟨root, present, missing⟩ := bare
  obtain ⟨scheme, named⟩ := Option.ne_none_iff_exists'.mp present
  have absolute : place.isAbsolute = true := by simp [Path.isAbsolute, named]
  have key : place.key = scheme ++ [':'] ++ ['/'] ++ ['/'] ++ ['/'] := by
    rw [Path.key_of_root absolute root, Path.origin, named, missing]
    simp
  have trimmed : trimSeparators place.key = scheme ++ [':'] := by
    simp only [key, trimSeparators_append_separator]
    exact trimSeparators_of_getLast? (by simp)
  rw [placeText, if_neg (Path.key_ne_separator present), trimmed, Path.ofString,
    String.toList_ofList] at read
  intro same
  -- a path of this scheme is written with at least two more characters
  have lengths := congrArg List.length (Path.text_of_parse read)
  rw [Path.text, Path.origin, (Path.scheme_eq_of_key same).trans named] at lengths
  simp at lengths

/-! ### Back to the entry -/

namespace Tree

variable {tree : Tree}

/-- A status lookup gives the status of the entry that is at the place. -/
theorem exists_entry_of_status {asked : Path} {status : Status}
    (found : tree.status asked = .ok status) :
    ∃ entry, tree.get? asked = some entry ∧ status = entry.status asked.key := by
  cases there : tree.get? asked with
  | none =>
    rw [status_of_absent there] at found
    cases found
  | some entry =>
    rw [status_of_present there] at found
    exact ⟨entry, rfl, (Except.ok.inj found).symm⟩

/-- A listing gives the statuses of entries directly below the place, or of the entry that is at it.
-/
theorem exists_entry_of_listing {asked : Path} {statuses : List Status}
    (found : tree.listing asked = .ok statuses) {status : Status} (listed : status ∈ statuses) :
    ∃ key entry, tree.entries[key]? = some entry ∧
      (key = asked.key ∨ isChildKey asked.key key = true) ∧ status = entry.status key := by
  cases there : tree.get? asked with
  | none =>
    rw [listing_of_absent there] at found
    cases found
  | some entry =>
    rw [listing_of_present there] at found
    obtain rfl := Except.ok.inj found
    split at listed
    · obtain ⟨⟨key, child⟩, member, rfl⟩ := List.mem_map.mp listed
      obtain ⟨kept, below⟩ := mem_children_iff.mp member
      exact ⟨key, child, kept, Or.inr below, rfl⟩
    · exact ⟨asked.key, entry, there, Or.inl rfl, List.mem_singleton.mp listed⟩

/-- What is asked for with a status is asked of the entry that the status is about: the text in it
is read as a path with the key of the entry, so that looking up gives the same status, opening gives
what reading there gives, and a layer that leaves the path where it is asks for the blocks there. -/
structure LeadsBack (tree : Tree) (key : List Char) (entry : Entry) (path : Path) : Prop where
  read : Path.ofString (entry.status key).storePath = .ok path
  same : path.key = key
  status : tree.status path = .ok (entry.status key)
  opened : tree.readStatus (entry.status key) =
    if entry.folder then .error (.other s!"{path} is a directory") else .ok entry.data
  blocks {H : Handles} {σ : Type} (layer : AccessLayer) (tiers : Tiers H σ) (state : σ)
    (reached : ∀ root ∈ layer.mount.root, root.covers path = .ok true) :
    (Access.exec tiers (layer.blocksOfStatus (entry.status key)) state).calls =
      [.cache (.resolveWorker path)]

theorem leadsBack_of_read {place path : Path} {entry : Entry}
    (there : tree.get? place = some entry)
    (read : Path.ofString (entry.status place.key).storePath = .ok path)
    (same : path.key = place.key) : tree.LeadsBack place.key entry path where
  read := read
  same := same
  status := by
    have there' : tree.get? path = some entry := (get?_congr same).trans there
    rw [status_of_present there', same]
  opened := by
    have there' : tree.get? path = some entry := (get?_congr same).trans there
    rw [readStatus, read]
    dsimp only
    rw [Tree.read, find_of_present there']
    cases folder : entry.folder <;> simp [bind, Except.bind, folder] <;> rfl
  blocks layer tiers state reached := by
    have kept : layer.mount.place path = .ok path := by
      cases root : layer.mount.root with
      | none => exact Mount.place_of_no_root root path
      | some root' => exact Mount.place_of_covered root (reached root' root)
    rw [AccessLayer.exec_blocksOfStatus read kept rfl]
    rfl

/-- Everything that a tree says is the status of an entry: at the place that is asked about, or
directly below it. The status of an entry that is at an absolute place leads back to the entry,
exactly if the place is no bare root. -/
theorem status_leads_back (tree : Tree) :
    (∀ (asked : Path) (status : Status), tree.status asked = .ok status →
      ∃ entry, tree.get? asked = some entry ∧ status = entry.status asked.key) ∧
    (∀ (asked : Path) (statuses : List Status), tree.listing asked = .ok statuses →
      ∀ status ∈ statuses, ∃ key entry, tree.entries[key]? = some entry ∧
        (key = asked.key ∨ isChildKey asked.key key = true) ∧ status = entry.status key) ∧
    ∀ (key : List Char) (entry : Entry), tree.entries[key]? = some entry →
      ∀ place : Path, place.isAbsolute = true → place.key = key →
        (entry.status key).path = (entry.status key).storePath ∧
          ((∃ path, tree.LeadsBack key entry path) ↔ ¬place.IsBareRoot) := by
  refine ⟨fun _ _ found => exists_entry_of_status found,
    fun _ _ found _ listed => exists_entry_of_listing found listed, ?_⟩
  rintro key entry there place absolute rfl
  refine ⟨rfl, ?_, fun named => ?_⟩
  · rintro ⟨path, back⟩ bare
    exact Entry.key_ne_of_bareRoot bare back.read back.same
  · obtain ⟨path, read, same⟩ := Entry.exists_ofString_placeText absolute named
    exact ⟨path, leadsBack_of_read there read same⟩

/-- The directory that is made above `s3://b/f` is listed by nobody, but looked up at `s3://b//`. -/
theorem status_leads_back_bucket :
    let file : Path := ⟨some ['s', '3'], some ['b'], ['/', 'f'], by decide⟩
    let bucket : Path := ⟨some ['s', '3'], some ['b'], ['/', '/'], by decide⟩
    let tree := Tree.put {} file (.file [1] true)
    let status := Entry.directory.status bucket.key
    tree.status bucket = .ok status ∧ status.storePath = "s3://b" ∧
      ∃ path, tree.LeadsBack bucket.key .directory path := by
  intro file bucket tree status
  obtain ⟨-, -, entries⟩ := tree.status_leads_back
  have there : tree.entries[bucket.key]? = some .directory := by decide
  obtain ⟨-, back⟩ := entries bucket.key .directory there bucket rfl rfl
  exact ⟨by decide, by decide, back.mpr (by decide)⟩

/-- A file is put below `file:///`. The status of the root above it names `file:`, and nothing is
there. -/
theorem status_of_bare_root :
    let file : Path := ⟨some ['f', 'i', 'l', 'e'], none, ['/', 'a'], by decide⟩
    let root : Path := ⟨some ['f', 'i', 'l', 'e'], none, ['/'], by decide⟩
    let other : Path := ⟨none, none, ['f', 'i', 'l', 'e', ':'], by decide⟩
    let tree := Tree.put {} file (.file [1] true)
    let status := Entry.directory.status root.key
    root.isAbsolute = true ∧ tree.status root = .ok status ∧
      Path.ofString status.storePath = .ok other ∧ other.key ≠ root.key ∧
      tree.status other = .error (.notFound "file:") ∧
      tree.readStatus status = .error (.notFound "file:") := by
  decide

end Tree

end Memory

end CacheFirst
