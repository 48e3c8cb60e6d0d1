import CacheFirst.Memory.Tiers
import CacheFirst.Proofs.Memory.Connected

/-!
# Changes that fail

A change that is refused leaves everything as it is. One that fails on the way to its place leaves
what was made of the way. If it may make only the root of the namespace, that is at most the root. If
it may make the whole way it is nothing, as long as nothing is missing above a file: it fails at a
file, and everything above that was there already.

Queries look at one place, or at what is directly below it. The root of a namespace lies directly
below nothing, so a root that was made changes no answer but those at the root itself.

## Main definitions

* `Tree.Supports`: nothing is missing above a file on the way to a place.
* `Tree.missingRoot?`: the root on a way, if it is missing.
* `Store.way?`, `StoreCall.place?`: where a call makes a way to, and where a query looks.
* `Store.missingRoot?`: what a call leaves behind if it fails.

## Main results

* `Tree.ensureAncestors_false`, `Tree.eq_of_ensureAncestors_error`: what is left of a way that could
  not be made.
* `Tree.listing_congr`: a listing depends on the place and on what is directly below it alone.
* `isChildKey_root`: the root of a namespace lies directly below nothing.
* `Store.answer_error`: what a call that fails leaves behind, and what is answered after it.
* `Store.answer_error_root`: a root that was made stays.
-/

namespace CacheFirst

/-- The place that a query looks at. -/
def StoreCall.place? : StoreCall → Option Path
  | getStatus path _ | listStatus path _ | isPresent path _ => some path
  | openStream status _ | openReader status _ => (Path.ofString status.storePath).toOption
  | createFile .. | createDirectory .. | rename .. | setAttributes .. => none

namespace Memory

namespace Tree

variable {tree after : Tree} {path : Path} {error : TierError}

/-! ### Ways that cannot be made -/

/-- A file is at a place. -/
def HoldsFile (tree : Tree) (path : Path) : Prop :=
  ∃ entry, tree.get? path = some entry ∧ entry.folder = false

instance : Decidable (tree.HoldsFile path) :=
  decidable_of_iff ((tree.get? path).any (!·.folder) = true) (by simp [HoldsFile, Option.any_eq_true])

/-- Nothing is missing above a file on the way to a place. -/
def Supports (tree : Tree) (path : Path) : Prop :=
  path.ancestors.Pairwise fun above upper => tree.HoldsFile upper → tree.get? above ≠ none

instance : Decidable (tree.Supports path) :=
  inferInstanceAs (Decidable (List.Pairwise _ _))

theorem Connected.supports (connected : tree.Connected) (path : Path) : tree.Supports path := by
  refine path.pairwise_ancestors.imp fun {outer _} above => ?_
  rintro ⟨file, there, -⟩
  obtain ⟨directory, present, -⟩ := connected.rooted there outer above
  simp [present]

/-- Where no directory may be made, none is. -/
theorem ensureDirectories_false (keys : List (List Char)) (tree : Tree) :
    (tree.ensureDirectories false keys).2 = tree := by
  induction keys with
  | nil => rfl
  | cons key others ih =>
    rw [ensureDirectories, ensureDirectory]
    cases tree.entries[key]? with
    | none => rfl
    | some entry =>
      cases folder : entry.folder with
      | true => simpa [folder] using ih
      | false => simp [folder]

/-- Where directories may be made, only a file is in the way. What was made is all before it. -/
theorem exists_file_of_ensureDirectories_error {keys : List (List Char)}
    (failed : tree.ensureDirectories true keys = (.error error, after)) :
    ∃ done key rest file, keys = done ++ key :: rest ∧ tree.Grows done after ∧
      tree.entries[key]? = some file ∧ file.folder = false := by
  induction keys generalizing tree with
  | nil => cases failed
  | cons key others ih =>
    rw [ensureDirectories] at failed
    rcases ensureDirectory_grows true key tree with ⟨between, first, grows⟩ | ⟨refusal, first⟩
    · rw [first] at failed
      obtain ⟨done, stop, rest, file, rfl, further, there, plain⟩ := ih failed
      exact ⟨key :: done, stop, rest, file, rfl, grows.append further, grows.file there plain, plain⟩
    · rw [first] at failed
      obtain ⟨-, rfl⟩ := Prod.mk.inj failed
      rw [ensureDirectory] at first
      cases there : tree.entries[key]? with
      | none => simp [there] at first
      | some file =>
        cases folder : file.folder with
        | true => simp [there, folder] at first
        | false => exact ⟨[], key, others, file, rfl, .refl tree, there, folder⟩

/-- If the whole way may be made, the root is nothing special. -/
theorem ensureAncestors_true (path : Path) (tree : Tree) :
    tree.ensureAncestors true path = tree.ensureDirectories true (path.ancestors.map Path.key) := by
  rw [ensureAncestors]
  cases path.ancestors.map Path.key with
  | nil => rfl
  | cons outermost inner => rfl

/-- A way of which all may be made fails without a trace, if nothing is missing above a file. -/
theorem eq_of_ensureAncestors_error (failed : tree.ensureAncestors true path = (.error error, after))
    (supported : tree.Supports path) : after = tree := by
  rw [ensureAncestors_true] at failed
  obtain ⟨done, key, rest, file, whole, grows, there, plain⟩ :=
    exists_file_of_ensureDirectories_error failed
  -- the way splits where the file is
  obtain ⟨outer, inner, split, outerKeys, innerKeys⟩ := List.map_eq_append_iff.mp whole
  obtain ⟨upper, lower, rfl, rfl, -⟩ := List.map_eq_cons_iff.mp innerKeys
  rw [Supports, split, List.pairwise_append] at supported
  obtain ⟨-, -, supported⟩ := supported
  refine grows.eq_of_present fun key member => ?_
  rw [← outerKeys] at member
  obtain ⟨above, higher, rfl⟩ := List.mem_map.mp member
  exact supported above higher upper List.mem_cons_self ⟨file, there, plain⟩

/-- The outermost place on the way to another, if nothing is there. -/
def missingRoot? (tree : Tree) (path : Path) : Option Path :=
  path.ancestors.head?.filter fun root => (tree.get? root).isNone

/-- A tree with a directory made at a place, if one is given. -/
def withDirectory (tree : Tree) : Option Path → Tree
  | some place => tree.insert place.key .directory
  | none => tree

/-- Of a way of which only the root may be made, the root is made if it was missing, and no more. -/
theorem ensureAncestors_false (path : Path) (tree : Tree) :
    (tree.ensureAncestors false path).2 = tree.withDirectory (tree.missingRoot? path) := by
  unfold ensureAncestors missingRoot?
  cases path.ancestors with
  | nil => rfl
  | cons root inner =>
    simp only [List.map_cons, List.head?_cons, Option.filter_some, get?]
    cases there : tree.entries[root.key]? with
    | none => simp [ensureDirectory, there, ensureDirectories_false, withDirectory]
    | some entry =>
      cases folder : entry.folder <;>
        simp [ensureDirectory, there, folder, ensureDirectories_false, withDirectory]

/-! ### Queries -/

/-- Trees that agree on the keys that are asked for list the same entries under them. -/
theorem filter_toList_congr {asked : List Char → Bool}
    (same : ∀ key, asked key = true → after.entries[key]? = tree.entries[key]?) :
    (after.entries.toList.filter fun child => asked child.1) =
      tree.entries.toList.filter fun child => asked child.1 := by
  have ordered (tree : Tree) : (tree.entries.toList.filter fun child => asked child.1).Pairwise
      fun child other => compare child.1 other.1 = .lt :=
    tree.entries.ordered_keys_toList.filter _
  have distinct (tree : Tree) : (tree.entries.toList.filter fun child => asked child.1).Nodup :=
    (ordered tree).imp fun less same => by
      subst same
      simp at less
  have members : ∀ child, child ∈ (after.entries.toList.filter fun child => asked child.1) ↔
      child ∈ tree.entries.toList.filter fun child => asked child.1 := by
    rintro ⟨key, entry⟩
    rw [List.mem_filter, List.mem_filter, Std.ExtTreeMap.mem_toList_iff_getElem?_eq_some,
      Std.ExtTreeMap.mem_toList_iff_getElem?_eq_some]
    exact and_congr_left fun member => by rw [same key member]
  have strict (child other : List Char × Entry) (less : compare child.1 other.1 = .lt)
      (more : compare other.1 child.1 = .lt) : child = other :=
    absurd more (Std.OrientedCmp.not_lt_of_lt less)
  -- what is ordered by its keys is told by its members
  exact List.Perm.eq_of_pairwise (fun child other _ _ => strict child other) (ordered after)
    (ordered tree) ((List.perm_ext_iff_of_nodup (distinct after) (distinct tree)).mpr members)

/-- A listing depends on the place and on what is directly below it alone. -/
theorem listing_congr (here : after.get? path = tree.get? path)
    (below : ∀ key, isChildKey path.key key = true → after.entries[key]? = tree.entries[key]?) :
    after.listing path = tree.listing path := by
  unfold listing find
  rw [here, children_eq_filter, children_eq_filter, filter_toList_congr below]

end Tree

/-! ### Roots -/

/-- The root of a namespace lies directly below nothing. -/
theorem isChildKey_root {path place root : Path} (outermost : path.ancestors.head? = some root) :
    isChildKey place.key root.key = false := by
  have key : root.key = path.origin ++ path.lead := by
    rw [Path.ancestors, List.head?_map, List.head?_range] at outermost
    split at outermost
    · cases outermost
    · obtain rfl := Option.some.inj outermost
      simp [Path.key_truncate_eq]
  rw [Bool.eq_false_iff, Ne, isChildKey_iff]
  rintro ⟨name, nonempty, plain, whole⟩
  rw [key] at whole
  cases named : path.scheme with
  | none =>
    -- without a scheme there is no more than the lead
    have short : path.lead.length ≤ 1 := by
      unfold Path.lead
      split <;> simp
    have long := List.length_pos_iff.mpr nonempty
    have lengths := congrArg List.length whole
    simp only [Path.origin, named, List.nil_append, List.length_append, List.length_singleton]
      at lengths
    omega
  | some scheme =>
    rw [Path.lead_of_isAbsolute (by simp [Path.isAbsolute, named]), Path.origin, named] at whole
    have start : scheme ++ ':' :: '/' :: '/' :: path.authority.getD [] = place.key ++ name :=
      List.append_cancel_right whole
    by_cases written : place.key = []
    · -- a scheme ends with separators, and a name has none
      rw [written, List.nil_append] at start
      exact plain (by simp [← start])
    · -- what is before the authority is a scheme with nothing behind it, and that is no key
      have bounded : '/' ∉ path.authority.getD [] := by
        cases authority : path.authority with
        | none => simp
        | some authority' => exact (path.fits.bounded authority' authority).2
      obtain ⟨front, ends⟩ := List.getLast?_eq_some_iff.mp (Path.getLast?_key written)
      have same : scheme ++ [':', '/'] ++ '/' :: path.authority.getD [] = front ++ '/' :: name := by
        simpa [ends] using start
      obtain ⟨rfl, -⟩ := eq_of_separator_append bounded plain same
      exact Path.key_ne_bare (path.fits.named scheme named).2 (by simpa using ends)

namespace Store

/-- A query is answered from the place that it looks at and from what is directly below it. -/
theorem answer_congr {store other : Store} {query : StoreCall} {place : Path}
    (looks : query.place? = some place) (here : other.tree.get? place = store.tree.get? place)
    (below : ∀ key, isChildKey place.key key = true →
      other.tree.entries[key]? = store.tree.entries[key]?) :
    (other.answer query).1 = (store.answer query).1 := by
  have found : other.tree.find place = store.tree.find place := by
    rw [Tree.find, here, Tree.find]
  have readable (status : Status) (named : (Path.ofString status.storePath).toOption = some place) :
      other.tree.readStatus status = store.tree.readStatus status := by
    cases read : Path.ofString status.storePath with
    | error => simp [read, Except.toOption] at named
    | ok path =>
      obtain rfl : path = place := by simpa [read, Except.toOption] using named
      simp only [Tree.readStatus, read, Tree.read, found]
  cases query with
  | getStatus path options =>
    obtain rfl := Option.some.inj looks
    simp only [answer, Tree.status, found]
  | listStatus path options =>
    obtain rfl := Option.some.inj looks
    exact Tree.listing_congr here below
  | isPresent path options =>
    obtain rfl := Option.some.inj looks
    simp only [answer, here]
  | openStream status options => exact readable status looks
  | openReader status options => exact readable status looks
  | createFile | createDirectory | rename | setAttributes => cases looks

/-- The place that a call makes a way to, and whether it may make the whole way. A call that does not
fit what is there makes none. -/
def way? (store : Store) : StoreCall → Option (Path × Bool)
  | .createFile path options =>
    if store.tree.AcceptsFile path options then some (path, options.recursive.getD true) else none
  | .createDirectory path options =>
    if store.tree.get? path = none then some (path, options.recursive.getD false) else none
  | .rename source target options =>
    if store.tree.AcceptsRename source target options then some (target, false) else none
  | .getStatus .. | .listStatus .. | .isPresent .. | .openStream .. | .openReader ..
  | .setAttributes .. => none

/-- The root on the way to the place of a call, if it is missing and the call makes no more of the way
than that. -/
def missingRoot? (store : Store) (call : StoreCall) : Option Path :=
  match store.way? call with
  | some (target, false) => store.tree.missingRoot? target
  | some (_, true) | none => none

section Failure

variable {store : Store} {call : StoreCall} {error : TierError}

/-- A call that fails makes no way and leaves the tree as it is, or its way could not be made. -/
theorem way_of_answer_error (failed : (store.answer call).1 = .error error) :
    store.way? call = none ∧ (store.answer call).2.tree = store.tree ∨
      ∃ target recursive, store.way? call = some (target, recursive) ∧
        store.tree.ensureAncestors recursive target =
          (.error error, (store.answer call).2.tree) := by
  cases call with
  | getStatus | listStatus | isPresent | openStream | openReader => exact Or.inl ⟨rfl, rfl⟩
  | createFile path options =>
    have ends : (store.tree.createFile path options).1 = .error error := by
      simp only [answer] at failed
      cases made : (store.tree.createFile path options).1 with
      | error => simpa [made, Except.map] using failed
      | ok => simp [made, Except.map] at failed
    rcases (store.tree.createFile_attempt path options).of_error ends with
      ⟨unfit, same⟩ | ⟨fits, way⟩
    · exact Or.inl ⟨if_neg unfit, same⟩
    · exact Or.inr ⟨path, _, if_pos fits, way⟩
  | createDirectory path options =>
    rcases store.tree.createDirectory_attempt path options with ⟨-, settled⟩ | ⟨-, attempt⟩
    · simp [answer, settled] at failed
    · rcases attempt.of_error failed with ⟨unfit, same⟩ | ⟨fits, way⟩
      · exact Or.inl ⟨if_neg unfit, same⟩
      · exact Or.inr ⟨path, _, if_pos fits, way⟩
  | rename source target options =>
    rcases (store.tree.rename_attempt source target options).of_error failed with
      ⟨unfit, same⟩ | ⟨fits, way⟩
    · exact Or.inl ⟨if_neg unfit, same⟩
    · exact Or.inr ⟨target, false, if_pos fits, way⟩
  | setAttributes path changes =>
    simp only [answer, Tree.setAttributes] at failed ⊢
    cases there : store.tree.get? path with
    | some entry => simp [there] at failed
    | none => exact Or.inl ⟨rfl, rfl⟩

/-- A call that fails takes nothing away, and changes nothing that is there. -/
theorem keeps_of_answer_error (failed : (store.answer call).1 = .error error) {key : List Char}
    {entry : Entry} (there : store.tree.entries[key]? = some entry) :
    (store.answer call).2.tree.entries[key]? = some entry := by
  rcases way_of_answer_error failed with ⟨-, same⟩ | ⟨target, recursive, -, way⟩
  · exact same ▸ there
  · have kept := Tree.ensureAncestors_keeps recursive target there
    rwa [way] at kept

/-- A call that fails adds the root that it makes, if that is missing, and no more. -/
theorem tree_of_answer_error (failed : (store.answer call).1 = .error error)
    (supported : ∀ target, store.way? call = some (target, true) → store.tree.Supports target) :
    (store.answer call).2.tree = store.tree.withDirectory (store.missingRoot? call) := by
  rw [missingRoot?]
  rcases way_of_answer_error failed with ⟨none, same⟩ | ⟨target, recursive, some, way⟩
  · rw [none, same]
    rfl
  · rw [some]
    cases recursive with
    | true => exact Tree.eq_of_ensureAncestors_error way (supported target some)
    | false =>
      have made := Tree.ensureAncestors_false target store.tree
      rwa [way] at made

/-- Making the root of a namespace changes no answer elsewhere. -/
theorem answer_of_root_made {other : Store} {path root place : Path} {query : StoreCall}
    (outermost : path.ancestors.head? = some root)
    (made : other.tree = store.tree.insert root.key .directory) (looks : query.place? = some place)
    (elsewhere : place.key ≠ root.key) : (other.answer query).1 = (store.answer query).1 := by
  refine answer_congr looks ?_ fun key below => ?_
  · rw [made, Tree.get?, Tree.getElem?_entries_insert, if_neg elsewhere.symm, Tree.get?]
  · rw [made, Tree.getElem?_entries_insert, if_neg]
    rintro rfl
    rw [isChildKey_root outermost] at below
    cases below

/-- A call that fails takes nothing away, and changes nothing that is there. It adds nothing either,
but for the root on the way to its place, if that is missing and the call makes no more of the way.
Queries at any other place are then answered as before. A call that makes the whole way needs for
this that nothing is missing above a file on it. -/
theorem answer_error (failed : (store.answer call).1 = .error error) :
    let after := (store.answer call).2
    (∀ (key : List Char) (entry : Entry),
      store.tree.entries[key]? = some entry → after.tree.entries[key]? = some entry) ∧
    ((∀ target, store.way? call = some (target, true) → store.tree.Supports target) →
      after.tree = store.tree.withDirectory (store.missingRoot? call) ∧
      ∀ query place, query.place? = some place →
        (∀ root ∈ store.missingRoot? call, place.key ≠ root.key) →
        (after.answer query).1 = (store.answer query).1) := by
  refine ⟨fun _ _ there => keeps_of_answer_error failed there, fun supported => ?_⟩
  have left := tree_of_answer_error failed supported
  refine ⟨left, fun query place looks elsewhere => ?_⟩
  cases made : store.missingRoot? call with
  | none =>
    rw [made] at left
    exact answer_congr looks (congrArg (·.get? place) left) fun key _ =>
      congrArg (·.entries[key]?) left
  | some root =>
    rw [made] at left
    obtain ⟨target, outermost⟩ : ∃ target : Path, target.ancestors.head? = some root := by
      rw [missingRoot?] at made
      split at made
      · next _ target _ => exact ⟨target, (Option.filter_eq_some_iff.mp made).1⟩
      · cases made
      · cases made
    exact answer_of_root_made outermost left looks (elsewhere root made)

end Failure

/-- A file is to be made below a file, and directories on the way may be made. It is not, and what is
listed at the root stays the same. -/
theorem answer_error_below_file :
    let file : Path := ⟨none, none, ['/', 'f'], by decide⟩
    let below : Path := ⟨none, none, ['/', 'f', '/', 'd', '/', 'x'], by decide⟩
    let store : Store := { tree := Tree.put {} file (.file [1] true) }
    let call : StoreCall := .createFile below {}
    (store.answer call).1 = .error (.other "/f/ is not a directory") ∧
      store.tree.Supports below ∧ (store.answer call).2.tree = store.tree ∧
      ((store.answer call).2.answer (.listStatus .root {})).1 =
        (store.answer (.listStatus .root {})).1 := by
  intro file below store call
  have failed : (store.answer call).1 = .error (.other "/f/ is not a directory") := by decide
  have supported : store.tree.Supports below := by decide
  have way : store.way? call = some (below, true) := by decide
  have whole : store.missingRoot? call = none := by rw [missingRoot?, way]
  obtain ⟨-, leaves⟩ := answer_error failed
  obtain ⟨left, queries⟩ := leaves fun target made => by
    obtain ⟨rfl, -⟩ := Prod.mk.inj (Option.some.inj (way.symm.trans made))
    exact supported
  rw [whole] at left
  exact ⟨failed, supported, left, queries _ .root rfl (by simp [whole])⟩

/-- A directory is to be made in a directory that is missing. It is not, and the root that was missing
too has been made. -/
theorem answer_error_root :
    let root : Path := ⟨none, none, ['/'], by decide⟩
    let path : Path := ⟨none, none, ['/', 'a', '/', 'b'], by decide⟩
    let store : Store := {}
    let outcome := store.answer (.createDirectory path {})
    outcome.1 = .error (.notFound "/a/") ∧ store.tree.get? root = none ∧
      outcome.2.tree.get? root = some .directory := by
  decide

/-- A file is in a directory that is missing. On the way to a place below the file the directory is
made before the file is met, and stays. -/
example :
    let directory : Path := ⟨none, none, ['/', 'a'], by decide⟩
    let file : Path := ⟨none, none, ['/', 'a', '/', 'f'], by decide⟩
    let below : Path := ⟨none, none, ['/', 'a', '/', 'f', '/', 'x'], by decide⟩
    let store : Store := { tree := Tree.commit {} file.key [1] true }
    let outcome := store.answer (.createFile below {})
    outcome.1.toOption = none ∧ ¬store.tree.Supports below ∧
      store.tree.get? directory = none ∧ outcome.2.tree.get? directory = some .directory := by
  decide

end Store

end Memory

end CacheFirst
