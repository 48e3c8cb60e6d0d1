import CacheFirst.Memory.Tree

/-!
# Directories made on the way

On the way to a place a tree makes the directories that are missing above it, outermost first, and
stops where it may not make one or where a file is in the way. Whatever happens, all that was there
stays as it was, and what is new are plain directories above the place, without a gap from the root
down. If it got to the end, all places above are directories.

## Main definitions

* `Tree.Grows`: a tree with directories made under some keys.

## Main results

* `Tree.Grows.keeps`, `Tree.Grows.outside`: what stays.
* `Tree.Grows.eq_of_present`: when nothing is made.
* `Tree.ensureAncestors_grows`, `Tree.ensureAncestors_keeps`: the directories made above a place.
-/

namespace CacheFirst.Memory.Tree

theorem ext_getElem? {tree after : Tree}
    (same : ∀ key : List Char, after.entries[key]? = tree.entries[key]?) : after = tree :=
  congrArg Tree.mk (Std.ExtTreeMap.ext_getElem? fun {key} => same key)

/-- `after` is `tree` with directories under all of `keys`, made where there was nothing. -/
structure Grows (tree : Tree) (keys : List (List Char)) (after : Tree) : Prop where
  made (key : List Char) : after.entries[key]? = tree.entries[key]? ∨
    key ∈ keys ∧ tree.entries[key]? = none ∧ after.entries[key]? = some .directory
  directories : ∀ key ∈ keys, ∃ entry, after.entries[key]? = some entry ∧ entry.folder = true

namespace Grows

variable {tree between after : Tree} {keys others : List (List Char)} {key : List Char}
variable {entry : Entry}

theorem refl (tree : Tree) : tree.Grows [] tree where
  made _ := Or.inl rfl
  directories := by simp

/-- What was there stays as it was. -/
theorem keeps (grows : tree.Grows keys after) (there : tree.entries[key]? = some entry) :
    after.entries[key]? = some entry := by
  rcases grows.made key with same | ⟨-, missing, -⟩
  · rw [same, there]
  · rw [there] at missing
    cases missing

/-- Nothing is made elsewhere. -/
theorem outside (grows : tree.Grows keys after) (elsewhere : key ∉ keys) :
    after.entries[key]? = tree.entries[key]? := by
  rcases grows.made key with same | ⟨member, -⟩
  · exact same
  · exact absurd member elsewhere

theorem file (grows : tree.Grows keys after) (there : after.entries[key]? = some entry)
    (plain : entry.folder = false) : tree.entries[key]? = some entry := by
  rcases grows.made key with same | ⟨-, -, made⟩
  · rw [← same, there]
  · rw [made] at there
    obtain rfl := Option.some.inj there
    cases plain

/-- If there was something everywhere, nothing is made. -/
theorem eq_of_present (grows : tree.Grows keys after)
    (present : ∀ key ∈ keys, tree.entries[key]? ≠ none) : after = tree := by
  refine ext_getElem? fun key => ?_
  rcases grows.made key with same | ⟨member, missing, -⟩
  · exact same
  · exact absurd missing (present key member)

/-- Growing under some keys and then under others is growing under all of them. -/
theorem append (first : tree.Grows keys between) (second : between.Grows others after) :
    tree.Grows (keys ++ others) after where
  made key := by
    rcases second.made key with same | ⟨member, missing, made⟩
    · rcases first.made key with still | ⟨member, missing, made⟩
      · exact Or.inl (same.trans still)
      · exact Or.inr ⟨List.mem_append_left _ member, missing, same.trans made⟩
    · rcases first.made key with still | ⟨-, -, earlier⟩
      · exact Or.inr ⟨List.mem_append_right _ member, still.symm.trans missing, made⟩
      · -- what was made first is not missing later
        rw [earlier] at missing
        cases missing
  directories key member := by
    rcases List.mem_append.mp member with earlier | later
    · obtain ⟨entry, there, folder⟩ := first.directories key earlier
      exact ⟨entry, second.keeps there, folder⟩
    · exact second.directories key later

/-- A tree with a directory put where nothing was. -/
theorem insert_directory (missing : tree.entries[key]? = none) :
    tree.Grows [key] (tree.insert key .directory) where
  made asked := by
    rw [getElem?_entries_insert]
    by_cases same : key = asked
    · exact Or.inr ⟨by simp [same], same ▸ missing, if_pos same⟩
    · exact Or.inl (if_neg same)
  directories asked member := by
    obtain rfl : asked = key := by simpa using member
    exact ⟨.directory, by rw [getElem?_entries_insert, if_pos rfl], rfl⟩

theorem of_directory (there : tree.entries[key]? = some entry) (folder : entry.folder = true) :
    tree.Grows [key] tree where
  made _ := Or.inl rfl
  directories asked member := by
    obtain rfl : asked = key := by simpa using member
    exact ⟨entry, there, folder⟩

end Grows

/-- A directory is there afterwards, or nothing was changed. -/
theorem ensureDirectory_grows (mayCreate : Bool) (key : List Char) (tree : Tree) :
    (∃ after, tree.ensureDirectory mayCreate key = (.ok (), after) ∧ tree.Grows [key] after) ∨
      ∃ error, tree.ensureDirectory mayCreate key = (.error error, tree) := by
  unfold ensureDirectory
  cases there : tree.entries[key]? with
  | some entry =>
    cases folder : entry.folder with
    | true => exact Or.inl ⟨tree, by simp [folder], .of_directory there folder⟩
    | false => exact Or.inr ⟨_, by simp [folder]; rfl⟩
  | none =>
    cases mayCreate with
    | true => exact Or.inl ⟨_, rfl, .insert_directory there⟩
    | false => exact Or.inr ⟨_, rfl⟩

/-- Directories are made from the first key on, for all keys unless something is refused. -/
theorem ensureDirectories_grows (mayCreate : Bool) (keys : List (List Char)) (tree : Tree) :
    ∃ count, tree.Grows (keys.take count) (tree.ensureDirectories mayCreate keys).2 ∧
      ((tree.ensureDirectories mayCreate keys).1 = .ok () → keys.length ≤ count) := by
  induction keys generalizing tree with
  | nil => exact ⟨0, .refl tree, fun _ => Nat.le_refl _⟩
  | cons key others ih =>
    rw [ensureDirectories]
    rcases ensureDirectory_grows mayCreate key tree with ⟨after, first, grows⟩ | ⟨error, first⟩
    · obtain ⟨count, further, all⟩ := ih after
      rw [first]
      exact ⟨count + 1, grows.append further, fun done => Nat.succ_le_succ (all done)⟩
    · -- a refusal changes nothing, so only what was made before it is there
      rw [first]
      exact ⟨0, .refl tree, nofun⟩

/-- Directories are made above a place from the outermost on, for all places above unless something
is refused. -/
theorem ensureAncestors_grows (recursive : Bool) (path : Path) (tree : Tree) :
    ∃ count,
      tree.Grows ((path.ancestors.take count).map Path.key)
        (tree.ensureAncestors recursive path).2 ∧
      ((tree.ensureAncestors recursive path).1 = .ok () → path.ancestors.length ≤ count) := by
  rw [ensureAncestors]
  cases path.ancestors with
  | nil => exact ⟨0, .refl tree, fun _ => Nat.le_refl _⟩
  | cons outermost inner =>
    rw [List.map_cons]
    rcases ensureDirectory_grows true outermost.key tree with ⟨after, first, grows⟩ | ⟨error, first⟩
    · obtain ⟨count, further, all⟩ := ensureDirectories_grows recursive (inner.map Path.key) after
      simp only [first]
      refine ⟨count + 1, ?_, fun done => ?_⟩
      · rw [List.take_succ_cons, List.map_cons, List.map_take]
        exact grows.append further
      · have := all done
        rw [List.length_map] at this
        exact Nat.succ_le_succ this
    · simp only [first]
      exact ⟨0, .refl tree, nofun⟩

/-- On the way to a place nothing that is there is touched. -/
theorem ensureAncestors_keeps (recursive : Bool) (path : Path) {tree : Tree} {key : List Char}
    {entry : Entry} (there : tree.entries[key]? = some entry) :
    (tree.ensureAncestors recursive path).2.entries[key]? = some entry := by
  obtain ⟨_, grows, -⟩ := ensureAncestors_grows recursive path tree
  exact grows.keeps there

end CacheFirst.Memory.Tree
