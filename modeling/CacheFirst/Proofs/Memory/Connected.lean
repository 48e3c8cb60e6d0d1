import CacheFirst.Proofs.Memory.Moving
import CacheFirst.Proofs.Path.Keys

/-!
# Trees that hang together

A tree hangs together if everything in it is found by going down from a root through directories,
and directories hold no data. Making a file or a directory, changing attributes and moving things
are each an insertion, or a move, that keeps this under a condition on the place: above it are
directories, and a directory that is there stays one.

A move keeps it if the target does not lie below the source, if it is in order, if it takes nothing
from another namespace along, and if no file lands above something that stays. The rename does not
look at any of this.

## Main definitions

* `Tree.HoldsDirectory`: a directory is at a place.
* `Tree.Rooted`: a tree in which everything lies below directories.
* `Tree.Connected`: a tree that hangs together.
* `Tree.MovesCleanly`: what a move needs to keep it so.

## Main results

* `Tree.Rooted.insert`, `Tree.Rooted.attempt_insert`: what keeps everything below directories.
* `Tree.Connected.insert`: the condition under which an insertion keeps a tree connected.
* `Tree.Connected.grow`: directories made on the way keep it so, even if something is refused.
* `Tree.Connected.moveAll`: so does a clean move.
* `Tree.Connected.createFile`, `Tree.Connected.createDirectory`, `Tree.Connected.rename`,
  `Tree.Connected.setAttributes`, `Tree.Connected.commit`: every operation, whatever it answers.
-/

namespace CacheFirst.Memory.Tree

variable {tree after : Tree} {path place source target : Path} {entry : Entry}

/-- A directory is at a place. -/
def HoldsDirectory (tree : Tree) (path : Path) : Prop :=
  ∃ entry, tree.get? path = some entry ∧ entry.folder = true

instance : Decidable (tree.HoldsDirectory path) :=
  decidable_of_iff ((tree.get? path).any Entry.folder = true) (Option.any_eq_true _ _)

/-- Everything lies below directories. -/
def Rooted (tree : Tree) : Prop :=
  ∀ ⦃path : Path⦄ ⦃entry : Entry⦄, tree.get? path = some entry →
    ∀ upper ∈ path.ancestors, tree.HoldsDirectory upper

/-- Everything is found by going down through directories, and directories hold no data. -/
structure Connected (tree : Tree) : Prop where
  placed : ∀ key ∈ tree.entries, ∃ path : Path, path.isAbsolute = true ∧ path.key = key
  rooted {path : Path} {entry : Entry} (there : tree.get? path = some entry) :
    ∀ above ∈ path.ancestors, tree.HoldsDirectory above
  hollow {key : List Char} {entry : Entry} (there : tree.entries[key]? = some entry)
    (folder : entry.folder = true) : entry.data = []

/-! ### Directories -/

theorem HoldsDirectory.congr (holds : tree.HoldsDirectory path) (same : path.key = place.key) :
    tree.HoldsDirectory place := by
  rw [HoldsDirectory, get?, same, ← get?] at holds
  exact holds

/-- A directory stays if what is inserted in its place is one. -/
theorem HoldsDirectory.insert (holds : tree.HoldsDirectory path)
    (kept : tree.HoldsDirectory place → entry.folder = true) :
    (tree.insert place.key entry).HoldsDirectory path := by
  unfold HoldsDirectory get?
  rw [getElem?_entries_insert]
  by_cases same : place.key = path.key
  · exact ⟨entry, if_pos same, kept (holds.congr same.symm)⟩
  · rw [if_neg same]
    exact holds

theorem Grows.holdsDirectory {keys : List (List Char)} (grows : tree.Grows keys after)
    (holds : tree.HoldsDirectory path) : after.HoldsDirectory path := by
  obtain ⟨entry, there, folder⟩ := holds
  exact ⟨entry, grows.keeps there, folder⟩

theorem holdsDirectory_of_way {recursive : Bool}
    (made : (tree.ensureAncestors recursive path).1 = .ok ()) :
    ∀ upper ∈ path.ancestors, (tree.ensureAncestors recursive path).2.HoldsDirectory upper := by
  intro upper above
  obtain ⟨count, grows, all⟩ := ensureAncestors_grows recursive path tree
  refine grows.directories upper.key (List.mem_map_of_mem ?_)
  rwa [List.take_of_length_le (all made)]

theorem get?_ensureAncestors (recursive : Bool) (path : Path) (tree : Tree) :
    (tree.ensureAncestors recursive path).2.get? path = tree.get? path := by
  obtain ⟨count, grows, -⟩ := ensureAncestors_grows recursive path tree
  refine grows.outside fun member => ?_
  obtain ⟨upper, above, same⟩ := List.mem_map.mp member
  exact Path.key_ne_of_mem_ancestors (List.mem_of_mem_take above) same

/-- What is at a place is not touched by the way there, so neither is a directory. -/
theorem HoldsDirectory.of_ensureAncestors {recursive : Bool}
    (holds : (tree.ensureAncestors recursive path).2.HoldsDirectory path) :
    tree.HoldsDirectory path := by
  rwa [HoldsDirectory, get?_ensureAncestors] at holds

/-! ### What lies below directories -/

namespace Rooted

/-- An insertion keeps everything below directories if directories are above the place, and if a
directory that is there stays one. -/
theorem insert (rooted : tree.Rooted) (above : ∀ upper ∈ path.ancestors, tree.HoldsDirectory upper)
    (kept : tree.HoldsDirectory path → entry.folder = true) :
    (tree.insert path.key entry).Rooted := by
  intro place there found upper member
  rw [get?, getElem?_entries_insert] at found
  by_cases same : path.key = place.key
  · rw [← Path.ancestors_eq_of_key same] at member
    exact (above upper member).insert kept
  · rw [if_neg same] at found
    exact (rooted found upper member).insert kept

/-- Directories made on the way keep everything below directories, however far it got. -/
theorem grow (rooted : tree.Rooted) {count : Nat}
    (grows : tree.Grows ((path.ancestors.take count).map Path.key) after) : after.Rooted := by
  intro place entry there upper above
  rcases grows.made place.key with same | ⟨new, -⟩
  · rw [get?, same] at there
    exact grows.holdsDirectory (rooted there upper above)
  · -- what is above a new directory was made before it, or was there
    obtain ⟨made, member, same⟩ := List.mem_map.mp new
    rw [← Path.ancestors_eq_of_key same] at above
    exact grows.directories upper.key
      (List.mem_map_of_mem (Path.mem_take_ancestors_of_above member above))

/-- Putting something at the end of a way keeps everything below directories, whether or not it
succeeds, if it does not put a file where a directory is. -/
theorem attempt_insert (rooted : tree.Rooted) {fit : Prop} {recursive : Bool}
    {outcome : Except TierError Unit × Tree}
    (attempt : tree.Attempt fit recursive path (·.insert path.key entry) outcome)
    (kept : fit → tree.HoldsDirectory path → entry.folder = true) : outcome.2.Rooted := by
  obtain ⟨count, grows, -⟩ := ensureAncestors_grows recursive path tree
  have made := rooted.grow grows
  exact attempt.keeps Rooted rooted made fun _ fits done =>
    made.insert (holdsDirectory_of_way done) fun holds => kept fits holds.of_ensureAncestors

end Rooted

namespace Connected

theorem isRooted (connected : tree.Connected) : tree.Rooted :=
  fun _ _ there => connected.rooted there

theorem empty : Connected {} where
  placed := by simp
  rooted there := by simp [get?] at there
  hollow there := by simp at there

theorem isAbsolute (connected : tree.Connected) (there : tree.get? path = some entry) :
    path.isAbsolute = true := by
  rw [get?] at there
  obtain ⟨place, absolute, same⟩ := connected.placed path.key (of_getElem?_eq_some there)
  rw [← Path.isAbsolute_normalized, ← Path.normalized_eq_of_key same, Path.isAbsolute_normalized]
  exact absolute

/-! ### Insertions -/

/-- An insertion keeps a tree connected if directories are above the place, and if a directory that
is there stays one. -/
theorem insert (connected : tree.Connected) (absolute : path.isAbsolute = true)
    (above : ∀ upper ∈ path.ancestors, tree.HoldsDirectory upper)
    (kept : tree.HoldsDirectory path → entry.folder = true)
    (hollow : entry.folder = true → entry.data = []) : (tree.insert path.key entry).Connected where
  placed key member := by
    rw [Std.ExtTreeMap.mem_iff_isSome_getElem?, getElem?_entries_insert] at member
    by_cases same : path.key = key
    · exact ⟨path, absolute, same⟩
    · rw [if_neg same, ← Std.ExtTreeMap.mem_iff_isSome_getElem?] at member
      exact connected.placed key member
  rooted {_ _} found := connected.isRooted.insert above kept found
  hollow {key there} found folder := by
    rw [getElem?_entries_insert] at found
    by_cases same : path.key = key
    · rw [if_pos same] at found
      obtain rfl := Option.some.inj found
      exact hollow folder
    · rw [if_neg same] at found
      exact connected.hollow found folder

/-- Directories made on the way keep a tree connected, however far it got. -/
theorem grow (connected : tree.Connected) (absolute : path.isAbsolute = true) {count : Nat}
    (grows : tree.Grows ((path.ancestors.take count).map Path.key) after) : after.Connected where
  placed key member := by
    rcases grows.made key with same | ⟨new, -⟩
    · rw [Std.ExtTreeMap.mem_iff_isSome_getElem?, same,
        ← Std.ExtTreeMap.mem_iff_isSome_getElem?] at member
      exact connected.placed key member
    · obtain ⟨upper, above, rfl⟩ := List.mem_map.mp new
      exact ⟨upper, Path.isAbsolute_of_mem_ancestors (List.mem_of_mem_take above) absolute, rfl⟩
  rooted {_ _} there := connected.isRooted.grow grows there
  hollow {key entry} there folder := by
    rcases grows.made key with same | ⟨-, -, new⟩
    · rw [same] at there
      exact connected.hollow there folder
    · rw [new] at there
      obtain rfl := Option.some.inj there
      rfl

/-- The way to a place is made without breaking the tree, and if it was made to the end, directories
are above the place. -/
theorem ensureAncestors (connected : tree.Connected) (absolute : path.isAbsolute = true)
    (recursive : Bool) :
    (tree.ensureAncestors recursive path).2.Connected ∧
      ((tree.ensureAncestors recursive path).1 = .ok () →
        ∀ upper ∈ path.ancestors, (tree.ensureAncestors recursive path).2.HoldsDirectory upper) := by
  obtain ⟨count, grows, -⟩ := ensureAncestors_grows recursive path tree
  exact ⟨connected.grow absolute grows, holdsDirectory_of_way⟩

/-- Putting something at the end of a way keeps a tree connected, whether or not it succeeds, if it
does not put a file where a directory is. -/
theorem attempt_insert (connected : tree.Connected) (absolute : path.isAbsolute = true) {fit : Prop}
    {recursive : Bool} {outcome : Except TierError Unit × Tree}
    (attempt : tree.Attempt fit recursive path (·.insert path.key entry) outcome)
    (kept : fit → tree.HoldsDirectory path → entry.folder = true)
    (hollow : entry.folder = true → entry.data = []) : outcome.2.Connected := by
  obtain ⟨made, directories⟩ := connected.ensureAncestors absolute recursive
  exact attempt.keeps Connected connected made fun _ fits done =>
    made.insert absolute (directories done) (fun holds => kept fits holds.of_ensureAncestors) hollow

theorem createFile (connected : tree.Connected) (absolute : path.isAbsolute = true)
    (options : CreateFileOptions) : (tree.createFile path options).2.Connected := by
  refine connected.attempt_insert absolute (tree.createFile_attempt path options) ?_ nofun
  rintro fits ⟨existing, there, folder⟩
  -- a file is made only where no directory is
  rw [(fits existing there).1] at folder
  cases folder

theorem createDirectory (connected : tree.Connected) (absolute : path.isAbsolute = true)
    (options : CreateDirectoryOptions) : (tree.createDirectory path options).2.Connected := by
  rcases tree.createDirectory_attempt path options with ⟨-, settled⟩ | ⟨-, attempt⟩
  · rw [settled]
    exact connected
  · exact connected.attempt_insert absolute attempt (fun _ _ => rfl) fun _ => rfl

theorem setAttributes (connected : tree.Connected) (path : Path) (changes : AttributeChanges) :
    (tree.setAttributes path changes).2.Connected := by
  unfold Tree.setAttributes
  split
  · next entry there =>
    -- neither what an entry is nor what it holds is among its attributes
    refine connected.insert (connected.isAbsolute there) (connected.rooted there) ?_ ?_
    · rintro ⟨other, found, folder⟩
      rw [there] at found
      obtain rfl := Option.some.inj found
      exact folder
    · show entry.folder = true → entry.data = []
      exact connected.hollow there
  · exact connected

/-- Contents given to a place keep a tree connected if directories are above it, and if it is not
itself a directory, or there is nothing to give. -/
theorem commit (connected : tree.Connected) (absolute : path.isAbsolute = true) {data : Bytes}
    (above : ∀ upper ∈ path.ancestors, tree.HoldsDirectory upper)
    (plain : tree.HoldsDirectory path → data = []) (completed : Bool) :
    (tree.commit path.key data completed).Connected := by
  refine connected.insert absolute above ?_ fun folder => plain ?_
  · rintro ⟨entry, there, folder⟩
    rw [get?] at there
    simp [there, folder]
  · cases there : tree.entries[path.key]? with
    | none => simp [there, Entry.file] at folder
    | some entry =>
      rw [there] at folder
      exact ⟨entry, there, folder⟩

end Connected

/-! ### Moves -/

/-- What a move needs to keep a tree connected. -/
structure MovesCleanly (tree : Tree) (source target : Path) : Prop where
  /-- The target does not lie below the source. -/
  outside : ¬source.key <+: target.key
  orderly : tree.Orderly source.key target.key
  /-- What is moved is of the scheme of the source. -/
  within {path : Path} {entry : Entry} (there : tree.get? path = some entry)
    (moved : source.key <+: path.key) : path.scheme = source.scheme
  /-- No file lands above something that stays. -/
  clear {rest : List Char} {file : Entry} (moved : tree.entries[source.key ++ rest]? = some file)
    (plain : file.folder = false) : ∀ key ∈ tree.entries, target.key ++ rest <+: key →
    key = target.key ++ rest ∨ source.key <+: key

/-- A move to a place at which nothing is, and below which nothing is, is clean if it does not lead
below the source and takes nothing of another scheme along. -/
theorem movesCleanly_of_free {root : Entry} (present : tree.get? source = some root)
    (outside : ¬source.key <+: target.key) (free : ∀ key ∈ tree.entries, ¬target.key <+: key)
    (within : ∀ {path : Path} {entry : Entry}, tree.get? path = some entry →
      source.key <+: path.key → path.scheme = source.scheme) : tree.MovesCleanly source target where
  outside := outside
  orderly := by
    rw [get?] at present
    exact orderly_of_apart outside (free source.key (of_getElem?_eq_some present)) _
  within := within
  clear {rest _} _ _ key member start :=
    absurd ((List.prefix_append target.key rest).trans start) (free key member)

namespace Connected

/-- What is moved lies below the source, and lands as many names below the target. -/
theorem exists_liesBelow (connected : tree.Connected) (clean : tree.MovesCleanly source target)
    {root : Entry} (present : tree.get? source = some root) (absolute : target.isAbsolute = true)
    {rest : List Char} (there : tree.entries[source.key ++ rest]? = some entry) :
    ∃ names origin landing, source.LiesBelow names origin ∧ target.LiesBelow names landing ∧
      origin.key = source.key ++ rest ∧ landing.key = target.key ++ rest := by
  obtain ⟨origin, absolute', same⟩ := connected.placed _ (of_getElem?_eq_some there)
  have start : source.key <+: origin.key := same ▸ List.prefix_append _ _
  have found : tree.get? origin = some entry := by rwa [get?, same]
  obtain ⟨names, below⟩ := Path.exists_liesBelow_of_key_prefix (connected.isAbsolute present) absolute'
    (clean.within found start) start
  obtain ⟨landing, below'⟩ := Path.exists_liesBelow absolute below.proper
  have tail : names.flatMap (· ++ ['/']) = rest :=
    List.append_cancel_left (below.key.symm.trans same)
  exact ⟨names, origin, landing, below, below', same, by rw [below'.key, tail]⟩

end Connected

/-- A directory that is not moved stays one, unless a file lands on it. -/
theorem HoldsDirectory.moveAll (holds : tree.HoldsDirectory path)
    (orderly : tree.Orderly source.key target.key) (stays : ¬source.key <+: path.key)
    (covered : ∀ rest entry, path.key = target.key ++ rest →
      tree.entries[source.key ++ rest]? = some entry → entry.folder = true) :
    (tree.moveAll source.key target.key).HoldsDirectory path := by
  obtain ⟨entry, there, folder⟩ := holds
  unfold HoldsDirectory get?
  by_cases start : target.key <+: path.key
  · obtain ⟨rest, same⟩ := start
    rw [← same, getElem?_moveAll_landing orderly, same, if_neg stays]
    cases moved : tree.entries[source.key ++ rest]? with
    | some other => exact ⟨other, rfl, covered rest other same.symm moved⟩
    | none => exact ⟨entry, there, folder⟩
  · rw [getElem?_moveAll_elsewhere start, if_neg stays]
    exact ⟨entry, there, folder⟩

namespace Connected

/-- Directories above what stays are neither moved, nor does a file land on them. -/
theorem above_staying (connected : tree.Connected) (clean : tree.MovesCleanly source target)
    (stayed : tree.get? path = some entry) (outside : ¬source.key <+: path.key) :
    ∀ upper ∈ path.ancestors, (tree.moveAll source.key target.key).HoldsDirectory upper := by
  intro upper higher
  have start : upper.key <+: path.key := Path.key_prefix_of_mem_ancestors higher
  refine (connected.rooted stayed upper higher).moveAll clean.orderly
    (fun inside => outside (inside.trans start)) fun rest file lands moved => ?_
  cases folder : file.folder with
  | true => rfl
  | false =>
    rw [get?] at stayed
    rcases clean.clear moved folder path.key (of_getElem?_eq_some stayed) (lands ▸ start) with
      same | inside
    · exact absurd (lands.trans same.symm) (Path.key_ne_of_mem_ancestors higher)
    · exact absurd inside outside

section Landing

variable (connected : tree.Connected) (clean : tree.MovesCleanly source target) {root : Entry}
variable (present : tree.get? source = some root) (absolute : target.isAbsolute = true)
variable (above : ∀ upper ∈ target.ancestors, tree.HoldsDirectory upper)

include clean above in
/-- Directories above the target are not moved, and nothing lands on them. -/
theorem above_target :
    ∀ upper ∈ target.ancestors, (tree.moveAll source.key target.key).HoldsDirectory upper := by
  intro upper higher
  have start : upper.key <+: target.key := Path.key_prefix_of_mem_ancestors higher
  refine (above upper higher).moveAll clean.orderly
    (fun inside => clean.outside (inside.trans start)) fun rest _ lands _ => ?_
  exact absurd ⟨rest, lands.symm⟩ (Path.not_key_prefix_of_mem_ancestors higher)

include connected clean present absolute above in
/-- What is above a landing is above the target, or was moved along. -/
theorem above_landing {rest : List Char} (moved : tree.entries[source.key ++ rest]? = some entry)
    (key : path.key = target.key ++ rest) :
    ∀ upper ∈ path.ancestors, (tree.moveAll source.key target.key).HoldsDirectory upper := by
  intro upper higher
  obtain ⟨names, origin, landing, start, below, same, same'⟩ :=
    connected.exists_liesBelow clean present absolute moved
  rw [Path.ancestors_eq_of_key (key.trans same'.symm)] at higher
  rcases below.above_cases higher with ⟨highest, member, keys⟩ | ⟨count, fewer, between⟩
  · exact (above_target clean above highest member).congr keys
  · obtain ⟨place, member, lower⟩ := start.exists_above fewer
    have found : tree.get? origin = some entry := by rwa [get?, same]
    obtain ⟨directory, there, folder⟩ := connected.rooted found place member
    refine ⟨directory, ?_, folder⟩
    rw [get?, lower.key] at there
    rw [get?, between.key, getElem?_moveAll_landing clean.orderly, there, Option.some_or]

include connected clean present absolute above in
/-- A clean move keeps a tree connected. -/
theorem moveAll : (tree.moveAll source.key target.key).Connected where
  placed key member := by
    have there := Std.ExtTreeMap.getElem?_eq_some_getElem member
    rcases of_getElem?_moveAll clean.orderly there with ⟨rest, rfl, moved⟩ | ⟨-, stayed⟩
    · obtain ⟨_, _, landing, -, below, -, same⟩ :=
        connected.exists_liesBelow clean present absolute moved
      exact ⟨landing, below.stillAbsolute, same⟩
    · exact connected.placed key (of_getElem?_eq_some stayed)
  rooted {path entry} there := by
    rcases of_getElem?_moveAll clean.orderly there with ⟨rest, key, moved⟩ | ⟨outside, stayed⟩
    · exact connected.above_landing clean present absolute above moved key
    · exact connected.above_staying clean stayed outside
  hollow {key entry} there := by
    rcases of_getElem?_moveAll clean.orderly there with ⟨rest, -, moved⟩ | ⟨-, stayed⟩
    · exact connected.hollow moved
    · exact connected.hollow stayed

end Landing

/-- A rename keeps a tree connected if it is refused, if it leads to where it starts from, or if what
it moves is moved cleanly. -/
theorem rename (connected : tree.Connected) (absolute : target.isAbsolute = true)
    (options : RenameOptions)
    (clean : (tree.rename source target options).1 = .ok () → source.key ≠ target.key →
      (tree.readied target).MovesCleanly source target) :
    (tree.rename source target options).2.Connected := by
  obtain ⟨made, directories⟩ := connected.ensureAncestors absolute false
  have attempt := tree.rename_attempt source target options
  generalize tree.rename source target options = outcome at attempt clean ⊢
  cases attempt with
  | refused => exact connected
  | stopped _ way =>
    rw [way] at made
    exact made
  | @finished reached fits way =>
    obtain rfl : tree.readied target = reached := congrArg Prod.snd way
    obtain ⟨root, there⟩ := Option.isSome_iff_exists.mp fits.1
    by_cases same : source.key = target.key
    · rw [same, moveAll_self]
      exact made
    · exact made.moveAll (clean rfl same) (readied_keeps there) absolute
        (directories (congrArg Prod.fst way))

end Connected

end CacheFirst.Memory.Tree
