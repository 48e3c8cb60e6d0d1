import CacheFirst.Proofs.Memory.Failing
import CacheFirst.Proofs.Memory.Moving
import CacheFirst.Proofs.Memory.Ways
import CacheFirst.Proofs.Path.Namespaces

/-!
# What a rename leaves alone

A rename touches what is at its source and below it, what is at its target and below it, and the root
that its target is in, if that has to be made. Everything else is as it was, whether the rename
succeeds or fails: siblings of a similar name, what is above, and all other namespaces.

What is at or below the source is decided by keys, though, and so a place whose scheme starts like the
key of the source is taken for a place below the source. A rename of `/a` takes with it what is at
`/a/b://c/d`, which is in the namespace of the scheme `/a/b`. As long as nothing like that is in the
tree, all is well, and even if there is, it does not concern the places that have no such scheme.

## Main definitions

* `Tree.PlainKeys`: all that is in a tree is at plain paths.
* `Tree.Unmixed`: the source of a rename overlays nothing that the rename meets.

## Main results

* `Tree.PlainKeys.put`, `Tree.PlainKeys.createFile`, `Tree.PlainKeys.createDirectory`: a tree is like
  this if everything was added at plain paths.
* `Tree.getElem?_readied`: making sure of a way touches the missing root, and nothing else.
* `Tree.getElem?_rename_untouched`: a key that is not moved and on which nothing lands.
* `Tree.Unmixed.unlanded`: without overlays, what lands is covered by the target.
* `Tree.rename_stays_in_bounds`: what a rename leaves alone.
* `Tree.rename_reaches_into_scheme`: what it should leave alone, and does not.
-/

namespace CacheFirst.Memory.Tree

variable {tree : Tree} {source target place : Path} {asked : List Char}

/-! ### Keys and the paths that have them -/

/-- Every key in a tree is that of a plain path. -/
def PlainKeys (tree : Tree) : Prop :=
  ∀ key ∈ tree.entries.keys, ∃ path ∈ (Path.parse key).toOption, path.IsPlain ∧ path.key = key

instance (tree : Tree) : Decidable tree.PlainKeys :=
  inferInstanceAs (Decidable (∀ key ∈ tree.entries.keys, _))

/-- How a key is read back does not matter: it is that of a plain path, or it is not. -/
theorem plainKeys_iff : tree.PlainKeys ↔
    ∀ key ∈ tree.entries, ∃ path : Path, path.IsPlain ∧ path.key = key := by
  simp only [PlainKeys, Std.ExtTreeMap.mem_keys]
  refine forall₂_congr fun key _ => ⟨fun ⟨path, _, plain, same⟩ => ⟨path, plain, same⟩, ?_⟩
  rintro ⟨path, plain, rfl⟩
  have read : Path.parse path.key = .ok path.normalized :=
    Path.parse_text (Path.text_ne_nil_of_isAbsolute (by rw [Path.isAbsolute_normalized, plain.1]))
  exact ⟨path.normalized, by rw [read]; rfl, plain.normalized, path.key_normalized⟩

namespace PlainKeys

theorem empty : PlainKeys {} :=
  plainKeys_iff.mpr (by simp)

theorem insert (keys : tree.PlainKeys) (plain : place.IsPlain) (entry : Entry) :
    (tree.insert place.key entry).PlainKeys := by
  rw [plainKeys_iff] at keys ⊢
  intro key member
  rw [Tree.insert, Std.ExtTreeMap.mem_insert, Std.LawfulEqCmp.compare_eq_iff_eq] at member
  rcases member with rfl | member
  · exact ⟨place, plain, rfl⟩
  · exact keys key member

/-- Directories are made above a plain path. -/
theorem grow (keys : tree.PlainKeys) (plain : place.IsPlain) {count : Nat} {after : Tree}
    (grows : tree.Grows ((place.ancestors.take count).map Path.key) after) : after.PlainKeys := by
  rw [plainKeys_iff] at keys ⊢
  intro key member
  rcases grows.made key with same | ⟨new, -⟩
  · rw [Std.ExtTreeMap.mem_iff_isSome_getElem?, same,
      ← Std.ExtTreeMap.mem_iff_isSome_getElem?] at member
    exact keys key member
  · obtain ⟨upper, above, rfl⟩ := List.mem_map.mp new
    exact ⟨upper, plain.of_mem_ancestors (List.mem_of_mem_take above), rfl⟩

/-- An entry is put at a plain path. -/
theorem put (keys : tree.PlainKeys) (plain : place.IsPlain) (entry : Entry) :
    (tree.put place entry).PlainKeys := by
  rw [plainKeys_iff] at keys ⊢
  intro key member
  by_cases here : place.key = key
  · exact ⟨place, plain, here⟩
  by_cases onWay : key ∈ place.ancestors.map Path.key
  · obtain ⟨upper, above, rfl⟩ := List.mem_map.mp onWay
    exact ⟨upper, plain.of_mem_ancestors above, rfl⟩
  · rw [Std.ExtTreeMap.mem_iff_isSome_getElem?, getElem?_put, if_neg here, if_neg onWay,
      Option.or_none, ← Std.ExtTreeMap.mem_iff_isSome_getElem?] at member
    exact keys key member

theorem attempt (keys : tree.PlainKeys) (plain : place.IsPlain) {fit : Prop} {recursive : Bool}
    {entry : Entry} {outcome : Except TierError Unit × Tree}
    (attempt : tree.Attempt fit recursive place (·.insert place.key entry) outcome) :
    outcome.2.PlainKeys := by
  obtain ⟨count, grows, -⟩ := ensureAncestors_grows recursive place tree
  have made := keys.grow plain grows
  exact attempt.keeps PlainKeys keys made fun _ _ _ => made.insert plain entry

theorem createFile (keys : tree.PlainKeys) (plain : place.IsPlain) (options : CreateFileOptions) :
    (tree.createFile place options).2.PlainKeys :=
  keys.attempt plain (tree.createFile_attempt place options)

theorem createDirectory (keys : tree.PlainKeys) (plain : place.IsPlain)
    (options : CreateDirectoryOptions) : (tree.createDirectory place options).2.PlainKeys := by
  rcases tree.createDirectory_attempt place options with ⟨-, settled⟩ | ⟨-, attempt⟩
  · rw [settled]
    exact keys
  · exact keys.attempt plain attempt

end PlainKeys

/-- The source of a rename overlays neither what is in the tree nor the target. -/
def Unmixed (tree : Tree) (source target : Path) : Prop :=
  ¬source.Overlays target ∧
    ∀ key ∈ tree.entries.keys, ∀ path ∈ (Path.parse key).toOption, ¬source.Overlays path

instance (tree : Tree) (source target : Path) : Decidable (tree.Unmixed source target) :=
  inferInstanceAs (Decidable (_ ∧ ∀ key ∈ tree.entries.keys, _))

/-! ### The way to the target -/

/-- The root that has to be made on the way to a target is its outermost place, if nothing is there. -/
theorem missingRoot_eq_some_iff {root : Path} : tree.missingRoot? target = some root ↔
    target.ancestors.head? = some root ∧ tree.get? root = none := by
  simp [missingRoot?, Option.filter_eq_some_iff]

theorem of_missingRoot {root : Path} (missing : tree.missingRoot? target = some root)
    (plain : target.IsPlain) :
    root.IsPlain ∧ root.scheme = target.scheme ∧ root.authority = target.authority := by
  have above := List.mem_of_head? (missingRoot_eq_some_iff.mp missing).1
  obtain ⟨count, -, same⟩ := Path.mem_ancestors_iff.mp above
  exact ⟨plain.of_mem_ancestors above, by rw [← same]; rfl, by rw [← same]; rfl⟩

/-- Making sure of the way to the target of a rename touches the root, if that is missing, and
nothing else. -/
theorem getElem?_readied (tree : Tree) (target : Path) (asked : List Char) :
    (tree.readied target).entries[asked]? = tree.entries[asked]? ∨
      ∃ root, tree.missingRoot? target = some root ∧ asked = root.key ∧
        (tree.readied target).entries[asked]? = some .directory := by
  rw [readied, ensureAncestors_false]
  cases missing : tree.missingRoot? target with
  | none => exact Or.inl rfl
  | some root =>
    rw [withDirectory, getElem?_entries_insert]
    by_cases same : root.key = asked
    · exact Or.inr ⟨root, rfl, same.symm, if_pos same⟩
    · exact Or.inl (if_neg same)

/-- When the moving starts, every entry is at a plain path that the source does not overlay. -/
theorem Unmixed.exists_path (unmixed : tree.Unmixed source target) (keys : tree.PlainKeys)
    (plain : target.IsPlain) (there : asked ∈ (tree.readied target).entries) :
    ∃ path : Path, path.IsPlain ∧ path.key = asked ∧ ¬source.Overlays path := by
  rcases getElem?_readied tree target asked with same | ⟨root, missing, rfl, -⟩
  · have member : asked ∈ tree.entries.keys := by
      rw [Std.ExtTreeMap.mem_keys, Std.ExtTreeMap.mem_iff_isSome_getElem?, ← same,
        ← Std.ExtTreeMap.mem_iff_isSome_getElem?]
      exact there
    obtain ⟨path, read, plain, key⟩ := keys asked member
    exact ⟨path, plain, key, unmixed.2 asked member path read⟩
  · obtain ⟨plain, scheme, -⟩ := of_missingRoot missing plain
    refine ⟨root, plain, rfl, fun overlays => unmixed.1 ?_⟩
    exact overlays.of_scheme scheme

/-! ### Keys that are passed by -/

/-- A rename leaves a key alone that it does not move, if nothing lands there. It may only make the
missing root on the way to the target. -/
theorem getElem?_rename_untouched (options : RenameOptions)
    (unmoved : source.key <+: asked → asked ∉ (tree.readied target).entries)
    (unlanded : ∀ rest, source.key ++ rest ∈ (tree.readied target).entries →
      target.key ++ rest ≠ asked) :
    (tree.rename source target options).2.entries[asked]? = tree.entries[asked]? ∨
      ∃ root, tree.missingRoot? target = some root ∧ asked = root.key ∧
        (tree.rename source target options).2.entries[asked]? = some .directory := by
  have attempt := rename_attempt tree source target options
  generalize tree.rename source target options = outcome at attempt
  cases attempt with
  | refused => exact Or.inl rfl
  | stopped fits way =>
    have readied := getElem?_readied tree target asked
    rwa [Tree.readied, way] at readied
  | @finished readied' fits way =>
    obtain rfl : tree.readied target = readied' := by rw [Tree.readied, way]
    -- what would be moved is not there, so the move leaves this key as it was readied
    have passed : ((tree.readied target).moveAll source.key target.key).entries[asked]? =
        (tree.readied target).entries[asked]? := by
      rw [getElem?_moveAll_unlanded unlanded]
      split
      · next start => exact (Std.ExtTreeMap.getElem?_eq_none (unmoved start)).symm
      · rfl
    dsimp only
    rw [passed]
    exact getElem?_readied tree target asked

/-- Without overlays, all that lands is covered by the target. -/
theorem Unmixed.unlanded (unmixed : tree.Unmixed source target) (keys : tree.PlainKeys)
    (plain : source.IsPlain) (plain' : target.IsPlain) (own : place.IsPlain)
    (apart : target.covers place ≠ .ok true) {rest : List Char}
    (there : source.key ++ rest ∈ (tree.readied target).entries) : target.key ++ rest ≠ place.key := by
  obtain ⟨path, ownPath, key, outside⟩ := unmixed.exists_path keys plain' there
  have covered : source.covers path = .ok true := by
    have start : source.key <+: path.key := by rw [key]; exact List.prefix_append _ _
    exact ((Path.key_prefix_iff plain ownPath).mp start).resolve_right outside
  -- the entry lies some names below the source, and lands as many names below the target
  obtain ⟨names, below⟩ := Path.LiesBelow.of_covers covered
  obtain ⟨landing, below'⟩ := Path.exists_liesBelow plain'.1 below.proper
  rw [below.key, List.append_cancel_left_eq] at key
  subst key
  rw [← below'.key]
  intro same
  refine apart ((Path.key_prefix_iff plain' own).mp ?_ |>.resolve_right ?_)
  · rw [← same, below'.key]
    exact List.prefix_append _ _
  · rintro ⟨unnamed, scheme, named, -⟩
    rw [← Path.scheme_eq_of_key same, below'.scheme, unnamed] at named
    cases named

/-- Without overlays, nothing is moved but what is covered by the source. -/
theorem Unmixed.unmoved (unmixed : tree.Unmixed source target) (keys : tree.PlainKeys)
    (plain : source.IsPlain) (plain' : target.IsPlain) (own : place.IsPlain)
    (apart : source.covers place ≠ .ok true) (start : source.key <+: place.key) :
    place.key ∉ (tree.readied target).entries := by
  intro there
  obtain ⟨path, -, key, outside⟩ := unmixed.exists_path keys plain' there
  have overlays := ((Path.key_prefix_iff plain own).mp start).resolve_left apart
  exact outside (overlays.of_scheme (Path.scheme_eq_of_key key).symm)

/-! ### What stays -/

/-- A rename leaves alone what neither its source nor its target covers. It may only make the missing
root of the namespace of its target. In other namespaces it changes nothing at all. A place that the
source or the target overlays needs a tree in which nothing is mixed up with the source. -/
theorem rename_stays_in_bounds (tree : Tree) (source target place : Path) (options : RenameOptions)
    (keys : tree.PlainKeys) (plain : source.IsPlain) (plain' : target.IsPlain)
    (unmixed : source.Overlays place ∨ target.Overlays place → tree.Unmixed source target) :
    let after := (tree.rename source target options).2
    (source.covers place = .ok false → target.covers place = .ok false →
      after.get? place = tree.get? place ∨
        ∃ root, target.ancestors.head? = some root ∧ place.key = root.key ∧
          tree.get? place = none ∧ after.get? place = some .directory) ∧
    (place.IsPlain →
      place.scheme ≠ source.scheme ∨ place.authority ≠ source.authority →
      place.scheme ≠ target.scheme ∨ place.authority ≠ target.authority →
      after.get? place = tree.get? place) := by
  intro after
  have passed (own : place.IsPlain) (apart : source.covers place ≠ .ok true)
      (apart' : target.covers place ≠ .ok true) :
      after.get? place = tree.get? place ∨ ∃ root, tree.missingRoot? target = some root ∧
        place.key = root.key ∧ after.get? place = some .directory := by
    -- an overlaid place is passed by because of what is in the tree, any other by its key alone
    by_cases overlaid : source.Overlays place ∨ target.Overlays place
    · exact getElem?_rename_untouched options
        ((unmixed overlaid).unmoved keys plain plain' own apart)
        fun _ => (unmixed overlaid).unlanded keys plain plain' own apart'
    · obtain ⟨clear, clear'⟩ := not_or.mp overlaid
      refine getElem?_rename_untouched options (fun start => ?_) fun rest _ same => ?_
      · exact absurd ((Path.key_prefix_iff plain own).mp start) (not_or.mpr ⟨apart, clear⟩)
      · have start : target.key <+: place.key := ⟨rest, same⟩
        exact absurd ((Path.key_prefix_iff plain' own).mp start) (not_or.mpr ⟨apart', clear'⟩)
  constructor
  · intro apart apart'
    have own := (Path.isPlain_of_covers apart).2
    rcases passed own (by rw [apart]; nofun) (by rw [apart']; nofun) with same | made
    · exact Or.inl same
    · obtain ⟨root, missing, same, made⟩ := made
      obtain ⟨outermost, absent⟩ := missingRoot_eq_some_iff.mp missing
      exact Or.inr ⟨root, outermost, same, by rwa [get?, same], made⟩
  · intro own foreign foreign'
    have uncovered {upper : Path}
        (foreign : place.scheme ≠ upper.scheme ∨ place.authority ≠ upper.authority) :
        upper.covers place ≠ .ok true := by
      intro covered
      obtain ⟨names, below⟩ := Path.LiesBelow.of_covers covered
      exact foreign.elim (absurd below.scheme) (absurd below.authority)
    rcases passed own (uncovered foreign) (uncovered foreign') with same | ⟨root, missing, same, -⟩
    · exact same
    · -- the root is in the namespace of the target
      obtain ⟨-, scheme, authority⟩ := of_missingRoot missing plain'
      rcases foreign' with other | other
      · exact absurd ((Path.scheme_eq_of_key same).trans scheme) other
      · exact absurd ((Path.authority_eq_of_key same).trans authority) other

/-- A directory is renamed into another namespace, whose root is made on the way. A sibling of a
similar name stays. -/
theorem rename_stays_in_bounds_sibling :
    let source : Path := ⟨none, none, ['/', 'a'], by decide⟩
    let inner : Path := ⟨none, none, ['/', 'a', '/', 'f'], by decide⟩
    let sibling : Path := ⟨none, none, ['/', 'a', 'b'], by decide⟩
    let target : Path := ⟨some ['s', '3'], some ['x'], ['/', 'y'], by decide⟩
    let root : Path := ⟨some ['s', '3'], some ['x'], ['/'], by decide⟩
    let tree := (Tree.put {} inner (.file [1] true)).put sibling (.file [2] true)
    let after := (tree.rename source target {}).2
    tree.PlainKeys ∧ source.IsPlain ∧ target.IsPlain ∧ tree.Unmixed source target ∧
      source.covers sibling = .ok false ∧ target.covers sibling = .ok false ∧
      tree.get? sibling = some (.file [2] true) ∧ after.get? sibling = tree.get? sibling ∧
      source.covers root = .ok false ∧ target.covers root = .ok false ∧
      tree.get? root = none ∧ after.get? root = some .directory := by
  intro source inner sibling target root tree after
  have keys : tree.PlainKeys := by decide
  have plain : source.IsPlain := by decide
  have plain' : target.IsPlain := by decide
  have unmixed : tree.Unmixed source target := by decide
  have apart : source.covers sibling = .ok false := by decide
  have apart' : target.covers sibling = .ok false := by decide
  have there : tree.get? sibling = some (.file [2] true) := by decide
  have stays := (rename_stays_in_bounds tree source target sibling {} keys plain plain'
    fun _ => unmixed).1 apart apart'
  have kept : after.get? sibling = tree.get? sibling := by
    refine stays.resolve_right ?_
    rintro ⟨-, -, -, absent, -⟩
    rw [there] at absent
    cases absent
  have above : source.covers root = .ok false := by decide
  have above' : target.covers root = .ok false := by decide
  have moved := (rename_stays_in_bounds tree source target root {} keys plain plain'
    fun _ => unmixed).1 above above'
  have new : ¬after.get? root = tree.get? root := by decide
  obtain ⟨-, -, -, absent, made⟩ := moved.resolve_left new
  exact ⟨keys, plain, plain', unmixed, apart, apart', there, kept, above, above', absent, made⟩

/-- The rename of a directory takes a file with it that is in another namespace, because the scheme of
that namespace starts like the key of the directory. Neither the source nor the target covers the
file, and it has another scheme than both. -/
theorem rename_reaches_into_scheme :
    let source : Path := ⟨none, none, ['/', 'a'], by decide⟩
    let target : Path := ⟨none, none, ['/', 'z'], by decide⟩
    let place : Path := ⟨some ['/', 'a', '/', 'b'], some ['c'], ['/', 'd'], by decide⟩
    let other : Path := ⟨some ['/', 'z', '/', 'b'], some ['c'], ['/', 'd'], by decide⟩
    let tree := (Tree.put {} source .directory).put place (.file [1] true)
    let renamed := tree.rename source target {}
    renamed.1 = .ok () ∧ Path.ofString "/a/b://c/d" = .ok place ∧
      tree.PlainKeys ∧ source.IsPlain ∧ target.IsPlain ∧ place.IsPlain ∧
      source.covers place = .ok false ∧ target.covers place = .ok false ∧
      source.covers other = .ok false ∧ target.covers other = .ok false ∧
      tree.get? place = some (.file [1] true) ∧ renamed.2.get? place = none ∧
      tree.get? other = none ∧ renamed.2.get? other = some (.file [1] true) := by
  decide

end CacheFirst.Memory.Tree
