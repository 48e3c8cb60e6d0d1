import CacheFirst.Proofs.Memory.Attempts
import CacheFirst.Proofs.Memory.Scanning

/-!
# What a rename moves

A rename takes every entry whose key starts with the key of the source and puts it under the key
that starts with the key of the target instead, one entry after the other in the order of the keys.
Where one of both keys starts with the other, an entry may land under a key that is still to be
moved. It is then moved a second time, and what it landed on is lost. If that does not happen, every
entry arrives as it was, and all else stays, as far as nothing lands on it.

It does happen when a directory takes the place of the one around it.

## Main definitions

* `Tree.readied`: a tree once the places above the target of a rename are made sure of.
* `Tree.Orderly`: no entry lands under a key that is still to be moved.

## Main results

* `Tree.orderly_of_apart`: two places with nothing in common are always in order.
* `Tree.getElem?_moveAll_landing`, `Tree.getElem?_moveAll_elsewhere`: the whole tree after a move.
* `Tree.rename_loses_nothing`: a rename in order brings every entry to its new place.
* `Tree.rename_loses_overtaken`: one that is out of order does not.
-/

namespace CacheFirst.Memory.Tree

variable {tree after : Tree} {source target key : List Char}

/-- No entry lands under a key that is still to be moved. -/
def Orderly (source target : List Char) (tree : Tree) : Prop :=
  (tree.entries.keys.filter source.isPrefixOf).Pairwise fun earlier later =>
    target ++ earlier.drop source.length ≠ later

instance : Decidable (tree.Orderly source target) :=
  inferInstanceAs (Decidable (List.Pairwise _ _))

/-- If neither key starts with the other, nothing can land under a key that is to be moved. -/
theorem orderly_of_apart (apart : ¬source <+: target) (apart' : ¬target <+: source) (tree : Tree) :
    tree.Orderly source target := by
  refine List.pairwise_iff_forall_sublist.mpr fun {earlier later} both same => ?_
  have member : later ∈ tree.entries.keys.filter source.isPrefixOf :=
    both.subset (List.mem_cons_of_mem _ List.mem_cons_self)
  have start : source <+: later := List.isPrefixOf_iff_prefix.mp (List.mem_filter.mp member).2
  have start' : target <+: later := ⟨_, same⟩
  exact (List.prefix_or_prefix_of_prefix start start').elim apart apart'

/-! ### One move after the other -/

/-- A move takes an entry from its key to where it lands. -/
theorem getElem?_moveKey (source target : List Char) (tree : Tree) (rest asked : List Char) :
    (tree.moveKey source target (source ++ rest)).entries[asked]? =
      if target ++ rest = asked then tree.entries[source ++ rest]?.or tree.entries[asked]?
      else if source ++ rest = asked then none
      else tree.entries[asked]? := by
  unfold moveKey
  rw [List.drop_left]
  cases there : tree.entries[source ++ rest]? with
  | none =>
    by_cases same : source ++ rest = asked
    · simp [← same, there]
    · simp [same]
  | some entry => simp [Std.ExtTreeMap.getElem?_insert, Std.ExtTreeMap.getElem?_erase]

/-- Moves take away what was under the keys that are moved, and leave alone all keys on which none
of them lands. -/
theorem getElem?_foldl_moveKey_elsewhere {rests : List (List Char)} {asked : List Char}
    (elsewhere : ∀ rest ∈ rests, target ++ rest ≠ asked) (tree : Tree) :
    ((rests.map (source ++ ·)).foldl (moveKey source target) tree).entries[asked]? =
      if asked ∈ rests.map (source ++ ·) then none else tree.entries[asked]? := by
  induction rests generalizing tree with
  | nil => simp
  | cons rest others ih =>
    -- a key that was given up is missing from then on, so it does not matter when that happened
    rw [List.map_cons, List.foldl_cons,
      ih (fun other member => elsewhere other (List.mem_cons_of_mem _ member)),
      getElem?_moveKey, if_neg (elsewhere rest List.mem_cons_self)]
    by_cases same : source ++ rest = asked
    · simp [same]
    · simp [same, Ne.symm same]

/-- In order, every entry that is moved arrives. -/
theorem getElem?_foldl_moveKey_landing {rests : List (List Char)} (distinct : rests.Nodup)
    (orderly : rests.Pairwise fun earlier later => target ++ earlier ≠ source ++ later)
    {rest : List Char} (member : rest ∈ rests) (tree : Tree) :
    ((rests.map (source ++ ·)).foldl (moveKey source target) tree).entries[target ++ rest]? =
      tree.entries[source ++ rest]?.or
        (if target ++ rest ∈ rests.map (source ++ ·) then none
          else tree.entries[target ++ rest]?) := by
  induction rests generalizing tree with
  | nil => cases member
  | cons first others ih =>
    obtain ⟨fresh, distinct⟩ := List.nodup_cons.mp distinct
    obtain ⟨ahead, orderly⟩ := List.pairwise_cons.mp orderly
    rw [List.map_cons, List.foldl_cons]
    rcases List.mem_cons.mp member with rfl | later
    · -- nothing else lands here, and what landed is not moved again
      have elsewhere : ∀ other ∈ others, target ++ other ≠ target ++ rest := by
        intro other member same
        rw [List.append_cancel_left same] at member
        exact fresh member
      have settled : target ++ rest ∉ others.map (source ++ ·) := by
        intro member
        obtain ⟨other, member, same⟩ := List.mem_map.mp member
        exact ahead other member same.symm
      rw [getElem?_foldl_moveKey_elsewhere elsewhere, if_neg settled, getElem?_moveKey, if_pos rfl]
      by_cases same : source ++ rest = target ++ rest
      · simp [same]
      · simp [settled, Ne.symm same]
    · -- the first move neither takes this entry nor lands where it is or where it goes
      have other : first ≠ rest := fun same => fresh (same ▸ later)
      rw [ih distinct orderly later, getElem?_moveKey, getElem?_moveKey,
        if_neg (ahead rest later),
        if_neg fun same => other (List.append_cancel_left same),
        if_neg fun same => other (List.append_cancel_left same)]
      by_cases same : source ++ first = target ++ rest
      · simp [same]
      · simp [same, Ne.symm same]

/-! ### A whole move -/

/-- What follows the source in the keys that are moved. -/
def movedRests (source : List Char) (tree : Tree) : List (List Char) :=
  (tree.entries.keys.filter source.isPrefixOf).map (·.drop source.length)

theorem map_movedRests (source : List Char) (tree : Tree) :
    (tree.movedRests source).map (source ++ ·) = tree.entries.keys.filter source.isPrefixOf := by
  rw [movedRests, List.map_map]
  refine (List.map_congr_left fun key member => ?_).trans (List.map_id _)
  obtain ⟨rest, rfl⟩ := List.isPrefixOf_iff_prefix.mp (List.mem_filter.mp member).2
  simp

theorem mem_map_movedRests_iff :
    key ∈ (tree.movedRests source).map (source ++ ·) ↔ source <+: key ∧ key ∈ tree.entries := by
  rw [map_movedRests, List.mem_filter, List.isPrefixOf_iff_prefix, Std.ExtTreeMap.mem_keys]
  exact And.comm

theorem mem_movedRests_iff {rest : List Char} :
    rest ∈ tree.movedRests source ↔ source ++ rest ∈ tree.entries := by
  have keys : source ++ rest ∈ (tree.movedRests source).map (source ++ ·) ↔
      source <+: source ++ rest ∧ source ++ rest ∈ tree.entries := mem_map_movedRests_iff
  simpa [List.prefix_append] using keys

theorem moveAll_eq_foldl (source target : List Char) (tree : Tree) :
    tree.moveAll source target =
      ((tree.movedRests source).map (source ++ ·)).foldl (moveKey source target) tree := by
  rw [map_movedRests, moveAll, map_fst_scan]

theorem nodup_movedRests (source : List Char) (tree : Tree) : (tree.movedRests source).Nodup := by
  have keys : (tree.entries.keys.filter source.isPrefixOf).Nodup := by
    refine List.Pairwise.filter _ (tree.entries.distinct_keys.imp fun distinct same => ?_)
    exact distinct (same ▸ Std.ReflCmp.compare_self)
  rw [← map_movedRests] at keys
  exact List.Pairwise.of_map _ (fun rest other distinct same => distinct (same ▸ rfl)) keys

theorem unmoved_eq (source asked : List Char) (tree : Tree) :
    (if asked ∈ (tree.movedRests source).map (source ++ ·) then none else tree.entries[asked]?) =
      if source <+: asked then none else tree.entries[asked]? := by
  by_cases there : asked ∈ tree.entries
  · simp [mem_map_movedRests_iff, there]
  · simp [Std.ExtTreeMap.getElem?_eq_none there]

theorem getElem?_moveAll_unlanded {asked : List Char}
    (nowhere : ∀ rest, source ++ rest ∈ tree.entries → target ++ rest ≠ asked) :
    (tree.moveAll source target).entries[asked]? =
      if source <+: asked then none else tree.entries[asked]? := by
  have unlanded : ∀ rest ∈ tree.movedRests source, target ++ rest ≠ asked :=
    fun rest member => nowhere rest (mem_movedRests_iff.mp member)
  rw [moveAll_eq_foldl, getElem?_foldl_moveKey_elsewhere unlanded, unmoved_eq]

/-- Away from the target, nothing lands. -/
theorem getElem?_moveAll_elsewhere {asked : List Char} (elsewhere : ¬target <+: asked) (tree : Tree) :
    (tree.moveAll source target).entries[asked]? =
      if source <+: asked then none else tree.entries[asked]? :=
  getElem?_moveAll_unlanded fun rest _ same => elsewhere ⟨rest, same⟩

/-- In order, a move brings below the target what was below the source. Where the source had nothing,
the target keeps what it had, unless that was moved itself. -/
theorem getElem?_moveAll_landing (orderly : tree.Orderly source target) (rest : List Char) :
    (tree.moveAll source target).entries[target ++ rest]? =
      tree.entries[source ++ rest]?.or
        (if source <+: target ++ rest then none else tree.entries[target ++ rest]?) := by
  rw [moveAll_eq_foldl, ← unmoved_eq]
  by_cases member : rest ∈ tree.movedRests source
  · -- the order is that of the keys, and the rests come in the same order
    have pairwise : (tree.movedRests source).Pairwise fun earlier later =>
        target ++ earlier ≠ source ++ later := by
      rw [Orderly, ← map_movedRests, List.pairwise_map] at orderly
      simpa using orderly
    exact getElem?_foldl_moveKey_landing (nodup_movedRests source tree) pairwise member tree
  · have missing : tree.entries[source ++ rest]? = none :=
      Std.ExtTreeMap.getElem?_eq_none fun there => member (mem_movedRests_iff.mpr there)
    rw [missing, Option.none_or, getElem?_foldl_moveKey_elsewhere]
    intro other there same
    rw [List.append_cancel_left same] at there
    exact member there

/-- After a move in order, an entry has been moved or has stayed. -/
theorem of_getElem?_moveAll (orderly : tree.Orderly source target) {entry : Entry}
    (there : (tree.moveAll source target).entries[key]? = some entry) :
    (∃ rest, key = target ++ rest ∧ tree.entries[source ++ rest]? = some entry) ∨
      ¬source <+: key ∧ tree.entries[key]? = some entry := by
  have stayed (there : (if source <+: key then none else tree.entries[key]?) = some entry) :
      ¬source <+: key ∧ tree.entries[key]? = some entry := by
    split at there
    · cases there
    · next outside => exact ⟨outside, there⟩
  by_cases start : target <+: key
  · obtain ⟨rest, rfl⟩ := start
    rw [getElem?_moveAll_landing orderly] at there
    cases moved : tree.entries[source ++ rest]? with
    | some other =>
      rw [moved, Option.some_or] at there
      exact Or.inl ⟨rest, rfl, moved.trans there⟩
    | none =>
      rw [moved, Option.none_or] at there
      exact Or.inr (stayed there)
  · rw [getElem?_moveAll_elsewhere start] at there
    exact Or.inr (stayed there)

/-- What is moved to where it is stays there. -/
theorem moveAll_self (source : List Char) (tree : Tree) : tree.moveAll source source = tree := by
  have orderly : tree.Orderly source source := by
    rw [Orderly, ← map_movedRests, List.pairwise_map]
    refine (nodup_movedRests source tree).imp fun distinct same => distinct ?_
    rw [List.drop_left] at same
    exact List.append_cancel_left same
  refine ext_getElem? fun key => ?_
  by_cases start : source <+: key
  · obtain ⟨rest, rfl⟩ := start
    rw [getElem?_moveAll_landing orderly, if_pos (List.prefix_append source rest), Option.or_none]
  · rw [getElem?_moveAll_elsewhere start, if_neg start]

/-! ### Renames -/

section Rename

variable {source target : Path} {options : RenameOptions}

/-- A tree once the places above the target of a rename are made sure of. -/
def readied (tree : Tree) (target : Path) : Tree :=
  (tree.ensureAncestors false target).2

theorem readied_keeps {key : List Char} {entry : Entry} (there : tree.entries[key]? = some entry) :
    (tree.readied target).entries[key]? = some entry :=
  ensureAncestors_keeps false target there

/-- A rename that succeeds is a move in the readied tree. -/
theorem of_rename_ok (renamed : tree.rename source target options = (.ok (), after)) :
    (tree.get? source).isSome = true ∧
      ((tree.get? target).isSome = true → options.overwrite.getD false = true) ∧
      (tree.ensureAncestors false target).1 = .ok () ∧
      after = (tree.readied target).moveAll source.key target.key := by
  have attempt := rename_attempt tree source target options
  rw [renamed] at attempt
  cases attempt with
  | finished fits way =>
    rw [readied, way]
    exact ⟨fits.1, fits.2, rfl, rfl⟩

/-- A rename that succeeds brings every entry at the source and below it to the same place at the
target and below it, and it arrives as it was. If one of both places is above the other, this needs
that nothing lands where something is still to be moved. -/
theorem rename_loses_nothing (renamed : tree.rename source target options = (.ok (), after))
    (orderly : source.key <+: target.key ∨ target.key <+: source.key →
      (tree.readied target).Orderly source.key target.key)
    {rest : List Char} {entry : Entry} (there : tree.entries[source.key ++ rest]? = some entry) :
    after.entries[target.key ++ rest]? = some entry := by
  have ordered : (tree.readied target).Orderly source.key target.key := by
    by_cases related : source.key <+: target.key ∨ target.key <+: source.key
    · exact orderly related
    · exact orderly_of_apart (fun start => related (Or.inl start))
        (fun start => related (Or.inr start)) _
  obtain ⟨-, -, -, rfl⟩ := of_rename_ok renamed
  rw [getElem?_moveAll_landing ordered, readied_keeps there, Option.some_or]

end Rename

/-- A directory takes the place of the one that it is in, and its file arrives. -/
theorem rename_loses_nothing_upwards :
    let outer : Path := ⟨none, none, ['/', 'a'], by decide⟩
    let inner : Path := ⟨none, none, ['/', 'a', '/', 'b'], by decide⟩
    let file : Path := ⟨none, none, ['/', 'a', '/', 'b', '/', 'c'], by decide⟩
    let tree := Tree.put {} file (.file [1] true)
    let after := (tree.rename inner outer { overwrite := some true }).2
    tree.rename inner outer { overwrite := some true } = (.ok (), after) ∧
      outer.key <+: inner.key ∧ (tree.readied outer).Orderly inner.key outer.key ∧
      tree.entries[inner.key ++ ['c', '/']]? = some (.file [1] true) ∧
      after.entries[outer.key ++ ['c', '/']]? = some (.file [1] true) := by
  intro outer inner file tree after
  have done : (tree.rename inner outer { overwrite := some true }).1 = .ok () := by decide
  have renamed : tree.rename inner outer { overwrite := some true } = (.ok (), after) := by
    rw [← done]
  have orderly : (tree.readied outer).Orderly inner.key outer.key := by decide
  have there : tree.entries[inner.key ++ ['c', '/']]? = some (.file [1] true) := by decide
  exact ⟨renamed, by decide, orderly, there, rename_loses_nothing renamed (fun _ => orderly) there⟩

/-- A directory takes the place of the one that it is in, and holds a directory of its own name. The
file in that one lands where another file is still to be moved: it takes the place of the other, and
the other is lost. -/
theorem rename_loses_overtaken :
    let outer : Path := ⟨none, none, ['/', 'a'], by decide⟩
    let inner : Path := ⟨none, none, ['/', 'a', '/', 'b'], by decide⟩
    let first : Path := ⟨none, none, ['/', 'a', '/', 'b', '/', 'b', '/', 'c'], by decide⟩
    let second : Path := ⟨none, none, ['/', 'a', '/', 'b', '/', 'c'], by decide⟩
    let tree := (Tree.put {} first (.file [1] true)).put second (.file [2] true)
    let renamed := tree.rename inner outer { overwrite := some true }
    renamed.1 = .ok () ∧
      tree.entries[inner.key ++ ['b', '/', 'c', '/']]? = some (.file [1] true) ∧
      renamed.2.entries[outer.key ++ ['b', '/', 'c', '/']]? = none ∧
      tree.entries[inner.key ++ ['c', '/']]? = some (.file [2] true) ∧
      renamed.2.entries[outer.key ++ ['c', '/']]? = some (.file [1] true) := by
  decide

end CacheFirst.Memory.Tree
