import CacheFirst.Proofs.Memory.LeavingAlone

/-!
# Renames there and back

Two keys are apart if neither starts with the other. Between such places a rename is exact: all that
was at the source and below it is at the target and below it instead, nothing else has moved, and what
was below the target and had no counterpart is still there. The root of the target's namespace is made
if it was missing.

If nothing was at the target or below it, the rename can be taken back. For this the places above the
source have to be directories, because the way back leads through them. What is left of both renames
is the root, if it had to be made.

## Main results

* `Tree.getElem?_moveAll_source`, `Tree.getElem?_moveAll_target`: the whole tree after a move between
  places that are apart.
* `Tree.moveAll_moveAll`: a move to where nothing is, and the move back, change nothing.
* `Tree.ensureAncestors_of_directories`: a way through directories needs nothing.
* `Tree.rename_there_and_back`: a rename between places that are apart, and the rename back.
-/

namespace CacheFirst.Memory.Tree

variable {tree after : Tree} {source target key : List Char}

/-! ### Moves between keys that are apart -/

section Apart

variable (apart : ¬source <+: target) (apart' : ¬target <+: source)

include apart apart'

theorem not_prefix_of_apart (start : source <+: key) : ¬target <+: key := fun start' =>
  (List.prefix_or_prefix_of_prefix start start').elim apart apart'

/-- Nothing is left where the source was. -/
theorem getElem?_moveAll_source (start : source <+: key) (tree : Tree) :
    (tree.moveAll source target).entries[key]? = none := by
  rw [getElem?_moveAll_elsewhere (not_prefix_of_apart apart apart' start), if_pos start]

/-- What was below the source is below the target, and hides what was there. -/
theorem getElem?_moveAll_target (tree : Tree) (rest : List Char) :
    (tree.moveAll source target).entries[target ++ rest]? =
      tree.entries[source ++ rest]?.or tree.entries[target ++ rest]? := by
  have outside : ¬source <+: target ++ rest :=
    not_prefix_of_apart apart' apart (List.prefix_append target rest)
  rw [getElem?_moveAll_landing (orderly_of_apart apart apart' tree), if_neg outside]

/-- A move to where nothing is, and the move back, change nothing. -/
theorem moveAll_moveAll (free : ∀ rest, tree.entries[target ++ rest]? = none) :
    (tree.moveAll source target).moveAll target source = tree := by
  refine ext_getElem? fun key => ?_
  by_cases start : source <+: key
  · -- what came back had gone to a place that was free
    obtain ⟨rest, rfl⟩ := start
    rw [getElem?_moveAll_target apart' apart, getElem?_moveAll_target apart apart', free,
      getElem?_moveAll_source apart apart' (List.prefix_append source rest), Option.or_none,
      Option.or_none]
  · by_cases start' : target <+: key
    · obtain ⟨rest, rfl⟩ := start'
      rw [getElem?_moveAll_source apart' apart (List.prefix_append target rest), free]
    · rw [getElem?_moveAll_elsewhere start, if_neg start', getElem?_moveAll_elsewhere start',
        if_neg start]

end Apart

/-! ### Ways that are there -/

/-- Where directories are under all keys, none is made. -/
theorem ensureDirectories_of_directories {mayCreate : Bool} {keys : List (List Char)}
    (directories : ∀ key ∈ keys, ∃ entry, tree.entries[key]? = some entry ∧ entry.folder = true) :
    tree.ensureDirectories mayCreate keys = (.ok (), tree) := by
  induction keys with
  | nil => rfl
  | cons key others ih =>
    obtain ⟨here, others⟩ := List.forall_mem_cons.mp directories
    obtain ⟨entry, there, folder⟩ := here
    simp only [ensureDirectories, ensureDirectory, there, folder, ↓reduceIte]
    exact ih others

/-- A way through directories needs nothing. -/
theorem ensureAncestors_of_directories {recursive : Bool} {path : Path}
    (above : ∀ upper ∈ path.ancestors, tree.HoldsDirectory upper) :
    tree.ensureAncestors recursive path = (.ok (), tree) := by
  unfold ensureAncestors
  cases uppers : path.ancestors with
  | nil => rfl
  | cons outermost inner =>
    rw [uppers] at above
    obtain ⟨⟨entry, there, folder⟩, above⟩ := List.forall_mem_cons.mp above
    rw [get?] at there
    simp only [List.map_cons, ensureDirectory, there, folder, ↓reduceIte]
    refine ensureDirectories_of_directories fun key member => ?_
    obtain ⟨upper, higher, rfl⟩ := List.mem_map.mp member
    exact above upper higher

/-! ### Renames between places that are apart -/

section Rename

variable {source target : Path} {options : RenameOptions}

/-- A rename that fits what is there, and whose way can be made, is a move in the readied tree. -/
theorem rename_of_accepted {ready : Tree} (fits : tree.AcceptsRename source target options)
    (way : tree.ensureAncestors false target = (.ok (), ready)) :
    tree.rename source target options = (.ok (), ready.moveAll source.key target.key) := by
  have attempt := rename_attempt tree source target options
  generalize tree.rename source target options = outcome at attempt
  cases attempt with
  | refused unfit => exact absurd fits unfit
  | stopped _ stopped =>
    rw [way] at stopped
    cases stopped
  | finished _ reached =>
    rw [way] at reached
    obtain ⟨-, rfl⟩ := Prod.mk.inj reached
    rfl

theorem getElem?_readied_elsewhere {key : List Char}
    (elsewhere : ∀ upper ∈ target.ancestors, upper.key ≠ key) :
    (tree.readied target).entries[key]? = tree.entries[key]? := by
  refine (getElem?_readied tree target key).resolve_right ?_
  rintro ⟨root, missing, rfl, -⟩
  exact elsewhere root (List.mem_of_head? (missingRoot_eq_some_iff.mp missing).1) rfl

variable (apart : ¬source.key <+: target.key) (apart' : ¬target.key <+: source.key)

include apart in
/-- Nothing above the target is at the source or below it, so the way to the target does not touch
what is to be moved. -/
theorem getElem?_readied_source (tree : Tree) (rest : List Char) :
    (tree.readied target).entries[source.key ++ rest]? = tree.entries[source.key ++ rest]? := by
  refine getElem?_readied_elsewhere fun upper above same => apart ?_
  exact (same ▸ List.prefix_append source.key rest).trans (Path.key_prefix_of_mem_ancestors above)

theorem getElem?_readied_target (tree : Tree) (target : Path) (rest : List Char) :
    (tree.readied target).entries[target.key ++ rest]? = tree.entries[target.key ++ rest]? := by
  refine getElem?_readied_elsewhere fun upper above same => ?_
  exact Path.not_key_prefix_of_mem_ancestors above (same ▸ List.prefix_append target.key rest)

include apart apart'

/-- A rename to where nothing is can be taken back, if directories are above the source. -/
theorem rename_back (present : (tree.get? source).isSome = true)
    (free : ∀ key ∈ tree.entries, ¬target.key <+: key)
    (above : ∀ upper ∈ source.ancestors, tree.HoldsDirectory upper) (back : RenameOptions) :
    ((tree.readied target).moveAll source.key target.key).rename target source back =
      (.ok (), tree.readied target) := by
  have vacant (rest : List Char) : (tree.readied target).entries[target.key ++ rest]? = none := by
    rw [getElem?_readied_target]
    exact Std.ExtTreeMap.getElem?_eq_none fun there => free _ there (List.prefix_append _ _)
  rw [rename_of_accepted ?fits (ensureAncestors_of_directories ?way),
    moveAll_moveAll apart apart' vacant]
  case fits =>
    -- what was at the source is at the target, and nothing is in its way back
    have moved := getElem?_moveAll_target apart apart' (tree.readied target) []
    rw [vacant, getElem?_readied_source apart, Option.or_none, List.append_nil,
      List.append_nil] at moved
    have left := getElem?_moveAll_source apart apart' List.prefix_rfl (tree.readied target)
    refine ⟨by rwa [get?, moved], fun taken => ?_⟩
    rw [get?, left] at taken
    cases taken
  case way =>
    -- directories above the source are not moved, and nothing lands on them
    intro upper higher
    have start := Path.key_prefix_of_mem_ancestors higher
    obtain ⟨entry, there, folder⟩ := above upper higher
    have kept : (tree.readied target).HoldsDirectory upper := ⟨entry, readied_keeps there, folder⟩
    refine kept.moveAll (orderly_of_apart apart apart' _)
      (Path.not_key_prefix_of_mem_ancestors higher) fun rest _ lands _ => ?_
    exact absurd (List.IsPrefix.trans ⟨rest, lands.symm⟩ start) apart'

/-- A rename that succeeds between places that are apart leaves nothing where the source was. What was
there has come to the target as it was. All else is as before, what was below the target and is not
replaced included, but for the root of the target's namespace, which is made if it was missing. If
nothing was at the target or below it and directories are above the source, the rename back succeeds
and leaves the tree as it was, but for that root. -/
theorem rename_there_and_back
    (renamed : tree.rename source target options = (.ok (), after)) :
    (∀ key, source.key <+: key → after.entries[key]? = none) ∧
    (∀ rest entry, tree.entries[source.key ++ rest]? = some entry →
      after.entries[target.key ++ rest]? = some entry) ∧
    (∀ key, ¬source.key <+: key →
      (∀ rest, key = target.key ++ rest → source.key ++ rest ∉ tree.entries) →
      after.entries[key]? =
        (tree.withDirectory (tree.missingRoot? target)).entries[key]?) ∧
    ((∀ key ∈ tree.entries, ¬target.key <+: key) →
      (∀ upper ∈ source.ancestors, tree.HoldsDirectory upper) → ∀ back : RenameOptions,
      after.rename target source back =
        (.ok (), tree.withDirectory (tree.missingRoot? target))) := by
  obtain ⟨present, -, -, rfl⟩ := of_rename_ok renamed
  rw [← ensureAncestors_false, ← readied]
  refine ⟨fun key start => getElem?_moveAll_source apart apart' start _,
    fun rest entry there => ?_, fun key outside unlanded => ?_,
    fun free above back => rename_back apart apart' present free above back⟩
  · rw [getElem?_moveAll_target apart apart', getElem?_readied_source apart, there, Option.some_or]
  · rw [getElem?_moveAll_unlanded fun rest there same => ?_, if_neg outside]
    refine unlanded rest same.symm ?_
    rwa [Std.ExtTreeMap.mem_iff_isSome_getElem?, getElem?_readied_source apart,
      ← Std.ExtTreeMap.mem_iff_isSome_getElem?] at there

end Rename

/-- A directory goes into a bucket, whose root is made on the way, and comes back. The root stays. -/
theorem rename_there_and_back_bucket :
    let source : Path := ⟨none, none, ['/', 'a', '/', 'd'], by decide⟩
    let file : Path := ⟨none, none, ['/', 'a', '/', 'd', '/', 'f'], by decide⟩
    let target : Path := ⟨some ['s', '3'], some ['x'], ['/', 'y'], by decide⟩
    let root : Path := ⟨some ['s', '3'], some ['x'], ['/'], by decide⟩
    let tree := Tree.put {} file (.file [1] true)
    let after := (tree.rename source target {}).2
    ¬source.key <+: target.key ∧ ¬target.key <+: source.key ∧
      tree.rename source target {} = (.ok (), after) ∧
      after.get? file = none ∧ after.entries[target.key ++ ['f', '/']]? = some (.file [1] true) ∧
      (∀ upper ∈ source.ancestors, tree.HoldsDirectory upper) ∧
      after.rename target source {} = (.ok (), tree.insert root.key .directory) := by
  intro source file target root tree after
  have apart : ¬source.key <+: target.key := by decide
  have apart' : ¬target.key <+: source.key := by decide
  have done : (tree.rename source target {}).1 = .ok () := by decide
  have renamed : tree.rename source target {} = (.ok (), after) := by rw [← done]
  obtain ⟨gone, come, -, back⟩ := rename_there_and_back apart apart' renamed
  have free : ∀ key ∈ tree.entries.keys, ¬target.key <+: key := by decide
  have above : ∀ upper ∈ source.ancestors, tree.HoldsDirectory upper := by decide
  have missing : tree.missingRoot? target = some root := by decide
  have returned := back (fun key there => free key (Std.ExtTreeMap.mem_keys.mpr there)) above {}
  rw [missing] at returned
  exact ⟨apart, apart', renamed, gone file.key (by decide), come ['f', '/'] _ (by decide), above,
    returned⟩

end CacheFirst.Memory.Tree
