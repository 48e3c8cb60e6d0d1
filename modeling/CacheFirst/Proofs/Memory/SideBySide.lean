import CacheFirst.Proofs.Memory.Creating

/-!
# Creations side by side

Two files or directories are made at places of which neither is the other or lies above it, and all of
the way to each may be made. They may share a good part of their ways. Yet it makes no difference which
of them is made first: what one makes on its way is what the other would have made there, and neither
place is on the other's way. This holds too if one of them is refused, or stops at a file after a part
of its way was made.

All that matters to a creation is what is at its place, and what stands in its way. Neither is changed
by the other one, so both decide as if they came first, and what they put into the tree does not depend
on the order.

## Main definitions

* `Creation`: a file or directory to be made.
* `Creation.SeesSame`: two trees that are the same to a creation.
* `Creation.applied`: what a creation does to a tree once it has decided.

## Main results

* `Creation.decides`: what a creation does is decided by what it sees.
* `Creation.seesSame_applied`: another one that is apart changes nothing of that.
* `Store.creations_commute`: both orders give the same answers and the same tree.
-/

namespace CacheFirst.Memory

/-- A file or directory to be made. -/
inductive Creation
  | file (path : Path) (options : CreateFileOptions)
  | directory (path : Path) (options : CreateDirectoryOptions)

namespace Creation

/-! ### What a creation is -/

/-- The call that asks for it. -/
def call : Creation → StoreCall
  | file path options => .createFile path options
  | directory path options => .createDirectory path options

/-- What it does to a tree. -/
def perform (tree : Tree) : Creation → Except TierError Unit × Tree
  | file path options => tree.createFile path options
  | directory path options => tree.createDirectory path options

/-- The place. -/
def path : Creation → Path
  | file path _ | directory path _ => path

/-- Whether all of the way to the place may be made. -/
def recursive : Creation → Bool
  | file _ options => options.recursive.getD true
  | directory _ options => options.recursive.getD false

/-- What is put there. -/
def entry : Creation → Entry
  | file _ options => (Entry.file [] false).withMode options.mode
  | directory _ options => Entry.directory.withMode options.mode

/-- The answer that is given because of what is at the place, before anything is made. -/
def settled? : Creation → Option Entry → Option (Except TierError Unit)
  | _, none => none
  | file path options, some existing =>
    if existing.folder || !options.overwrite.getD false then
      some (.error (.alreadyExists path.toString))
    else none
  | directory path options, some existing =>
    some (if existing.folder && options.allowExists.getD false then .ok ()
      else .error (.alreadyExists path.toString))

/-- The keys on the way to the place. -/
def way (creation : Creation) : List (List Char) :=
  creation.path.ancestors.map Path.key

variable {creation first second : Creation} {tree seen : Tree}

/-- A creation that is not settled goes its way, and puts something at its end if it gets there. -/
theorem perform_eq (creation : Creation) (tree : Tree) :
    creation.perform tree = match creation.settled? (tree.get? creation.path) with
      | some answer => (answer, tree)
      | none => match tree.ensureAncestors creation.recursive creation.path with
        | (.ok (), reached) => (.ok (), reached.insert creation.path.key creation.entry)
        | (.error error, reached) => (.error error, reached) := by
  cases creation with
  | file place options =>
    simp only [perform, Tree.createFile, Creation.path]
    cases tree.get? place with
    | none => rfl
    | some existing =>
      cases refused : existing.folder || !options.overwrite.getD false with
      | true => simp [settled?, refused]
      | false => simp only [settled?, refused, Bool.false_eq_true, ↓reduceIte]; rfl
  | directory place options =>
    simp only [perform, Tree.createDirectory, Creation.path]
    cases tree.get? place with
    | none => rfl
    | some existing =>
      cases settled : existing.folder && options.allowExists.getD false <;> simp [settled?, settled]

/-- If it may make all of its way, it fills it up to the first obstacle. -/
theorem ensureAncestors_eq (recursive : creation.recursive = true) (tree : Tree) :
    tree.ensureAncestors creation.recursive creation.path =
      (tree.wayAnswer true creation.way, tree.filled (tree.clearPart true creation.way)) := by
  rw [recursive, Tree.ensureAncestors_true, Tree.ensureDirectories_eq, way]

/-! ### What a creation sees -/

/-- The same is at the place, and the same stands in the way there. -/
structure SeesSame (creation : Creation) (tree seen : Tree) : Prop where
  here : seen.get? creation.path = tree.get? creation.path
  way : ∀ key ∈ creation.way, seen.obstacle? true key = tree.obstacle? true key

theorem SeesSame.refl (creation : Creation) (tree : Tree) : creation.SeesSame tree tree where
  here := rfl
  way _ _ := rfl

/-- What a creation does to a tree once it has decided: it fills in directories, and may put something
at its place. -/
def applied (creation : Creation) (fills : List (List Char)) (makes : Bool) (tree : Tree) : Tree :=
  if makes then (tree.filled fills).insert creation.path.key creation.entry else tree.filled fills

/-- What a creation does is decided by what it sees. -/
theorem decides (recursive : creation.recursive = true) (tree : Tree) :
    ∃ answer fills makes, (∀ key ∈ fills, key ∈ creation.way) ∧
      ∀ seen, creation.SeesSame tree seen →
        creation.perform seen = (answer, creation.applied fills makes seen) := by
  cases settled : creation.settled? (tree.get? creation.path) with
  | some answer =>
    refine ⟨answer, [], false, by simp, fun seen same => ?_⟩
    rw [perform_eq, same.here, settled]
    rfl
  | none =>
    have within : ∀ key ∈ tree.clearPart true creation.way, key ∈ creation.way := fun _ member =>
      (List.takeWhile_prefix _).subset member
    have reaches (seen : Tree) (same : creation.SeesSame tree seen) :
        seen.ensureAncestors creation.recursive creation.path =
          (tree.wayAnswer true creation.way, seen.filled (tree.clearPart true creation.way)) := by
      obtain ⟨answers, parts⟩ := Tree.way_congr same.way
      rw [ensureAncestors_eq recursive, answers, parts]
    cases ends : tree.wayAnswer true creation.way with
    | ok done =>
      refine ⟨.ok (), tree.clearPart true creation.way, true, within, fun seen same => ?_⟩
      rw [perform_eq, same.here, settled, reaches seen same, ends]
      rfl
    | error error =>
      refine ⟨.error error, tree.clearPart true creation.way, false, within, fun seen same => ?_⟩
      rw [perform_eq, same.here, settled, reaches seen same, ends]
      rfl

theorem getElem?_applied (creation : Creation) (fills : List (List Char)) (makes : Bool) (tree : Tree)
    (asked : List Char) : (creation.applied fills makes tree).entries[asked]? =
      if makes = true ∧ creation.path.key = asked then some creation.entry
      else tree.entries[asked]?.or (if asked ∈ fills then some .directory else none) := by
  unfold applied
  cases makes with
  | true => simp [Tree.getElem?_entries_insert, Tree.getElem?_filled]
  | false => simp [Tree.getElem?_filled]

theorem prefix_of_mem_way {key : List Char} (member : key ∈ creation.way) :
    key <+: creation.path.key := by
  obtain ⟨upper, above, rfl⟩ := List.mem_map.mp member
  exact Path.key_prefix_of_mem_ancestors above

section Apart

variable (apart : ¬first.path.key <+: second.path.key) (apart' : ¬second.path.key <+: first.path.key)

include apart apart'

/-- A creation sees the same if another one that is apart was carried out before. -/
theorem seesSame_applied {fills : List (List Char)} (within : ∀ key ∈ fills, key ∈ first.way)
    (makes : Bool) (tree : Tree) : second.SeesSame tree (first.applied fills makes tree) where
  here := by
    have other : first.path.key ≠ second.path.key := fun same => apart (same ▸ List.prefix_rfl)
    have unfilled : second.path.key ∉ fills := fun member =>
      apart' (prefix_of_mem_way (within _ member))
    rw [Tree.get?, getElem?_applied]
    simp [other, unfilled, Tree.get?]
  way key member := by
    have other : first.path.key ≠ key := fun same => apart (same ▸ prefix_of_mem_way member)
    rw [← tree.obstacle?_filled fills key]
    refine Tree.obstacle?_congr ?_
    rw [getElem?_applied, Tree.getElem?_filled]
    simp [other]

omit apart' in
/-- What two creations that are apart put into a tree does not depend on the order. -/
theorem applied_comm (fills others : List (List Char)) (makes makes' : Bool) (tree : Tree) :
    second.applied others makes' (first.applied fills makes tree) =
      first.applied fills makes (second.applied others makes' tree) := by
  have other : first.path.key ≠ second.path.key := fun same => apart (same ▸ List.prefix_rfl)
  refine Tree.ext_getElem? fun key => ?_
  simp only [getElem?_applied]
  by_cases here : makes = true ∧ first.path.key = key
  · have away : ¬(makes' = true ∧ second.path.key = key) := fun there =>
      other (here.2.trans there.2.symm)
    simp [here, away]
  · -- what both fill in is the same, a plain directory
    by_cases there : makes' = true ∧ second.path.key = key
    · simp [here, there]
    · simp only [here, there, ↓reduceIte, Option.or_assoc]
      split <;> split <;> rfl

/-- Two creations that are apart and may make all of their ways give the same answers and the same tree
in both orders. -/
theorem perform_comm (recursive : first.recursive = true) (recursive' : second.recursive = true)
    (tree : Tree) :
    (second.perform (first.perform tree).2).1 = (second.perform tree).1 ∧
      (first.perform (second.perform tree).2).1 = (first.perform tree).1 ∧
      (second.perform (first.perform tree).2).2 = (first.perform (second.perform tree).2).2 := by
  obtain ⟨_, fills, makes, within, does⟩ := decides recursive tree
  obtain ⟨_, fills', makes', within', does'⟩ := decides recursive' tree
  have alone := does tree (.refl first tree)
  have alone' := does' tree (.refl second tree)
  have later := does _ (seesSame_applied apart' apart within' makes' tree)
  have later' := does' _ (seesSame_applied apart apart' within makes tree)
  rw [alone, alone', later, later']
  exact ⟨rfl, rfl, applied_comm apart fills fills' makes makes' tree⟩

end Apart

/-! ### Calls -/

theorem tree_answer (creation : Creation) (store : Store) :
    (store.answer creation.call).2.tree = (creation.perform store.tree).2 := by
  cases creation <;> rfl

theorem answer_congr {store other : Store}
    (same : (creation.perform other.tree).1 = (creation.perform store.tree).1) :
    (other.answer creation.call).1 = (store.answer creation.call).1 := by
  cases creation with
  | file place options => exact congrArg (Except.map _) same
  | directory place options => exact same

end Creation

namespace Store

/-- Two files or directories are made at places of which neither is the other or lies above it, and all
of the way to each may be made. In both orders each is answered the same, and the same is in the store
after both, even if they have a part of their ways in common that is missing, or if one of them is
refused or fails on its way. -/
theorem creations_commute (store : Store) {first second : Creation}
    (apart : ¬first.path.key <+: second.path.key) (apart' : ¬second.path.key <+: first.path.key)
    (recursive : first.recursive = true) (recursive' : second.recursive = true) :
    let one := store.answer first.call
    let other := store.answer second.call
    (one.2.answer second.call).1 = other.1 ∧ (other.2.answer first.call).1 = one.1 ∧
      (one.2.answer second.call).2.tree = (other.2.answer first.call).2.tree := by
  intro one other
  obtain ⟨answers, answers', trees⟩ :=
    Creation.perform_comm apart apart' recursive recursive' store.tree
  refine ⟨Creation.answer_congr ?_, Creation.answer_congr ?_, ?_⟩
  · rw [first.tree_answer store]
    exact answers
  · rw [second.tree_answer store]
    exact answers'
  · rw [second.tree_answer one.2, first.tree_answer store, first.tree_answer other.2,
      second.tree_answer store]
    exact trees

/-- A file is in a directory that is missing. One creation leads below the file and fails there, after
the directory was made. The other makes a place in the directory. -/
theorem creations_commute_below_file :
    let file : Path := ⟨none, none, ['/', 'a', '/', 'f'], by decide⟩
    let above : Path := ⟨none, none, ['/', 'a'], by decide⟩
    let first := Creation.file ⟨none, none, ['/', 'a', '/', 'f', '/', 'x'], by decide⟩ {}
    let second := Creation.directory ⟨none, none, ['/', 'a', '/', 'd'], by decide⟩
      { recursive := some true }
    let store : Store := { tree := Tree.commit {} file.key [1] true }
    let one := store.answer first.call
    let other := store.answer second.call
    ¬first.path.key <+: second.path.key ∧ ¬second.path.key <+: first.path.key ∧
      first.recursive = true ∧ second.recursive = true ∧
      one.1 = .error (.other "/a/f/ is not a directory") ∧ store.tree.get? above = none ∧
      one.2.tree.get? above = some .directory ∧ (other.2.answer first.call).1 = one.1 ∧
      (one.2.answer second.call).1 = .ok () ∧
      (one.2.answer second.call).2.tree = (other.2.answer first.call).2.tree := by
  intro file above first second store one other
  have apart : ¬first.path.key <+: second.path.key := by decide
  have apart' : ¬second.path.key <+: first.path.key := by decide
  have recursive : first.recursive = true := rfl
  have recursive' : second.recursive = true := rfl
  obtain ⟨answer', answer, trees⟩ := store.creations_commute apart apart' recursive recursive'
  have done : (second.perform store.tree).1 = .ok () := by decide
  have failed : (store.answer (.createFile first.path {})).1 =
      .error (.other "/a/f/ is not a directory") := by decide
  exact ⟨apart, apart', recursive, recursive', failed, by decide, by decide, answer,
    answer'.trans done, trees⟩

end Store

end CacheFirst.Memory
