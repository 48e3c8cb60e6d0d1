import CacheFirst.Proofs.Memory.Growing

/-!
# Changes at the end of a way

A file or a directory is made, and a thing is moved, at the end of a way. If the change does not fit
what is there, it is refused at once. If it does, the places above are made sure of, from the outermost
on, and if that succeeds, the change is done. Where it fails, what was made before stays.

## Main definitions

* `Tree.Attempt`: how a change at the end of a way can go.
* `Tree.AcceptsFile`, `Tree.AcceptsRename`: what a new file and a rename have to fit.
* `Tree.AcceptsDirectory`: when a directory need not be made.

## Main results

* `Tree.createFile_attempt`, `Tree.createDirectory_attempt`, `Tree.rename_attempt`: what each change
  has to fit, and what it does.
* `Tree.Attempt.of_error`: an attempt that fails was refused, or its way could not be made.
* `Tree.Attempt.keeps`, `Tree.Attempt.keeps_entry`: what an attempt keeps.
-/

namespace CacheFirst.Memory.Tree

variable {tree : Tree} {path source target : Path}

/-- How a change at the end of a way can go. `fit` is what it has to fit, and `finish` what it does. -/
inductive Attempt (tree : Tree) (fit : Prop) (recursive : Bool) (path : Path) (finish : Tree → Tree) :
    Except TierError Unit × Tree → Prop
  | refused (unfit : ¬fit) (error : TierError) :
      Attempt tree fit recursive path finish (.error error, tree)
  /-- The way could not be made. -/
  | stopped {error : TierError} {after : Tree} (fits : fit)
      (way : tree.ensureAncestors recursive path = (.error error, after)) :
      Attempt tree fit recursive path finish (.error error, after)
  | finished {readied : Tree} (fits : fit)
      (way : tree.ensureAncestors recursive path = (.ok (), readied)) :
      Attempt tree fit recursive path finish (.ok (), finish readied)

/-- An attempt that fails was refused, or its way could not be made. -/
theorem Attempt.of_error {fit : Prop} {recursive : Bool} {finish : Tree → Tree} {error : TierError}
    {outcome : Except TierError Unit × Tree}
    (attempt : tree.Attempt fit recursive path finish outcome) (failed : outcome.1 = .error error) :
    ¬fit ∧ outcome.2 = tree ∨
      fit ∧ tree.ensureAncestors recursive path = (.error error, outcome.2) := by
  cases attempt with
  | refused unfit => exact Or.inl ⟨unfit, rfl⟩
  | stopped fits way =>
    obtain rfl := Except.error.inj failed
    exact Or.inr ⟨fits, way⟩
  | finished => cases failed

/-- What holds of a tree, of the tree with the way made, and of that once the change is done, holds
after an attempt. -/
theorem Attempt.keeps {fit : Prop} {recursive : Bool} {finish : Tree → Tree}
    {outcome : Except TierError Unit × Tree}
    (attempt : tree.Attempt fit recursive path finish outcome) (kept : Tree → Prop) (now : kept tree)
    (way : kept (tree.ensureAncestors recursive path).2)
    (done : outcome.1 = .ok () → fit → (tree.ensureAncestors recursive path).1 = .ok () →
      kept (finish (tree.ensureAncestors recursive path).2)) : kept outcome.2 := by
  cases attempt with
  | refused => exact now
  | stopped _ stops =>
    rw [stops] at way
    exact way
  | finished fits reaches =>
    rw [reaches] at done
    exact done rfl fits rfl

/-- An attempt leaves what is under a key, if the change itself does. -/
theorem Attempt.keeps_entry {fit : Prop} {recursive : Bool} {finish : Tree → Tree}
    {outcome : Except TierError Unit × Tree}
    (attempt : tree.Attempt fit recursive path finish outcome) {key : List Char} {entry : Entry}
    (there : tree.entries[key]? = some entry)
    (done : outcome.1 = .ok () → fit →
      (finish (tree.ensureAncestors recursive path).2).entries[key]? =
        (tree.ensureAncestors recursive path).2.entries[key]?) :
    outcome.2.entries[key]? = some entry := by
  have way := ensureAncestors_keeps recursive path there
  exact attempt.keeps (fun tree => tree.entries[key]? = some entry) there way
    fun made fits _ => (done made fits).trans way

/-- A file can be made where nothing is, or where a file is that may be replaced. -/
def AcceptsFile (tree : Tree) (path : Path) (options : CreateFileOptions) : Prop :=
  ∀ existing ∈ tree.get? path, existing.folder = false ∧ options.overwrite.getD false = true

instance (options : CreateFileOptions) : Decidable (tree.AcceptsFile path options) :=
  inferInstanceAs (Decidable (∀ existing ∈ tree.get? path, _))

/-- A directory is at a place already, and may be. -/
def AcceptsDirectory (tree : Tree) (path : Path) (options : CreateDirectoryOptions) : Prop :=
  ∃ existing ∈ tree.get? path, existing.folder = true ∧ options.allowExists.getD false = true

/-- What is there can be moved to where nothing is, or where what is there may be overwritten. -/
def AcceptsRename (tree : Tree) (source target : Path) (options : RenameOptions) : Prop :=
  (tree.get? source).isSome = true ∧
    ((tree.get? target).isSome = true → options.overwrite.getD false = true)

instance (options : RenameOptions) : Decidable (tree.AcceptsRename source target options) :=
  inferInstanceAs (Decidable (_ ∧ _))

theorem createFile_attempt (tree : Tree) (path : Path) (options : CreateFileOptions) :
    tree.Attempt (tree.AcceptsFile path options) (options.recursive.getD true) path
      (·.insert path.key ((Entry.file [] false).withMode options.mode))
      (tree.createFile path options) := by
  unfold createFile
  extract_lets refused
  have accepts : tree.AcceptsFile path options ↔ refused ≠ true := by
    unfold AcceptsFile
    cases there : tree.get? path <;> simp [refused, there]
  split
  · next unfit => exact .refused (fun fits => accepts.mp fits unfit) _
  · next accepted =>
    split
    · next way => exact .finished (accepts.mpr accepted) way
    · next way => exact .stopped (accepts.mpr accepted) way

/-- A directory that is there may be accepted. Otherwise one is made where nothing is. -/
theorem createDirectory_attempt (tree : Tree) (path : Path) (options : CreateDirectoryOptions) :
    tree.AcceptsDirectory path options ∧ tree.createDirectory path options = (.ok (), tree) ∨
      ¬tree.AcceptsDirectory path options ∧
      tree.Attempt (tree.get? path = none) (options.recursive.getD false) path
        (·.insert path.key (Entry.directory.withMode options.mode))
        (tree.createDirectory path options) := by
  unfold createDirectory AcceptsDirectory
  cases there : tree.get? path with
  | some existing =>
    cases settled : existing.folder && options.allowExists.getD false with
    | true => exact Or.inl ⟨⟨existing, rfl, Bool.and_eq_true_iff.mp settled⟩, by simp [settled]⟩
    | false =>
      refine Or.inr ⟨?_, ?_⟩
      · rintro ⟨_, ⟨⟩, accepted⟩
        rw [Bool.and_eq_true_iff.mpr accepted] at settled
        cases settled
      · simp only [settled, Bool.false_eq_true, ↓reduceIte]
        exact .refused (Option.some_ne_none existing) _
  | none =>
    refine Or.inr ⟨by simp, ?_⟩
    dsimp only
    split
    · next way => exact .finished rfl way
    · next way => exact .stopped rfl way

theorem rename_attempt (tree : Tree) (source target : Path) (options : RenameOptions) :
    tree.Attempt (tree.AcceptsRename source target options) false target
      (·.moveAll source.key target.key) (tree.rename source target options) := by
  unfold rename
  split
  · next absent =>
    refine .refused (fun fits => ?_) _
    simp [AcceptsRename, Option.isNone_iff_eq_none.mp absent] at fits
  · next present =>
    split
    · next taken =>
      refine .refused (fun fits => ?_) _
      obtain ⟨there, kept⟩ := Bool.and_eq_true_iff.mp taken
      rw [fits.2 there] at kept
      cases kept
    · next free =>
      have fits : tree.AcceptsRename source target options :=
        ⟨by simpa [Option.isSome_iff_ne_none] using present, fun taken => by simpa [taken] using free⟩
      split
      · next way => exact .finished fits way
      · next way => exact .stopped fits way

end CacheFirst.Memory.Tree
