import CacheFirst.Proofs.Memory.Failing
import CacheFirst.Proofs.Memory.Ways

/-!
# What is made

A file is made where nothing is, or in place of a file that may be replaced. A directory is made where
nothing is, and one that is there already may do. Nothing is made below a file. What is missing on the
way to the place is made too, all of it or only the root, as is asked for.

Whatever is made, the tree has grown by it and by plain directories on the way to it, and by nothing
else.

## Main definitions

* `Tree.Admits`: a way to a place can be made.
* `Tree.Gains`: a tree with something new at a place, and with the way there.

## Main results

* `Tree.ensureAncestors_eq_ok_iff`: a way is made to its end exactly if the tree admits it.
* `Tree.Attempt.eq_ok_iff`, `Tree.Attempt.gains`: when something is made, and all that is then new.
* `Store.answer_creation`: when files and directories are made, and what the store has then.
-/

namespace CacheFirst.Memory

namespace Tree

variable {tree after : Tree} {path : Path} {entry : Entry} {recursive : Bool}

/-! ### Ways that can be made -/

/-- The way to a place can be made: no file is on it, and unless all of it may be made, nothing is
missing on it but its root. -/
def Admits (tree : Tree) (recursive : Bool) (path : Path) : Prop :=
  (∀ upper ∈ path.ancestors, ¬tree.HoldsFile upper) ∧
    (recursive = true ∨ ∀ upper ∈ path.ancestors.tail, tree.get? upper ≠ none)

instance : Decidable (tree.Admits recursive path) :=
  inferInstanceAs (Decidable (_ ∧ _))

/-- Nothing stands in the way at a place if no file is there, and if something is or may be made. -/
theorem obstacle?_key_eq_none_iff : tree.obstacle? recursive path.key = none ↔
    ¬tree.HoldsFile path ∧ (recursive = true ∨ tree.get? path ≠ none) := by
  rw [obstacle?_eq_none_iff, HoldsFile, get?]
  simp

/-- A way is made to its end exactly if it can be. -/
theorem ensureAncestors_eq_ok_iff (recursive : Bool) (path : Path) (tree : Tree) :
    (tree.ensureAncestors recursive path).1 = .ok () ↔ tree.Admits recursive path := by
  have distinct := path.pairwise_ancestors
  unfold ensureAncestors Admits
  cases uppers : path.ancestors with
  | nil => simp
  | cons root inner =>
    rw [uppers, List.pairwise_cons] at distinct
    -- once the root is there, what is further down is as it was
    have below : ∀ upper ∈ inner, (tree.filled [root.key]).obstacle? recursive upper.key =
        tree.obstacle? recursive upper.key := by
      intro upper member
      have other : upper.key ≠ root.key :=
        (Path.key_ne_of_mem_ancestors (distinct.1 upper member)).symm
      refine obstacle?_congr ?_
      rw [getElem?_filled]
      simp [other]
    simp only [List.map_cons, ensureDirectory_eq, List.forall_mem_cons, List.tail_cons]
    cases clear : tree.obstacle? true root.key with
    | some error =>
      have file : ¬¬tree.HoldsFile root := fun none => by
        rw [obstacle?_key_eq_none_iff.mpr ⟨none, Or.inl rfl⟩] at clear
        cases clear
      simp [file]
    | none =>
      simp only [ensureDirectories_eq, wayAnswer_eq_ok_iff, List.forall_mem_map]
      have free := (obstacle?_key_eq_none_iff.mp clear).1
      constructor
      · intro passed
        have passed upper member :=
          obstacle?_key_eq_none_iff.mp (below upper member ▸ passed upper member)
        refine ⟨⟨free, fun upper member => (passed upper member).1⟩, ?_⟩
        cases recursive with
        | true => exact Or.inl rfl
        | false => exact Or.inr fun upper member => (passed upper member).2.resolve_left nofun
      · rintro ⟨⟨-, files⟩, present⟩ upper member
        rw [below upper member, obstacle?_key_eq_none_iff]
        exact ⟨files upper member, present.imp_right fun all => all upper member⟩

/-! ### What is new -/

/-- `after` is `tree` with an entry at a place, and with directories on the way there where nothing
was. -/
structure Gains (tree : Tree) (path : Path) (entry : Entry) (after : Tree) : Prop where
  here : after.get? path = some entry
  above : ∀ upper ∈ path.ancestors, tree.get? upper = none → after.get? upper = some .directory
  elsewhere {key : List Char} (other : key ≠ path.key)
    (kept : ∀ upper ∈ path.ancestors, upper.key = key → tree.get? upper ≠ none) :
    after.entries[key]? = tree.entries[key]?

/-- An entry at the end of a way that was made to its end. -/
theorem Grows.gains (grows : tree.Grows (path.ancestors.map Path.key) after) (entry : Entry) :
    tree.Gains path entry (after.insert path.key entry) where
  here := by rw [get?, getElem?_entries_insert, if_pos rfl]
  above upper member missing := by
    have other : path.key ≠ upper.key := (Path.key_ne_of_mem_ancestors member).symm
    rw [get?, getElem?_entries_insert, if_neg other]
    rcases grows.made upper.key with same | ⟨-, -, made⟩
    · obtain ⟨directory, there, -⟩ := grows.directories upper.key (List.mem_map_of_mem member)
      rw [same, ← get?, missing] at there
      cases there
    · exact made
  elsewhere {key} other kept := by
    rw [getElem?_entries_insert, if_neg other.symm]
    rcases grows.made key with same | ⟨member, missing, -⟩
    · exact same
    · obtain ⟨upper, above, rfl⟩ := List.mem_map.mp member
      exact absurd missing (kept upper above rfl)

section Attempt

variable {fit : Prop} {finish : Tree → Tree} {outcome : Except TierError Unit × Tree}

/-- A change at the end of a way succeeds exactly if it fits what is there and the way can be made. -/
theorem Attempt.eq_ok_iff (attempt : tree.Attempt fit recursive path finish outcome) :
    outcome.1 = .ok () ↔ fit ∧ tree.Admits recursive path := by
  rw [← ensureAncestors_eq_ok_iff]
  cases attempt with
  | refused unfit => simp [unfit]
  | stopped fits way => simp [way]
  | finished fits way => simp [fits, way]

theorem Attempt.of_unfit (attempt : tree.Attempt fit recursive path finish outcome) (unfit : ¬fit) :
    outcome.2 = tree := by
  cases attempt with
  | refused => rfl
  | stopped fits | finished fits => exact absurd fits unfit

/-- If it succeeds in putting an entry there, the entry and the way are what is new. -/
theorem Attempt.gains (attempt : tree.Attempt fit recursive path (·.insert path.key entry) outcome)
    (done : outcome.1 = .ok ()) : tree.Gains path entry outcome.2 := by
  cases attempt with
  | refused | stopped => cases done
  | finished fits way =>
    obtain ⟨count, grows, all⟩ := ensureAncestors_grows recursive path tree
    rw [way] at grows all
    rw [List.take_of_length_le (all rfl)] at grows
    exact grows.gains entry

end Attempt

/-! ### Files and directories -/

theorem acceptsFile_iff {options : CreateFileOptions} : tree.AcceptsFile path options ↔
    tree.get? path = none ∨ tree.HoldsFile path ∧ options.overwrite = some true := by
  unfold AcceptsFile HoldsFile
  cases tree.get? path <;> cases overwrite : options.overwrite <;> simp

theorem acceptsDirectory_iff {options : CreateDirectoryOptions} :
    tree.AcceptsDirectory path options ↔
      tree.HoldsDirectory path ∧ options.allowExists = some true := by
  unfold AcceptsDirectory HoldsDirectory
  cases tree.get? path <;> cases options.allowExists <;> simp

/-- A directory is made, or was there. -/
theorem createDirectory_eq_ok_iff (options : CreateDirectoryOptions) :
    (tree.createDirectory path options).1 = .ok () ↔
      tree.HoldsDirectory path ∧ options.allowExists = some true ∨
        tree.get? path = none ∧ tree.Admits (options.recursive.getD false) path := by
  rw [← acceptsDirectory_iff]
  rcases tree.createDirectory_attempt path options with ⟨accepted, settled⟩ | ⟨fresh, attempt⟩
  · simp [accepted, settled]
  · rw [attempt.eq_ok_iff]
    simp [fresh]

theorem createDirectory_of_present (present : tree.get? path ≠ none)
    (options : CreateDirectoryOptions) : (tree.createDirectory path options).2 = tree := by
  rcases tree.createDirectory_attempt path options with ⟨-, settled⟩ | ⟨-, attempt⟩
  · rw [settled]
  · exact attempt.of_unfit present

theorem Rooted.createFile (rooted : tree.Rooted) (path : Path) (options : CreateFileOptions) :
    (tree.createFile path options).2.Rooted := by
  refine rooted.attempt_insert (tree.createFile_attempt path options) ?_
  rintro fits ⟨existing, there, folder⟩
  -- a file is made only where no directory is
  rw [(fits existing there).1] at folder
  cases folder

theorem Rooted.createDirectory (rooted : tree.Rooted) (path : Path)
    (options : CreateDirectoryOptions) : (tree.createDirectory path options).2.Rooted := by
  rcases tree.createDirectory_attempt path options with ⟨-, settled⟩ | ⟨-, attempt⟩
  · rwa [settled]
  · exact rooted.attempt_insert attempt fun _ _ => rfl

end Tree

namespace Store

/-- With the writer of a new file comes the file, empty and incomplete. -/
theorem of_answer_createFile {store : Store} {path : Path} {options : CreateFileOptions}
    {writer : Writer} (given : (store.answer (.createFile path options)).1 = .ok writer) :
    writer = { key := path.key } ∧
      store.tree.Gains path ((Entry.file [] false).withMode options.mode)
        (store.answer (.createFile path options)).2.tree := by
  have answered : (store.answer (.createFile path options)).1 =
      (store.tree.createFile path options).1.map fun () => { key := path.key } := rfl
  rw [answered] at given
  cases ends : (store.tree.createFile path options).1 with
  | error error => simp [ends, Except.map] at given
  | ok done =>
    rw [ends] at given
    exact ⟨(Except.ok.inj given).symm, (store.tree.createFile_attempt path options).gains ends⟩

/-- A file is made exactly if nothing is at its place, or a file is that may be replaced, and the way
there can be made, all of it unless told otherwise. A directory is made exactly if nothing is at its
place and the way there can be made, of which only the root is made unless told otherwise; a directory
that is there is left as it is, and that is a success if it was allowed. What is made is new, with the
mode asked for and no other attributes; the directories missing on the way are new, and nothing else
is. If everything lay below directories, it still does. -/
theorem answer_creation (store : Store) (path : Path) (fileOptions : CreateFileOptions)
    (directoryOptions : CreateDirectoryOptions) :
    let tree := store.tree
    let file := store.answer (.createFile path fileOptions)
    let directory := store.answer (.createDirectory path directoryOptions)
    ((∃ writer, file.1 = .ok writer) ↔
      (tree.get? path = none ∨ tree.HoldsFile path ∧ fileOptions.overwrite = some true) ∧
        tree.Admits (fileOptions.recursive.getD true) path) ∧
    (∀ writer, file.1 = .ok writer → writer = { key := path.key } ∧
      tree.Gains path
        { data := [], folder := false, completed := false
          mode := fileOptions.mode.getD Status.fileMode
          owner := none, group := none, pinned := false } file.2.tree) ∧
    (directory.1 = .ok () ↔
      tree.HoldsDirectory path ∧ directoryOptions.allowExists = some true ∨
        tree.get? path = none ∧ tree.Admits (directoryOptions.recursive.getD false) path) ∧
    (tree.get? path ≠ none → directory.2.tree = tree) ∧
    (tree.get? path = none → directory.1 = .ok () →
      tree.Gains path
        { data := [], folder := true, completed := true
          mode := directoryOptions.mode.getD Status.directoryMode
          owner := none, group := none, pinned := false } directory.2.tree) ∧
    (tree.Rooted → file.2.tree.Rooted ∧ directory.2.tree.Rooted) := by
  intro tree file directory
  have made := tree.createFile_attempt path fileOptions
  have answered : file.1 = (tree.createFile path fileOptions).1.map fun () => { key := path.key } := rfl
  refine ⟨?_, fun writer given => of_answer_createFile given,
    Tree.createDirectory_eq_ok_iff directoryOptions,
    fun present => Tree.createDirectory_of_present present directoryOptions,
    fun absent done => ?_, fun rooted => ⟨rooted.createFile path fileOptions,
      rooted.createDirectory path directoryOptions⟩⟩
  · rw [← Tree.acceptsFile_iff, ← made.eq_ok_iff, answered]
    cases (tree.createFile path fileOptions).1 <;> simp [Except.map]
  · rcases tree.createDirectory_attempt path directoryOptions with ⟨there, -⟩ | ⟨-, attempt⟩
    · obtain ⟨existing, present, -⟩ := there
      rw [absent] at present
      cases present
    · exact attempt.gains done

/-- A file goes into a directory that is missing, and a directory into another one. A third directory
is in neither of them. -/
theorem answer_creation_on_the_way :
    let aside : Path := ⟨none, none, ['/', 'a'], by decide⟩
    let above : Path := ⟨none, none, ['/', 'b'], by decide⟩
    let path : Path := ⟨none, none, ['/', 'b', '/', 'c'], by decide⟩
    let store : Store := { tree := (Tree.createDirectory {} aside {}).2 }
    let file := store.answer (.createFile path { mode := some 0o600 })
    let directory := store.answer (.createDirectory path { recursive := some true })
    file.1 = .ok { key := path.key } ∧ directory.1 = .ok () ∧
      file.2.tree.get? path = some { Entry.file [] false with mode := 0o600 } ∧
      directory.2.tree.get? path = some .directory ∧
      store.tree.get? above = none ∧ file.2.tree.get? above = some .directory ∧
      directory.2.tree.get? aside = store.tree.get? aside ∧
      store.tree.Rooted ∧ file.2.tree.Rooted ∧ directory.2.tree.Rooted ∧
      (store.answer (.createDirectory aside {})).2.tree = store.tree := by
  intro aside above path store file directory
  have made : file.1 = .ok { key := path.key } := by decide
  have made' : directory.1 = .ok () := by decide
  have absent : store.tree.get? path = none := by decide
  have missing : store.tree.get? above = none := by decide
  have rooted : store.tree.Rooted := Tree.Connected.empty.isRooted.createDirectory aside {}
  have present : store.tree.get? aside ≠ none := by decide
  have kept : ∀ upper ∈ path.ancestors, upper.key = aside.key → store.tree.get? upper ≠ none := by
    decide
  -- nothing else about the store matters
  clear_value store
  obtain ⟨-, new, -, -, new', stays⟩ :=
    store.answer_creation path { mode := some 0o600 } { recursive := some true }
  obtain ⟨-, gains⟩ := new _ made
  have gains' := new' absent made'
  obtain ⟨-, -, -, settled, -, -⟩ := store.answer_creation aside {} {}
  have aside' : directory.2.tree.get? aside = store.tree.get? aside :=
    gains'.elsewhere (by decide) kept
  exact ⟨made, made', gains.here, gains'.here, missing, gains.above above (by decide) missing,
    aside', rooted, (stays rooted).1, (stays rooted).2, settled present⟩

end Store

end CacheFirst.Memory
